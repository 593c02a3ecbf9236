/-! Shortest decimal text of binary floating-point numbers, on exact naturals. Among the
shortest digits the nearest are taken, and the greater of two equally near. -/
namespace Reckoner.Decimal

def twoTo (n : Nat) : Nat := Nat.pow 2 n
def tenTo (n : Nat) : Nat := Nat.pow 10 n

/-- `significand * 2 ^ exponent`, finite and positive, and whether the gap below it is half of
the gap above. -/
structure Binary where
  significand : Nat
  exponent : Int
  narrowBelow : Bool
  deriving DecidableEq, Repr

/-- The sign is ignored. -/
def Binary.ofBits (bits : UInt64) : Binary :=
  let fraction := bits.toNat % twoTo 52
  let biased : Nat := bits.toNat / twoTo 52 % twoTo 11
  if biased = 0 then ⟨fraction, -1074, false⟩
  else ⟨twoTo 52 + fraction, (biased : Int) - 1075, fraction = 0 && 1 < biased⟩

/-- The number and its rounding bounds, in quarter units of the last place over a common
denominator. -/
structure Interval where
  low : Nat
  value : Nat
  high : Nat
  denominator : Nat
  closed : Bool
  deriving DecidableEq, Repr

def Binary.interval (b : Binary) : Interval :=
  let scale := b.exponent - 2
  let up := twoTo scale.toNat
  let m := 4 * b.significand
  ⟨(m - if b.narrowBelow then 1 else 2) * up, m * up, (m + 2) * up, twoTo (-scale).toNat,
    b.significand % 2 = 0⟩

def Interval.holds (i : Interval) (n : Nat) (power : Int) : Bool :=
  let scaled := n * tenTo power.toNat * i.denominator
  let unit := tenTo (-power).toNat
  if i.closed then i.low * unit ≤ scaled && scaled ≤ i.high * unit
  else i.low * unit < scaled && scaled < i.high * unit

def Interval.magnitude (i : Interval) : Int :=
  if i.denominator ≤ i.value then (toString (i.value / i.denominator)).length - 1
  else
    let digits := (toString (i.denominator / i.value)).length
    if i.denominator ≤ i.value * tenTo (digits - 1) then 1 - (digits : Int) else -digits

/-- The neighbours on the grid of `10 ^ power`, nearest first. -/
def Interval.onGrid? (i : Interval) (power : Int) : Option Nat :=
  let numerator := i.value * tenTo (-power).toNat
  let denominator := i.denominator * tenTo power.toNat
  let below := numerator / denominator
  let nearest := if 2 * (numerator % denominator) < denominator then below else below + 1
  let other := if nearest = below then below + 1 else below
  if i.holds nearest power then some nearest
  else if i.holds other power then some other
  else none

def Interval.shortestFrom (i : Interval) (power : Int) : Nat → Nat × Int
  | 0 => (i.value / i.denominator, 0)
  | n + 1 =>
    match i.onGrid? power with
    | some digits => (digits, power)
    | none => i.shortestFrom (power - 1) n

/-- Digits with the power of ten of the last one. The first grid is one above the leading digit,
as the number can round to the next power of ten. Seventeen digits suffice for every double. -/
def Binary.shortest (b : Binary) : Nat × Int :=
  if b.significand = 0 then (0, 0) else b.interval.shortestFrom (b.interval.magnitude + 1) 18

/-- Positional notation without an exponent. Integers have `.0`. -/
def positional (digits : Nat) (power : Int) : String :=
  let ds := (toString digits).toList
  if 0 ≤ power then
    String.ofList (ds ++ List.replicate power.toNat '0' ++ ['.', '0'])
  else
    let places := (-power).toNat
    let ds := List.replicate (places + 1 - ds.length) '0' ++ ds
    String.ofList (ds.take (ds.length - places) ++ '.' :: ds.drop (ds.length - places))

def text (x : Float) : String :=
  if x.isNaN then "NaN"
  else
    let sign := if twoTo 63 ≤ x.toBits.toNat then "-" else ""
    if x.isInf then sign ++ "inf"
    else
      let (digits, power) := (Binary.ofBits x.toBits).shortest
      sign ++ positional digits power

/-- The nearest double, if finite. Powers far out of range are decided without computing them. -/
def toFloat? (negative : Bool) (digits : Nat) (power : Int) : Option Float :=
  let size := ((toString digits).length : Int) + power
  let magnitude :=
    if digits = 0 || size < -400 then 0.0
    else if 400 < size then 1.0 / 0.0
    else if 0 ≤ power then Float.ofScientific digits false power.toNat
    else Float.ofScientific digits true (-power).toNat
  if magnitude.isInf then none else some (if negative then -magnitude else magnitude)

end Reckoner.Decimal
