import Reckoner.Text.Digits

/-! Values: signed 64-bit integers. Sums are formed exactly and then stored, so an overflow
policy is a function of the exact sum. -/
namespace Reckoner

abbrev Value := Int64

namespace Value

def least : Int := -9223372036854775808
def greatest : Int := 9223372036854775807

def ofInt? (n : Int) : Option Value :=
  if least ≤ n ∧ n ≤ greatest then some (Int64.ofInt n) else none

def clamp (n : Int) : Value := Int64.ofInt (max least (min n greatest))

/-- The residue modulo 2⁶⁴. -/
def wrap (n : Int) : Value := Int64.ofInt n

def natural? (digits : List Char) : Option Nat :=
  if Text.isDigits digits then some (Text.ofDigits digits) else none

/-- Decimal digits with at most one sign. Leading zeros are not significant. -/
def ofNumeral? (text : String) : Option Value :=
  match text.toList with
  | '-' :: digits => (natural? digits).bind fun n => ofInt? (-n)
  | '+' :: digits => (natural? digits).bind fun n => ofInt? n
  | digits => (natural? digits).bind fun n => ofInt? n

def text (v : Value) : String := toString v.toInt

end Value

end Reckoner
