import Reckoner.Pattern.Flags

/-! Escape sequences in patterns. -/
namespace Reckoner.Pattern

inductive Escape where
  | char (c : Char)
  | chars (s : CharSet)
  | look (l : Look)
  deriving DecidableEq, Repr

def hexValue? (c : Char) : Option Nat :=
  if c.isDigit then some (c.toNat - '0'.toNat)
  else if 'a' ≤ c.toLower && c.toLower ≤ 'f' then some (c.toLower.toNat - 'a'.toNat + 10)
  else none

def readHex (f : Flags) (value : Nat) : Nat → List Char → Option (Nat × List Char)
  | 0, cs => some (value, f.skip cs)
  | count + 1, cs =>
    match f.skip cs with
    | [] => none
    | c :: rest =>
      match hexValue? c with
      | some digit => readHex f (16 * value + digit) count rest
      | none => none

def readCodePoint (f : Flags) (digits : Nat) (cs : List Char) : Option (Char × List Char) :=
  match readHex f 0 digits cs with
  | some (n, rest) => if n.isValidChar then some (Char.ofNat n, rest) else none
  | none => none

namespace Flags

/-- A class with a complement, written as a capital. The complement requires Unicode. -/
def class? (f : Flags) (negated : Bool) (p : Property) (ascii : CharSet) : Option CharSet :=
  if f.unicode then
    let s := CharSet.property p
    some (if negated then .complement s else s)
  else if negated then none
  else some ascii

def majorClass? (f : Flags) (negated : Bool) (letter : Char) : Option CharSet :=
  if !f.unicode then none
  else (Property.ofLetter? letter).map fun p =>
    let s := f.charSet (.property p)
    if negated then .complement s else s

end Flags

def isAscii (c : Char) : Bool := c.toNat < 0x80

/-- Single-character escapes. Punctuation is literal; angle brackets are word boundaries. -/
def Escape.ofChar? (f : Flags) (c : Char) : Option Escape :=
  match c with
  | 'a' => some (.char '\x07')
  | 'f' => some (.char '\x0c')
  | 't' => some (.char '\t')
  | 'n' => some (.char '\n')
  | 'r' => some (.char '\r')
  | 'v' => some (.char '\x0b')
  | 'A' => some (.look .textStart)
  | 'z' => some (.look .textEnd)
  | 'b' => some (.look (.wordBoundary f.unicode))
  | 'B' => some (.look (.notWordBoundary f.unicode))
  | '<' => some (.look (.wordStart f.unicode))
  | '>' => some (.look (.wordEnd f.unicode))
  | 'd' => (f.class? false .decimalDigit .asciiDigit).map chars
  | 'D' => (f.class? true .decimalDigit .asciiDigit).map chars
  | 's' => (f.class? false .blank .asciiSpace).map chars
  | 'S' => (f.class? true .blank .asciiSpace).map chars
  | 'w' => (f.class? false .word .asciiWord).map chars
  | 'W' => (f.class? true .word .asciiWord).map chars
  | c => if isAscii c && !c.isAlphanum then some (.char c) else none

/-- After the backslash. Two hexadecimal digits are a byte, restricted to ASCII without Unicode. -/
def readEscape (f : Flags) : List Char → Option (Escape × List Char)
  | [] => none
  | 'x' :: rest =>
    match readCodePoint f 2 rest with
    | some (c, rest) => if f.unicode || isAscii c then some (.char c, rest) else none
    | none => none
  | 'u' :: rest => (readCodePoint f 4 rest).map fun (c, rest) => (.char c, rest)
  | 'U' :: rest => (readCodePoint f 8 rest).map fun (c, rest) => (.char c, rest)
  | c :: rest =>
    if c = 'p' ∨ c = 'P' then
      match f.skip rest with
      | [] => none
      | letter :: rest =>
        (f.majorClass? (c == 'P') letter).map fun s => (.chars s, f.skip rest)
    else (Escape.ofChar? f c).map fun e => (e, rest)

end Reckoner.Pattern
