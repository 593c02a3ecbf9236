import Reckoner.Log.Record
import Reckoner.Pattern.Reading
import Reckoner.Pattern.Search
import Reckoner.Text.Digits

/-! Conditions on scope fields: a name with an optional pattern for the value. -/
namespace Reckoner.Log

inductive Expectation where
  /-- A number or a truth value, which never equals a text. -/
  | data (text : String)
  | pattern (text : String) (program : Pattern.Program)
  deriving DecidableEq, Repr

inductive Refusal where
  | malformed
  /-- Unicode word boundaries. -/
  | unicodeWords
  deriving DecidableEq, Repr

def Refusal.message : Refusal → String
  | malformed => "error building NFA"
  | unicodeWords => "unsupported regex feature for DFAs: cannot build DFAs for regexes with " ++
      "Unicode word boundaries; switch to ASCII word boundaries, or heuristically enable " ++
      "Unicode word boundaries or use a different regex engine"

def isExponent : List Char → Bool
  | [] => true
  | 'e' :: rest => Text.isDigits (withoutSign rest)
  | 'E' :: rest => Text.isDigits (withoutSign rest)
  | _ => false
where
  withoutSign : List Char → List Char
    | '+' :: rest => rest
    | '-' :: rest => rest
    | rest => rest

/-- Decimal numbers with a digit before or after the point, infinities and NaN by name. -/
def isNumber (text : String) : Bool :=
  let cs := isExponent.withoutSign text.toList
  let whole := cs.takeWhile Char.isDigit
  let (fraction, rest) := match cs.dropWhile Char.isDigit with
    | '.' :: rest => (rest.takeWhile Char.isDigit, rest.dropWhile Char.isDigit)
    | rest => ([], rest)
  ["inf", "infinity", "nan"].contains (String.ofList cs).toLower ||
    (!(whole.isEmpty && fraction.isEmpty) && isExponent rest)

def Expectation.parse (text : String) : Except Refusal Expectation :=
  if text = "true" ∨ text = "false" ∨ isNumber text then .ok (.data text)
  else
    match Pattern.ofText? text with
    | none => .error .malformed
    | some p =>
      if p.needsUnicodeWords then .error .unicodeWords else .ok (.pattern text p.program)

def Expectation.isMetBy (e : Expectation) (text : String) : Bool :=
  match e with
  | data _ => false
  | pattern _ program => program.fits text

structure Condition where
  name : String
  value : Option Expectation
  deriving DecidableEq, Repr

/-- A name with an optional expectation after `=`. Text after a second `=` is ignored. -/
def Condition.parse (text : String) : Except Refusal Condition :=
  match text.splitOn "=" with
  | name :: value :: _ => (Expectation.parse value).map fun e => ⟨name, some e⟩
  | _ => .ok ⟨text, none⟩

def Condition.isAbout (c : Condition) (s : Scope) : Bool := s.fields.any (·.1 == c.name)

def Condition.isMetBy (c : Condition) (s : Scope) : Bool :=
  match c.value with
  | none => true
  | some e => s.fields.any fun (name, text) => name == c.name && e.isMetBy text

end Reckoner.Log
