import Reckoner.Text.Digits
import Reckoner.Text.Word

/-! Tokens: classified words. A word is classified as a whole, so `-5` is a number, `-` an
operator and `--5` unclassified. -/
namespace Reckoner

inductive TokenKind where
  | number
  | additiveOperator
  | openParen
  | closeParen
  deriving DecidableEq, Repr

namespace TokenKind

def name : TokenKind → String
  | number => "Number"
  | additiveOperator => "AdditiveOperator"
  | openParen => "OpenParen"
  | closeParen => "CloseParen"

/-- A number is ASCII digits with an optional minus sign; a plus sign is not allowed. -/
def ofWord? (text : String) : Option TokenKind :=
  match text.toList with
  | ['+'] => some additiveOperator
  | ['-'] => some additiveOperator
  | ['('] => some openParen
  | [')'] => some closeParen
  | '-' :: digits => if Text.isDigits digits then some number else none
  | digits => if Text.isDigits digits then some number else none

end TokenKind

structure Token where
  kind : TokenKind
  text : String
  span : Span
  deriving DecidableEq, Repr

def Token.display (t : Token) : String :=
  match t.kind with
  | .number => t.kind.name ++ " (" ++ t.text ++ ")"
  | _ => t.kind.name ++ " `" ++ t.text ++ "`"

end Reckoner
