import Reckoner.Error
import Reckoner.Text.Blank
import Reckoner.Text.Line

/-! Diagrams of errors below their source line:

    Error: name (tip)
      |
    1 | 1 + x
      | ----^
-/
namespace Reckoner

def repeated (c : Char) (n : Nat) : String := String.ofList (List.replicate n c)

namespace Error

def header (e : Error) : String :=
  match e.cause.tip? with
  | none => "Error: " ++ e.cause.name
  | some tip => "Error: " ++ e.cause.name ++ " (" ++ tip ++ ")"

/-- Upper bound of a width given at run time. -/
def maxWidth : Nat := 65535

/-- Width of dashes and caret. Leading blanks of the line are trimmed and shift the caret left,
to the first column at most. -/
def caretWidth (e : Error) (source : String) : Nat :=
  let place := Text.locate source e.position
  place.column - (place.text.toList.takeWhile Text.isBlank).length + 1

def diagram (e : Error) (source : String) : Option String :=
  let place := Text.locate source e.position
  let number := toString place.line
  let margin := repeated ' ' (number.length + 1) ++ "|"
  let shown := String.ofList (Text.trim place.text.toList)
  let width := e.caretWidth source
  if width ≤ maxWidth then
    let caret := repeated '-' (width - 1) ++ "^"
    some (e.header ++ "\n" ++ margin ++ "\n" ++ number ++ " | " ++ shown ++ "\n" ++
      margin ++ " " ++ caret ++ "\n")
  else none

end Error

end Reckoner
