import Reckoner.Text.Blank

/-! Words: maximal runs of characters that are not white space, with their byte spans, before
classification. -/
namespace Reckoner

/-- A half-open range of byte offsets. Spans can be built by hand, so neither order nor bounds
are guaranteed. -/
structure Span where
  start : Nat
  stop : Nat
  deriving DecidableEq, Repr, Inhabited

structure Word where
  text : String
  span : Span
  deriving DecidableEq, Repr

namespace Text

/-- Maximal runs of blank or of non-blank characters. -/
def runs (source : String) : List (List Char) :=
  source.toList.splitBy fun a b => isBlank a == isBlank b

/-- Places runs from `offset` on and keeps the words. -/
def placeRuns (offset : Nat) (placed : Array Word) : List (List Char) → Array Word
  | [] => placed
  | run :: rest =>
    let text := String.ofList run
    let stop := offset + text.utf8ByteSize
    placeRuns stop (if run.all isBlank then placed else placed.push ⟨text, offset, stop⟩) rest

theorem placeRuns_eq_append (offset : Nat) (placed : Array Word) (rest : List (List Char)) :
    placeRuns offset placed rest = placed ++ placeRuns offset #[] rest := by
  induction rest generalizing offset placed with
  | nil => simp [placeRuns]
  | cons run rest ih =>
    simp only [placeRuns]
    split
    · exact ih _ placed
    · rw [ih _ (placed.push _), ih _ (#[].push _)]
      simp

end Text

def words (source : String) : List Word := (Text.placeRuns 0 #[] (Text.runs source)).toList

end Reckoner
