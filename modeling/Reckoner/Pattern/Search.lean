import Reckoner.Pattern.Program

/-! Leftmost-first search over the whole text. A text fits if the preferred match ends with it. -/
namespace Reckoner.Pattern

namespace Program

/-- Steps reachable without a character, in order of preference, from `targets` given the
reversed `seen`. Each step adds at most two targets, which bounds the recursion. -/
def reach (code : Program) (p : Place) (bound : Nat) (seen targets : List Nat) : List Nat :=
  match bound, targets with
  | 0, _ => seen.reverse
  | _, [] => seen.reverse
  | bound + 1, target :: rest =>
    if seen.contains target then reach code p bound seen rest
    else
      let next := match code[target]? with
        | some (.jump t) => t :: rest
        | some (.split a b) => a :: b :: rest
        | some (.look l) => if l.holds p then (target + 1) :: rest else rest
        | _ => rest
      reach code p bound (target :: seen) next

def threads (code : Program) (p : Place) (targets : List Nat) : List Nat :=
  reach code p (2 * code.size + targets.length) [] targets

def accepts (code : Program) (target : Nat) : Bool := code[target]? == some .accept

def advance? (code : Program) (c : Char) (target : Nat) : Option Nat :=
  match code[target]? with
  | some (.chars s) => if s.contains c then some (target + 1) else none
  | _ => none

/-- Active threads by preference, and whether further matches can start. -/
structure Search where
  behind : Option Char := none
  targets : List Nat := []
  isOpen : Bool := true

namespace Search

def threads (s : Search) (code : Program) (ahead : Option Char) : List Nat :=
  code.threads ⟨s.behind, ahead⟩ (if s.isOpen then s.targets ++ [0] else s.targets)

/-- A match that starts and ends inside the encoding of a character. -/
def matchesInside (code : Program) (c : Char) : Bool :=
  1 < c.utf8Size && (code.threads ⟨some c, some c⟩ [0]).any code.accepts

/-- Consumes a character. Threads after an accepting one are dropped, and no match starts after
it. -/
def pass (code : Program) (s : Search) (c : Char) : Search :=
  let reached := s.threads code (some c)
  { behind := some c
    targets := (reached.takeWhile (!code.accepts ·)).filterMap (code.advance? c)
    isOpen := s.isOpen && !reached.any code.accepts && !matchesInside code c }

end Search

def fits (code : Program) (text : String) : Bool :=
  ((text.toList.foldl (Search.pass code) {}).threads code none).any code.accepts

end Program

end Reckoner.Pattern
