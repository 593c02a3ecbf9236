import Reckoner.Pattern.Basic

/-! Pattern programs, executed by a set of threads. A step continues at the next one unless it
states its targets. -/
namespace Reckoner.Pattern

inductive Step where
  | chars (s : CharSet)
  | look (l : Look)
  | jump (target : Nat)
  /-- Two continuations, the first preferred. -/
  | split (first second : Nat)
  | accept
  deriving DecidableEq, Repr

def Times.cost : Times → Nat
  | atMostOnce => 1
  | atLeastOnce => 1
  | any => 2

def size : Pattern → Nat
  | empty => 0
  | chars _ => 1
  | look _ => 1
  | sequence a b => a.size + b.size
  | choice a b => a.size + b.size + 2
  | repetition times _ p => p.size + times.cost

def branch (greedy : Bool) (more done : Nat) : Step :=
  if greedy then .split more done else .split done more

/-- Steps from `start` on. A repetition of a pattern that can be empty is compiled as an
optional one-or-more, so it is entered once per position. -/
def steps (p : Pattern) (start : Nat) : List Step :=
  match p with
  | empty => []
  | chars s => [.chars s]
  | look l => [.look l]
  | sequence a b => a.steps start ++ b.steps (start + a.size)
  | choice a b =>
    let second := start + a.size + 2
    .split (start + 1) second :: a.steps (start + 1) ++
      .jump (second + b.size) :: b.steps second
  | repetition .atMostOnce greedy p =>
    branch greedy (start + 1) (start + p.size + 1) :: p.steps (start + 1)
  | repetition .atLeastOnce greedy p =>
    p.steps start ++ [branch greedy start (start + p.size + 1)]
  | repetition .any greedy p =>
    let done := start + p.size + 2
    let again := if p.needsText then .jump start else branch greedy (start + 1) done
    branch greedy (start + 1) done :: p.steps (start + 1) ++ [again]

abbrev Program := Array Step

def program (p : Pattern) : Program := (p.steps 0).toArray.push .accept

end Reckoner.Pattern
