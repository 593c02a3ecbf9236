import Reckoner.Tree.Basic
import Reckoner.Config

/-! Evaluation in post-order up to the first error. Left operands can be as deep as a sum is
long, so pending work is kept in a list. -/
namespace Reckoner

/-- Applies the policy to an exact sum. -/
def OverflowPolicy.store? : OverflowPolicy → Int → Option Value
  | checked, n => Value.ofInt? n
  | saturating, n => some (Value.clamp n)
  | wrapping, n => some (Value.wrap n)

def Token.combine? (t : Token) (left right : Int) : Option Int :=
  if t.kind = .additiveOperator then
    if t.text = "+" then some (left + right)
    else if t.text = "-" then some (left - right)
    else none
  else none

def OverflowPolicy.apply (policy : OverflowPolicy) (operator : Token) (left right : Value) :
    Except Error Value :=
  match operator.combine? left.toInt right.toInt with
  | none => .error ⟨.invalidOperator operator.text, operator.span.start⟩
  | some n =>
    match policy.store? n with
    | some v => .ok v
    | none => .error ⟨.overflow left operator.text right, operator.span.start⟩

namespace Evaluation

/-- An operator pending on its left operand, with the right tree, or on its right operand, with
the left value. -/
inductive Waiting where
  | left (operator : Token) (right : Tree)
  | right (operator : Token) (left : Value)

inductive Focus where
  | tree (t : Tree)
  | value (v : Value)

def Waiting.weight : Waiting → Nat
  | left _ r => 2 * r.size + 1
  | right .. => 1

def totalWeight : List Waiting → Nat
  | [] => 0
  | w :: rest => w.weight + totalWeight rest

def Focus.weight : Focus → Nat
  | tree t => 2 * t.size
  | value _ => 1

def run (policy : OverflowPolicy) : Focus → List Waiting → Except Error Value
  | .tree (.literal v _), waiting => run policy (.value v) waiting
  | .tree (.operation o l r _), waiting => run policy (.tree l) (.left o r :: waiting)
  | .value v, [] => .ok v
  | .value v, .left o r :: waiting => run policy (.tree r) (.right o v :: waiting)
  | .value v, .right o l :: waiting =>
    match policy.apply o l v with
    | .ok v => run policy (.value v) waiting
    | .error e => .error e
termination_by focus waiting => focus.weight + totalWeight waiting
decreasing_by all_goals simp only [totalWeight, Focus.weight, Waiting.weight, Tree.size]; omega

end Evaluation

def Tree.evaluate (t : Tree) (policy : OverflowPolicy) : Except Error Value :=
  Evaluation.run policy (.tree t) []

end Reckoner
