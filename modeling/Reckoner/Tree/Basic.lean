import Reckoner.Error

/-! Expression trees. Parentheses determine the shape and are not represented. -/
namespace Reckoner

inductive Tree where
  | literal (value : Value) (span : Span)
  | operation (operator : Token) (left right : Tree) (span : Span)
  deriving DecidableEq, Repr

namespace Tree

def span : Tree → Span
  | literal _ span => span
  | operation _ _ _ span => span

def isLiteral : Tree → Bool
  | literal .. => true
  | operation .. => false

/-- The span of an operation reaches from the start of the left operand to the stop of the right
one, wherever the operator is. -/
def join (operator : Token) (left right : Tree) : Tree :=
  operation operator left right ⟨left.span.start, right.span.stop⟩

/-- Only number tokens are leaves. -/
def ofToken (t : Token) : Except Error Tree :=
  if t.kind = .number then
    match Value.ofNumeral? t.text with
    | some v => .ok (literal v t.span)
    | none => .error ⟨.numberParseError t.text, t.span.start⟩
  else .error ⟨.invalidNodeType t.kind, t.span.start⟩

def size : Tree → Nat
  | literal .. => 1
  | operation _ left right _ => left.size + right.size + 1

def totalSize : List Tree → Nat
  | [] => 0
  | t :: rest => t.size + totalSize rest

/-- Post-order of the pending trees, last one first, in front of `listed`. -/
def listInto (listed : List Tree) : List Tree → List Tree
  | [] => listed
  | literal v s :: due => listInto (literal v s :: listed) due
  | operation o l r s :: due => listInto (operation o l r s :: listed) (r :: l :: due)
termination_by due => totalSize due
decreasing_by all_goals simp only [totalSize, size]; omega

/-- All subtrees in post-order. -/
def postorder (t : Tree) : List Tree := listInto [] [t]

end Tree

end Reckoner
