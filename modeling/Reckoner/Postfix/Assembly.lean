import Reckoner.Tree.Basic

/-! Trees from tokens in reverse Polish order, on a stack of parts. -/
namespace Reckoner.Postfix

/-- A tree with the nesting depth of its infix form. -/
structure Part where
  tree : Tree
  depth : Nat
  deriving DecidableEq, Repr

/-- A right operand is parenthesised unless it is a literal, a left operand never. -/
def Part.joinDepth (left right : Part) : Nat :=
  if right.tree.isLiteral then left.depth else max left.depth (right.depth + 1)

def assemble (maxDepth : Nat) (parts : List Part) (t : Token) : Except Error (List Part) :=
  match t.kind with
  | .additiveOperator =>
    match parts with
    | right :: left :: below =>
      let depth := left.joinDepth right
      if maxDepth < depth then .error ⟨.nestingTooDeep maxDepth, t.span.start⟩
      else .ok (⟨Tree.join t left.tree right.tree, depth⟩ :: below)
    | _ => .error ⟨.invalidPostfixExpression, t.span.start⟩
  | _ =>
    match Tree.ofToken t with
    | .ok tree => .ok (⟨tree, 0⟩ :: parts)
    | .error e => .error e

/-- The only remaining part. Otherwise the error is at the second part from the bottom, or at
zero for an empty text. -/
def single (parts : List Part) : Except Error Tree :=
  match parts with
  | [part] => .ok part.tree
  | parts =>
    let position := (parts.reverse[1]?.map fun part => part.tree.span.start).getD 0
    .error ⟨.invalidPostfixExpression, position⟩

def build (maxDepth : Nat) (tokens : List Token) : Except Error Tree := do
  single (← tokens.foldlM (assemble maxDepth) [])

end Reckoner.Postfix
