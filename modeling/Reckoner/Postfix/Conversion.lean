import Reckoner.Lexer

/-! Shunting-yard conversion of infix text. All operators have the same precedence, so the next
operator or the end of a group releases every operator pending in that group. -/
namespace Reckoner.Postfix

/-- Output, the stack of operators and parentheses (newest first), and whether an operand is due. -/
structure Yard where
  output : Array Token := #[]
  waiting : List Token := []
  openGroups : Nat := 0
  operandDue : Bool := true
  deriving DecidableEq, Repr

/-- Operands and operators alternate, so the kind found determines the kind expected. -/
def kindDue : TokenKind → TokenKind
  | .number | .openParen => .additiveOperator
  | .additiveOperator | .closeParen => .number

def outOfTurn (t : Token) : Error :=
  ⟨.unexpectedTokenType (kindDue t.kind) t.kind t.text, t.span.start⟩

namespace Yard

/-- Operators above the innermost parenthesis. -/
def released (y : Yard) : List Token := y.waiting.takeWhile (·.kind != .openParen)

def kept (y : Yard) : List Token := y.waiting.dropWhile (·.kind != .openParen)

def accept (maxDepth : Nat) (y : Yard) (t : Token) : Except Error Yard :=
  match t.kind with
  | .number =>
    if y.operandDue then .ok { y with output := y.output.push t, operandDue := false }
    else .error (outOfTurn t)
  | .additiveOperator =>
    if y.operandDue then .error (outOfTurn t)
    else
      let released := y.released
      let waiting := t :: y.kept
      .ok { y with output := y.output ++ released, waiting := waiting, operandDue := true }
  | .openParen =>
    if !y.operandDue then .error (outOfTurn t)
    else if maxDepth ≤ y.openGroups then .error ⟨.nestingTooDeep maxDepth, t.span.start⟩
    else .ok { y with waiting := t :: y.waiting, openGroups := y.openGroups + 1 }
  | .closeParen =>
    if y.operandDue then .error (outOfTurn t)
    else
      match y.kept with
      | [] => .error ⟨.mismatchedParentheses, t.span.start⟩
      | _ :: below =>
        let released := y.released
        let openGroups := y.openGroups - 1
        .ok { y with output := y.output ++ released, waiting := below, openGroups := openGroups }

/-- At the end of a text of `stop` bytes an operator must be due and no group open. -/
def finish (stop : Nat) (y : Yard) : Except Error (Array Token) :=
  if y.operandDue then .error ⟨.unexpectedInput endOfInput, stop⟩
  else
    match y.kept with
    | opening :: _ => .error ⟨.mismatchedParentheses, opening.span.start⟩
    | [] => .ok (y.output ++ y.released)

end Yard

/-- The tokens without parentheses, in reverse Polish order. -/
def convert (maxDepth : Nat) : LexerM (Array Token) := do
  let yard ← Lexer.feed (Yard.accept maxDepth) {}
  MonadExcept.ofExcept (yard.finish (← get).stop)

def render (tokens : List Token) : String := " ".intercalate (tokens.map Token.text)

end Reckoner.Postfix
