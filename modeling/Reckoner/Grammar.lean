import Reckoner.Parser

/-! Recursive descent for infix text, with one token of lookahead:

    sum     := primary (operator primary)*
    primary := number | '(' sum ')'

Operators associate to the left. Every recursive call and iteration consumes a token first, so
the number of remaining words is sufficient fuel: with none left there is neither a `(` nor an
operator to continue with. -/
namespace Reckoner.Grammar

def number : ParserM Tree := do
  MonadExcept.ofExcept (Tree.ofToken (← Parser.expect .number))

/-- The depth remains raised when the group is not completed. -/
def groupOf (inner : ParserM Tree) : ParserM Tree := do
  let opening ← Parser.expect .openParen
  Parser.enterGroup opening.span.start
  let tree ← inner
  let _ ← Parser.expect .closeParen
  Parser.exitGroup
  return tree

mutual

def primaryWithin : Nat → ParserM Tree
  | 0 => number
  | n + 1 => do
    if (← get).kind? = some .openParen then
      groupOf do chainWithin n (← primaryWithin n)
    else number

/-- Extends the tree by operators and right operands while there are any. -/
def chainWithin : Nat → Tree → ParserM Tree
  | 0, left => return left
  | n + 1, left => do
    if (← get).kind? = some .additiveOperator then
      let operator ← Parser.expect .additiveOperator
      let right ← primaryWithin n
      chainWithin n (Tree.join operator left right)
    else return left

end

def sumWithin (n : Nat) : ParserM Tree := do chainWithin n (← primaryWithin n)

def primary : ParserM Tree := fun p => primaryWithin p.remaining p
def sum : ParserM Tree := fun p => sumWithin p.remaining p
def group : ParserM Tree := fun p => groupOf (sumWithin p.remaining) p

def parse (config : Config) : LexerM Tree := fun l =>
  match Parser.start config.maxDepth l with
  | .error e l => .error e l
  | .ok p _ =>
    let whole : ParserM Tree := do
      let tree ← sum
      Parser.finish config.trailingInput
      return tree
    match whole p with
    | .ok tree p => .ok tree p.lexer
    | .error e p => .error e p.lexer

end Reckoner.Grammar
