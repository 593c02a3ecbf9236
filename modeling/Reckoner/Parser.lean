import Reckoner.Tree.Basic
import Reckoner.Lexer
import Reckoner.Config

/-! Parser state: one token of lookahead and the number of open groups. A failure keeps the
state it has reached, so parsing can be resumed. -/
namespace Reckoner

structure Parser where
  lexer : Lexer
  /-- None at the end of the text, and after a failed pull. -/
  lookahead : Option Token
  depth : Nat
  maxDepth : Nat
  deriving DecidableEq, Repr

abbrev ParserM := EStateM Error Parser

namespace Parser

def start (maxDepth : Nat) : LexerM Parser := fun l =>
  match Lexer.next l with
  | .ok lookahead l => .ok ⟨l, lookahead, 0, maxDepth⟩ l
  | .error e l => .error e l

def ofSource (source : String) (maxDepth : Nat) : Except Error Parser :=
  (start maxDepth).on source

def kind? (p : Parser) : Option TokenKind := p.lookahead.map Token.kind

def position (p : Parser) : Nat :=
  match p.lookahead with
  | some t => t.span.start
  | none => p.lexer.stop

/-- Words not yet consumed, the lookahead included. -/
def remaining (p : Parser) : Nat := p.lexer.unread.length + p.lookahead.toList.length

/-- Consumes the lookahead if it has the given kind, then pulls the next one. A lookahead of
another kind stays. If the next word is unclassified, both words are lost. -/
def expect (kind : TokenKind) : ParserM Token := fun p =>
  match p.lookahead with
  | none => .error ⟨.unexpectedInput endOfInput, p.lexer.stop⟩ p
  | some t =>
    if t.kind = kind then
      match Lexer.next p.lexer with
      | .ok lookahead l => .ok t { p with lexer := l, lookahead := lookahead }
      | .error e l => .error e { p with lexer := l, lookahead := none }
    else .error ⟨.unexpectedTokenType kind t.kind t.text, t.span.start⟩ p

/-- Opens a group; `position` is reported when the limit is reached. -/
def enterGroup (position : Nat) : ParserM Unit := fun p =>
  if p.maxDepth ≤ p.depth then .error ⟨.nestingTooDeep p.maxDepth, position⟩ p
  else .ok () { p with depth := p.depth + 1 }

def exitGroup : ParserM Unit := fun p => .ok () { p with depth := p.depth - 1 }

def finish (trailing : TrailingInput) : ParserM Unit := fun p =>
  match p.lookahead, trailing with
  | some t, .reject => .error ⟨.unexpectedInput t.text, t.span.start⟩ p
  | _, _ => .ok () p

end Parser

end Reckoner
