import Reckoner.Calculator
import Reckoner.Log.Record
import Reckoner.Postfix.Conversion

/-! Log records of a calculation: every token when it is taken, and each stage that succeeds. -/
namespace Reckoner

def Token.record (scopes : List Log.Scope) (t : Token) : Log.Record :=
  ⟨scopes, .trace, "calculator::lexer::lexer", "lexed token",
    [("token", t.display), ("offset", toString t.span.start)]⟩

/-- Tokens taken from a text by work that left the lexer at `l`. Refused words are not recorded. -/
def Lexer.taken (source : String) (l : Lexer) : List Token :=
  let all := (Lexer.ofSource source).unread
  (all.take (all.length - l.unread.length)).filterMap fun w => w.token.toOption

/-- Final lexer of the work, on success and on failure. -/
def LexerM.leaves {α : Type} (work : LexerM α) (source : String) : Lexer :=
  match work (Lexer.ofSource source) with
  | .ok _ l => l
  | .error _ l => l

def tokenRecords {α : Type} (scopes : List Log.Scope) (work : LexerM α) (source : String) :
    List Log.Record :=
  ((work.leaves source).taken source).map (Token.record scopes)

def tokenizeRecords (source : String) : List Log.Record := tokenRecords [] Lexer.rest source

namespace Strategy

def scope (strategy : Strategy) (source : String) : Log.Scope :=
  let (name, target) := match strategy with
    | recursiveDescent => ("parse_with", "calculator::parser::parser")
    | shuntingYard => ("parse_infix", "calculator::postfix::postfix")
    | reversePolish => ("parse_postfix", "calculator::postfix::postfix")
  { name := name, target := target, fields := [("source", source)] }

/-- Record of the stage between tokens and tree, if it was reached. -/
def stage (strategy : Strategy) (config : Config) (source : String) : Option Log.Event :=
  match strategy with
  | recursiveDescent =>
    match (strategy.parse config).on source with
    | .ok tree => some ⟨.debug, "calculator::parser::parser", "parsed expression",
        [("end", toString tree.span.stop)]⟩
    | .error _ => none
  | shuntingYard =>
    match (Postfix.convert config.maxDepth).on source with
    | .ok tokens => some ⟨.debug, "calculator::postfix::postfix", "converted to postfix",
        [("postfix", Postfix.render tokens.toList)]⟩
    | .error _ => none
  | reversePolish => none

end Strategy

namespace Calculator

def parseRecords (c : Calculator) (outer : List Log.Scope) (source : String) : List Log.Record :=
  let scopes := outer ++ [c.strategy.scope source]
  tokenRecords scopes (c.strategy.parse c.config) source ++
    (c.strategy.stage c.config source).toList.map fun e => ⟨scopes, e⟩

/-- Evaluation is recorded only when it succeeds. -/
def evaluationRecords (c : Calculator) (scopes : List Log.Scope) (t : Tree) : List Log.Record :=
  match t.evaluate c.config.overflow with
  | .ok v =>
    [⟨scopes, .debug, "calculator::evaluator::evaluator", "evaluated expression",
        [("result", v.text), ("start", toString t.span.start)]⟩,
      ⟨scopes, .debug, "calculator::calculator::calculator", "calculated",
        [("result", v.text)]⟩]
  | .error _ => []

def calculateRecords (c : Calculator) (source : String) : List Log.Record :=
  let scope : Log.Scope :=
    { name := "calculate", target := "calculator::calculator::calculator",
      fields := [("expression", source)] }
  c.parseRecords [scope] source ++
    (match c.parse source with
    | .ok tree => c.evaluationRecords [scope] tree
    | .error _ => [])

end Calculator

end Reckoner
