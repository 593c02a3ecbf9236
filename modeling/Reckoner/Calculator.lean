import Reckoner.Grammar
import Reckoner.Postfix.Conversion
import Reckoner.Postfix.Assembly
import Reckoner.Evaluation

/-! Calculation: one of three parsing strategies, followed by evaluation. -/
namespace Reckoner

/-- The first two read infix text, the third reverse Polish text. -/
inductive Strategy where
  | recursiveDescent
  | shuntingYard
  | reversePolish
  deriving DecidableEq, Repr

def Strategy.all : List Strategy := [.recursiveDescent, .shuntingYard, .reversePolish]

def Strategy.name : Strategy → String
  | recursiveDescent => "recursive-descent"
  | shuntingYard => "shunting-yard"
  | reversePolish => "postfix"

def Strategy.ofName? (name : String) : Option Strategy := all.find? (·.name == name)

def Strategy.parse (strategy : Strategy) (config : Config) : LexerM Tree :=
  match strategy with
  | recursiveDescent => Grammar.parse config
  | shuntingYard => do
    let tokens ← Postfix.convert config.maxDepth
    MonadExcept.ofExcept (Postfix.build config.maxDepth tokens.toList)
  | reversePolish => do
    let tokens ← Lexer.rest
    MonadExcept.ofExcept (Postfix.build config.maxDepth tokens.toList)

structure Calculator where
  strategy : Strategy := .recursiveDescent
  config : Config := {}
  deriving DecidableEq, Repr

namespace Calculator

def parse (c : Calculator) (source : String) : Except Error Tree :=
  (c.strategy.parse c.config).on source

def calculate (c : Calculator) (source : String) : Except Error Value := do
  (← c.parse source).evaluate c.config.overflow

end Calculator

end Reckoner
