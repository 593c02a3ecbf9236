import Reckoner.Token
import Reckoner.Value
import Reckoner.Text.Quoted

/-! Errors of lexing, parsing and evaluation, with their names, messages and tips. -/
namespace Reckoner

inductive Cause where
  /-- An unclassified or trailing word, or `endOfInput` at the end of the text. -/
  | unexpectedInput (text : String)
  | unexpectedTokenType (expected found : TokenKind) (text : String)
  | invalidOperator (operator : String)
  | invalidNodeType (kind : TokenKind)
  | numberParseError (text : String)
  | overflow (left : Value) (operator : String) (right : Value)
  | nestingTooDeep (limit : Nat)
  | mismatchedParentheses
  | invalidPostfixExpression
  deriving DecidableEq, Repr

/-- Marker for a missing word. It contains blanks, so it differs from every word. -/
def endOfInput : String := "end of input"

namespace Cause

def name : Cause → String
  | unexpectedInput .. => "UnexpectedInput"
  | unexpectedTokenType .. => "UnexpectedTokenType"
  | invalidOperator .. => "InvalidOperator"
  | invalidNodeType .. => "InvalidNodeType"
  | numberParseError .. => "NumberParseError"
  | overflow .. => "Overflow"
  | nestingTooDeep .. => "NestingTooDeep"
  | mismatchedParentheses => "MismatchedParentheses"
  | invalidPostfixExpression => "InvalidPostfixExpression"

/-- Texts from the source are quoted, except the operator of an overflow. -/
def message : Cause → String
  | unexpectedInput text => "unexpected input: " ++ Text.quoted text
  | unexpectedTokenType expected found text =>
    "unexpected token type: expected " ++ expected.name ++ ", found " ++ found.name ++ " " ++
      Text.quoted text
  | invalidOperator operator => "invalid operator: " ++ Text.quoted operator
  | invalidNodeType kind => "invalid node type: " ++ kind.name
  | numberParseError text => "error parsing number: " ++ Text.quoted text
  | overflow left operator right =>
    "integer overflow evaluating " ++ left.text ++ " " ++ operator ++ " " ++ right.text
  | nestingTooDeep limit => "parentheses nested deeper than " ++ toString limit
  | mismatchedParentheses => "mismatched parentheses"
  | invalidPostfixExpression => "invalid postfix expression"

/-- Texts from the source are in backticks and not escaped. -/
def tip? : Cause → Option String
  | unexpectedInput text =>
    if text = endOfInput then some "Input ended early, is an operand or `)` missing?"
    else some ("Unexpected input: `" ++ text ++ "`, are the tokens separated by whitespace?")
  | unexpectedTokenType expected found text =>
    some ("Expected " ++ expected.name ++ ", found " ++ found.name ++ " `" ++ text ++ "`")
  | invalidOperator _ => none
  | invalidNodeType _ => none
  | numberParseError text =>
    some ("Invalid number: `" ++ text ++ "`, is it above the integer limit?")
  | overflow .. => some "Result does not fit in a 64-bit integer"
  | nestingTooDeep limit =>
    some ("Parentheses may be nested at most " ++ toString limit ++ " deep")
  | mismatchedParentheses => some "Every `(` needs a matching `)`"
  | invalidPostfixExpression =>
    some "Each operator needs two operands and exactly one value must remain"

end Cause

structure Error where
  cause : Cause
  position : Nat
  deriving DecidableEq, Repr

def Error.message (e : Error) : String := e.cause.message ++ " at offset " ++ toString e.position

end Reckoner
