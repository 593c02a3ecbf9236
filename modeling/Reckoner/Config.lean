/-! Evaluation settings. -/
namespace Reckoner

/-- Treatment of tokens after a complete expression. -/
inductive TrailingInput where
  | reject
  | ignore
  deriving DecidableEq, Repr

def TrailingInput.name : TrailingInput → String
  | reject => "reject"
  | ignore => "ignore"

inductive OverflowPolicy where
  | checked
  | saturating
  | wrapping
  deriving DecidableEq, Repr

def OverflowPolicy.name : OverflowPolicy → String
  | checked => "checked"
  | saturating => "saturating"
  | wrapping => "wrapping"

structure Config where
  /-- Maximum number of simultaneously open groups. -/
  maxDepth : Nat := 256
  trailingInput : TrailingInput := .reject
  overflow : OverflowPolicy := .checked
  deriving DecidableEq, Repr

end Reckoner
