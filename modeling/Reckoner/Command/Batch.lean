import Reckoner.Command.Options
import Reckoner.Diagram
import Reckoner.Log.Calculation
import Reckoner.Text.Line
import Reckoner.Tree.Display

/-! Batches: answers and diagrams of several expressions in order. -/
namespace Reckoner.Command

structure Tally where
  stdout : String := ""
  stderr : String := ""
  failures : Nat := 0
  deriving DecidableEq, Repr

instance : Append Tally where
  append a b := ⟨a.stdout ++ b.stdout, a.stderr ++ b.stderr, a.failures + b.failures⟩

namespace Options

def calculator (o : Options) (config : Config) : Calculator := ⟨o.strategy, config⟩

def answer (o : Options) (config : Config) (source : String) : Except Error String :=
  let c := o.calculator config
  match o.output with
  | .tokens => (tokenize source).map fun ts => "\n".intercalate (ts.toList.map Token.display)
  | .tree => (c.parse source).map Tree.display
  | .value => (c.calculate source).map Value.text

def records (o : Options) (config : Config) (source : String) : List Log.Record :=
  let c := o.calculator config
  match o.output with
  | .tokens => tokenizeRecords source
  | .tree => c.parseRecords [] source
  | .value => c.calculateRecords source

/-- Appends the log of an expression and its answer or diagram. Fails when the diagram exceeds
the width limit, which ends the batch. -/
def account (o : Options) (config : Config) (log : List Log.Record → String) (t : Tally)
    (source : String) : Except Tally Tally :=
  let t := t ++ { stderr := log (o.records config source) }
  match o.answer config source with
  | .ok text => .ok (t ++ { stdout := text ++ "\n" })
  | .error e =>
    match e.diagram source with
    | some diagram => .ok (t ++ { stderr := diagram, failures := 1 })
    | none => .error t

def batch (o : Options) (config : Config) (log : List Log.Record → String)
    (sources : List String) : Except Tally Tally :=
  sources.foldlM (o.account config log) {}

end Options

def withoutEnd (line : List Char) : List Char :=
  match line.reverse with
  | '\n' :: '\r' :: rest => rest.reverse
  | '\n' :: rest => rest.reverse
  | _ => line

/-- The non-blank lines. -/
def expressions (input : String) : List String :=
  (((Text.lines input).map withoutEnd).filter fun cs => !cs.all Text.isBlank).map String.ofList

end Reckoner.Command
