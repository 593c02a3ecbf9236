import Reckoner.Command.Batch
import Reckoner.Command.Folder
import Reckoner.Config.Reading

/-! Runs of the program: arguments, log, settings and expressions, to outputs and exit status. -/
namespace Reckoner.Command

structure Surroundings where
  logFilter : Option String := none
  /-- Log subscriber for a threshold and an optional filter text. -/
  subscribe : Nat → Option String → Log.Subscriber
  read : String → Except ReadFailure ByteArray
  input : ByteArray := .empty
  /-- Message of the runtime when a run is aborted. -/
  notice : String := "Formatting argument out of range\n"

structure Report where
  status : Nat := 0
  stdout : String := ""
  stderr : String := ""
  deriving DecidableEq, Repr

inductive Failure where
  | unreadableConfig (path : String) (cause : String)
  | badConfig (refusal : Config.Refusal)
  | unreadableInput
  | expressions (failed total : Nat)
  deriving DecidableEq, Repr

def notText : String := "stream did not contain valid UTF-8"

namespace Failure

def summary : Failure → String
  | unreadableConfig path _ => "reading config file " ++ path
  | badConfig _ => Config.Refusal.summary
  | unreadableInput => "reading expressions from stdin"
  | expressions failed total => toString failed ++ " of " ++ toString total ++ " expressions failed"

def cause? : Failure → Option String
  | unreadableConfig _ cause => some cause
  | badConfig refusal => some refusal.message
  | unreadableInput => some notText
  | expressions .. => none

/-- Every line of the cause is indented. -/
def render (f : Failure) : String :=
  let cause := match f.cause? with
    | some cause =>
      "\n\nCaused by:\n" ++ "\n".intercalate ((cause.splitOn "\n").map ("    " ++ ·))
    | none => ""
  "Error: " ++ f.summary ++ cause ++ "\n"

end Failure

def usage : String :=
  String.join ([
    "Evaluate whitespace-separated integer expressions",
    "",
    "Usage: calc [OPTIONS] [EXPRESSION]",
    "",
    "Arguments:",
    "  [EXPRESSION]  The expression to evaluate; one per line is read from stdin when omitted",
    "",
    "Options:",
    "  -c, --config <CONFIG>      A toml file containing configuration",
    "  -s, --strategy <STRATEGY>  How the input is parsed",
    "      --tokens               Print the tokens instead of evaluating",
    "      --tree                 Print the parsed tree instead of evaluating",
    "  -v, --verbose...           Show more in logs, may be provided multiple times",
    "  -h, --help                 Print help",
    "  -V, --version              Print version"].map (· ++ "\n"))

/-- Terminal sequences are removed. -/
def Stop.report (s : Stop) : Report :=
  match s.message? with
  | some message => { status := 2, stderr := Text.Terminal.plainText (message ++ "\n") }
  | none => { stdout := if s = .help then usage else "calculator 0.1.0\n" }

namespace Options

def threshold (o : Options) : Nat :=
  match o.verbosity with
  | 0 => Log.Level.warn.rank
  | 1 => Log.Level.info.rank
  | 2 => Log.Level.debug.rank
  | _ => Log.Level.trace.rank

def readConfig (o : Options) (s : Surroundings) : Except Failure Config :=
  match o.configPath with
  | none => .ok {}
  | some path =>
    match s.read path with
    | .error failure => .error (.unreadableConfig path failure.message)
    | .ok bytes =>
      match String.fromUTF8? bytes with
      | none => .error (.unreadableConfig path notText)
      | some text => (Config.ofToml text).mapError Failure.badConfig

def readingRecords (o : Options) : List Log.Record :=
  o.configPath.toList.map fun path =>
    ⟨[], { level := .info, target := "calculator::config", message := "reading config from " ++ path }⟩

def startRecord (o : Options) (config : Config) : Log.Record :=
  let trailing := match config.trailingInput with
    | .reject => "Reject"
    | .ignore => "Ignore"
  let overflow := match config.overflow with
    | .checked => "Checked"
    | .saturating => "Saturating"
    | .wrapping => "Wrapping"
  let strategy := match o.strategy with
    | .recursiveDescent => "RecursiveDescent"
    | .shuntingYard => "ShuntingYard"
    | .reversePolish => "Postfix"
  let config := "Config \x7b max_depth: " ++ toString config.maxDepth ++ ", trailing_input: " ++
    trailing ++ ", overflow: " ++ overflow ++ " \x7d"
  ⟨[], .info, "calc", "starting", [("config", config), ("strategy", strategy)]⟩

/-- The expression argument, or the lines of the input, which is read completely beforehand. -/
def sources (o : Options) (s : Surroundings) : Except Failure (List String) :=
  match o.expression with
  | some source => .ok [source]
  | none =>
    match String.fromUTF8? s.input with
    | some text => .ok (expressions text)
    | none => .error .unreadableInput

end Options

def Tally.report (t : Tally) (told : String) (total : Nat) : Report :=
  if t.failures = 0 then ⟨0, t.stdout, told ++ t.stderr⟩
  else ⟨1, t.stdout, told ++ t.stderr ++ (Failure.expressions t.failures total).render⟩

def Tally.abort (t : Tally) (told notice : String) : Report :=
  ⟨101, t.stdout, told ++ t.stderr ++ notice⟩

def conclude (batch : Except Tally Tally) (told notice : String) (total : Nat) : Report :=
  match batch with
  | .ok t => t.report told total
  | .error t => t.abort told notice

def Failure.report (f : Failure) (told : String) : Report := ⟨1, "", told ++ f.render⟩

def Options.run (o : Options) (s : Surroundings) : Report :=
  let log := s.subscribe o.threshold s.logFilter
  let told := String.join (log.complaints.map (· ++ "\n")) ++ log.render o.readingRecords
  match o.readConfig s with
  | .error f => f.report told
  | .ok config =>
    let told := told ++ log.render [o.startRecord config]
    match o.sources s with
    | .error f => f.report told
    | .ok sources => conclude (o.batch config log.render sources) told s.notice sources.length

def run (arguments : List String) (s : Surroundings) : Report :=
  match Options.parse arguments with
  | .ok o => o.run s
  | .error stop => stop.report

end Reckoner.Command
