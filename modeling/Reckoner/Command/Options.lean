import Reckoner.Calculator
import Reckoner.Text.Terminal

/-! Command-line arguments. Options can appear in any order around at most one expression, and
`--` ends them. The value of an option is validated when the next argument is recognised, or at
the end. -/
namespace Reckoner.Command

inductive Output where
  | value
  | tokens
  | tree
  deriving DecidableEq, Repr

structure Options where
  /-- If absent, expressions are the lines of the input. -/
  expression : Option String := none
  configPath : Option String := none
  strategy : Strategy := .recursiveDescent
  output : Output := .value
  verbosity : Nat := 0
  deriving DecidableEq, Repr

inductive Flag where
  | tokens
  | tree
  | verbose
  | help
  | version
  deriving DecidableEq, Repr

inductive Setting where
  | config
  | strategy
  deriving DecidableEq, Repr

inductive Switch where
  | flag (f : Flag)
  | setting (s : Setting)
  deriving DecidableEq, Repr

def Switch.ofName? : String → Option Switch
  | "tokens" => some (flag .tokens)
  | "tree" => some (flag .tree)
  | "verbose" => some (flag .verbose)
  | "help" => some (flag .help)
  | "version" => some (flag .version)
  | "config" => some (setting .config)
  | "strategy" => some (setting .strategy)
  | _ => none

def Switch.ofLetter? : Char → Option Switch
  | 'v' => some (flag .verbose)
  | 'h' => some (flag .help)
  | 'V' => some (flag .version)
  | 'c' => some (setting .config)
  | 's' => some (setting .strategy)
  | _ => none

def Flag.usage : Flag → String
  | tokens => "--tokens"
  | tree => "--tree"
  | verbose => "--verbose..."
  | help => "--help"
  | version => "--version"

def Setting.usage : Setting → String
  | config => "--config <CONFIG>"
  | strategy => "--strategy <STRATEGY>"

inductive Stop where
  | help
  | version
  | unexpectedArgument (text : String)
  | unexpectedValue (flag : Flag) (text : String)
  | missingValue (setting : Setting)
  | invalidValue (setting : Setting) (text : String)
  | repeated (usage : String)
  | conflict (first second : Flag)
  deriving DecidableEq, Repr

def quotedArgument (text : String) : String := "'" ++ Text.Terminal.highlighted text ++ "'"

/-- Text of the usage error, coloured for a terminal. -/
def Stop.message? : Stop → Option String
  | help => none
  | version => none
  | unexpectedArgument text => some ("error: unexpected argument " ++ quotedArgument text ++ " found")
  | unexpectedValue flag text =>
    some ("error: unexpected value " ++ quotedArgument text ++ " for '" ++ flag.usage ++
      "' found; no more were expected")
  | missingValue setting =>
    some ("error: a value is required for '" ++ setting.usage ++ "' but none was supplied")
  | invalidValue setting text =>
    some ("error: invalid value " ++ quotedArgument text ++ " for '" ++ setting.usage ++ "'")
  | repeated usage =>
    some ("error: the argument '" ++ usage ++ "' cannot be used multiple times")
  | conflict first second =>
    some ("error: the argument '" ++ first.usage ++ "' cannot be used with '" ++ second.usage ++ "'")

structure Draft where
  expression : Option String := none
  configPath : Option String := none
  strategy : Option Strategy := none
  /-- The `tokens` and `tree` flags given, newest first. -/
  outputs : List Flag := []
  verbosity : Nat := 0
  /-- An option whose value is not validated yet. -/
  pending : Option (Setting × Option String) := none
  deriving DecidableEq, Repr

namespace Draft

def assign (d : Draft) (setting : Setting) (value : Option String) : Except Stop Draft :=
  match value with
  | none => .error (.missingValue setting)
  | some text =>
    match setting with
    | .config =>
      if d.configPath.isSome then .error (.repeated setting.usage)
      else if text.isEmpty then .error (.missingValue setting)
      else .ok { d with configPath := text }
    | .strategy =>
      if d.strategy.isSome then .error (.repeated setting.usage)
      else if text.isEmpty then .error (.missingValue setting)
      else
        match Strategy.ofName? text with
        | some strategy => .ok { d with strategy := strategy }
        | none => .error (.invalidValue setting text)

def settle (d : Draft) : Except Stop Draft :=
  match d.pending with
  | none => .ok d
  | some (setting, value) => { d with pending := none }.assign setting value

def raise (d : Draft) (flag : Flag) : Except Stop Draft := do
  let d ← d.settle
  match flag with
  | .verbose => return { d with verbosity := d.verbosity + 1 }
  | .help => throw .help
  | .version => throw .version
  | .tokens | .tree =>
    if flag ∈ d.outputs then throw (.repeated flag.usage)
    else return { d with outputs := flag :: d.outputs }

def await (d : Draft) (setting : Setting) : Except Stop Draft := do
  return { ← d.settle with pending := some (setting, none) }

def set (d : Draft) (setting : Setting) (text : String) : Except Stop Draft := do
  (← d.settle).assign setting (some text)

def place (d : Draft) (text : String) : Except Stop Draft := do
  if d.expression.isSome then throw (.unexpectedArgument text)
  else return { ← d.settle with expression := some text }

def readLong (d : Draft) (cs : List Char) : Except Stop Draft :=
  let name := String.ofList (cs.takeWhile (· != '='))
  let value := match cs.dropWhile (· != '=') with
    | [] => none
    | _ :: value => some (String.ofList value)
  match Switch.ofName? name, value with
  | none, _ => .error (.unexpectedArgument ("--" ++ name))
  | some (.flag flag), none => d.raise flag
  | some (.flag flag), some text => .error (.unexpectedValue flag text)
  | some (.setting setting), none => d.await setting
  | some (.setting setting), some text => d.set setting text

/-- A cluster of flags, up to an option that takes the rest as its value, after an optional
equals sign. -/
def readShort (d : Draft) : List Char → Except Stop Draft
  | [] => .ok d
  | c :: rest =>
    match Switch.ofLetter? c, rest with
    | none, _ => .error (.unexpectedArgument (String.ofList ['-', c]))
    | some (.flag flag), rest => do (← d.raise flag).readShort rest
    | some (.setting setting), [] => d.await setting
    | some (.setting setting), '=' :: rest => d.set setting (String.ofList rest)
    | some (.setting setting), rest => d.set setting (String.ofList rest)

/-- A lone hyphen is not an option. -/
def read (d : Draft) : List String → Except Stop Draft
  | [] => d.settle
  | text :: rest =>
    match text.toList with
    | ['-', '-'] => do (← rest.foldlM place d).settle
    | '-' :: '-' :: name => do (← d.readLong name).read rest
    | '-' :: c :: letters => do (← d.readShort (c :: letters)).read rest
    | _ =>
      match d.pending with
      | some (setting, none) => { d with pending := some (setting, some text) }.read rest
      | _ => do (← d.place text).read rest

/-- At most one kind of output can be requested. -/
def finish (d : Draft) : Except Stop Options :=
  let options (output : Output) : Except Stop Options :=
    .ok ⟨d.expression, d.configPath, d.strategy.getD .recursiveDescent, output, d.verbosity⟩
  match d.outputs with
  | second :: first :: _ => .error (.conflict first second)
  | [.tokens] => options .tokens
  | [.tree] => options .tree
  | _ => options .value

end Draft

def Options.parse (arguments : List String) : Except Stop Options := do
  (← Draft.read {} arguments).finish

end Reckoner.Command
