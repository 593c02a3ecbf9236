import Reckoner.Text.Quoted

/-! Log records: events inside the scopes open at the time. -/
namespace Reckoner.Log

inductive Level where
  | error
  | warn
  | info
  | debug
  | trace
  deriving DecidableEq, Repr

namespace Level

def name : Level → String
  | error => "ERROR"
  | warn => "WARN"
  | info => "INFO"
  | debug => "DEBUG"
  | trace => "TRACE"

/-- A threshold admits the levels up to that rank; zero admits none. -/
def rank : Level → Nat
  | error => 1
  | warn => 2
  | info => 3
  | debug => 4
  | trace => 5

end Level

abbrev Field := String × String

/-- A span of work around events. Its fields are rendered in quotes. -/
structure Scope where
  name : String
  target : String
  fields : List Field
  level : Level := .debug
  deriving DecidableEq, Repr

structure Event where
  level : Level
  target : String
  message : String
  fields : List Field := []
  deriving DecidableEq, Repr

structure Record where
  scopes : List Scope
  event : Event
  deriving DecidableEq, Repr

/-- Complaints about an unreadable filter text, and the rendering of records. -/
structure Subscriber where
  complaints : List String
  render : List Record → String

def Field.render (f : Field) : String := f.1 ++ "=" ++ f.2

def Scope.render (s : Scope) : String :=
  let fields := s.fields.map fun (name, text) => Field.render (name, Text.quoted text)
  s.name ++ "\x7b" ++ " ".intercalate fields ++ "\x7d"

/-- Controls that a terminal would interpret are rendered as escapes. -/
def disarmed (c : Char) : String :=
  match c with
  | '\x07' => "\\x07"
  | '\x08' => "\\x08"
  | '\x0c' => "\\x0c"
  | '\x1b' => "\\x1b"
  | '\x7f' => "\\x7f"
  | c =>
    if 0x80 ≤ c.toNat && c.toNat ≤ 0x9F then Text.numbered c else c.toString

def Event.text (e : Event) : String := String.join (e.message.toList.map disarmed)

def Record.render (r : Record) : String :=
  let scopes := match r.scopes with
    | [] => ""
    | scopes => ":".intercalate (scopes.map Scope.render) ++ ": "
  r.event.level.name ++ " " ++ scopes ++ r.event.target ++ ": " ++
    " ".intercalate (r.event.text :: r.event.fields.map Field.render)

end Reckoner.Log
