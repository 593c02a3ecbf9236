import Reckoner.Log.Condition
import Reckoner.Text.Category

/-! Log filters: comma-separated directives of the forms

    level    target    target=level    target[scope]=level    target[scope{field}]=level

A directive without a scope sets the threshold of its target, and the longest matching target
takes precedence. A directive with a scope or a field keeps that scope and the events inside. -/
namespace Reckoner.Log

structure Directive where
  /-- Matches targets that start with it; absent, it matches all. -/
  target : Option String := none
  scope : Option String := none
  field : Option Condition := none
  threshold : Nat := Level.trace.rank
  deriving DecidableEq, Repr

inductive Flaw where
  | malformed
  | unknownLevel
  | badField (cause : Refusal)
  deriving DecidableEq, Repr

def Flaw.message : Flaw → String
  | malformed => "invalid filter directive"
  | unknownLevel => "error parsing level filter: expected one of \"off\", \"error\", \"warn\", " ++
      "\"info\", \"debug\", \"trace\", or a number 0-5"
  | badField cause => "invalid field filter: " ++ cause.message

def thresholdNames : List String := ["off", "error", "warn", "info", "debug", "trace"]

/-- A level name in any case, or a number with optional zeros and plus sign. -/
def threshold? (text : String) : Option Nat :=
  let digits := match text.toList with
    | '+' :: digits => digits
    | digits => digits
  if Text.isDigits digits then
    let n := Text.ofDigits digits
    if n ≤ Level.trace.rank then some n else none
  else thresholdNames.findIdx? (· == text.toLower)

namespace Directive

/-- First character of a target: a letter, a numeral, `-`, `:` or `_`. -/
def isTargetStart (c : Char) : Bool := Text.isAlphanumeric c || c == '-' || c == ':' || c == '_'

/-- Offsets of the parts are computed without surrounding blanks but applied to the untrimmed
text, so a directive with blanks around it is cut wrongly. -/
def cut (whole : List Char) (start stop : Nat) : String :=
  String.ofList ((whole.drop start).take (stop - start))

def tail (whole : List Char) (start : Nat) : String := String.ofList (whole.drop start)

def withLevel (d : Directive) (text : String) : Except Flaw Directive :=
  if text.isEmpty then .ok d
  else
    match threshold? text with
    | some n => .ok { d with threshold := n }
    | none => .error .unknownLevel

def afterBracket (d : Directive) (whole : List Char) (start : Nat) (rest : List Char) :
    Except Flaw Directive :=
  match rest with
  | [] => .ok d
  | '=' :: _ => d.withLevel (tail whole (start + 1))
  | _ => .error .malformed

/-- After a closing brace at `start`. The field is parsed first. -/
def withField (target : Option String) (scope field : String) (whole : List Char) (start : Nat)
    (rest : List Char) : Except Flaw Directive :=
  if field.isEmpty then .error .malformed
  else
    match Condition.parse field, rest with
    | .error cause, _ => .error (.badField cause)
    | .ok c, ']' :: after =>
      let scope := if scope.isEmpty then none else some scope
      afterBracket { target := target, scope := scope, field := some c } whole (start + 1) after
    | .ok _, _ => .error .malformed

def inBracket (target : Option String) (whole : List Char) (start : Nat) (rest : List Char) :
    Except Flaw Directive :=
  let name := rest.takeWhile fun c => c != ']' && c != '{'
  let stop := start + name.length
  let scope := cut whole start stop
  match rest.drop name.length with
  | ']' :: after => afterBracket { target := target, scope := scope } whole (stop + 1) after
  | '{' :: after =>
    let inner := after.takeWhile (· != '}')
    let close := stop + 1 + inner.length
    match after.drop inner.length with
    | '}' :: after =>
      withField target scope (cut whole (stop + 1) close) whole (close + 1) after
    | _ => .error .malformed
  | _ => .error .malformed

/-- A single word is a level if it parses as one. -/
def parse (text : String) : Except Flaw Directive :=
  let whole := text.toList
  let body := Text.trim whole
  match body with
  | [] => .error .malformed
  | '[' :: rest => inBracket none whole 1 rest
  | c :: _ =>
    if !isTargetStart c then .error .malformed
    else
      let n := (body.takeWhile fun c => c != '=' && c != '[').length
      match body.drop n with
      | [] =>
        match threshold? text with
        | some threshold => .ok { threshold := threshold }
        | none => .ok { target := text }
      | '=' :: _ => withLevel { target := cut whole 0 n } (tail whole (n + 1))
      | _ :: rest => inBracket (cut whole 0 n) whole (n + 1) rest

def isScoped (d : Directive) : Bool := d.scope.isSome || d.field.isSome

def isPlain (d : Directive) : Bool :=
  d.scope.isNone && d.field.all (·.value.isNone)

def fitsTarget (d : Directive) (target : String) : Bool :=
  match d.target with
  | some start => start.toList.isPrefixOf target.toList
  | none => true

def fitsEvent (d : Directive) (e : Event) : Bool :=
  d.fitsTarget e.target &&
    d.field.all fun c => c.name == "message" || e.fields.any (·.1 == c.name)

def isAbout (d : Directive) (s : Scope) : Bool :=
  d.fitsTarget s.target &&
    (match d.scope with
    | some name => name == s.name
    | none => true) &&
    d.field.all (·.isAbout s)

def fitsValue (d : Directive) (s : Scope) : Bool := d.field.all (·.isMetBy s)

/-- Specificity of a directive for its target. -/
def weight (d : Directive) : Nat :=
  let target := match d.target with
    | some t => t.length + 1
    | none => 0
  2 * target + d.field.toList.length

def fieldName (d : Directive) : String := (d.field.map Condition.name).getD ""

/-- Precedence: higher specificity first, then the greater field name. -/
def isCloser (d e : Directive) : Bool :=
  e.weight < d.weight || (e.weight == d.weight && e.fieldName < d.fieldName)

def sameSubject (d e : Directive) : Bool :=
  d.target == e.target && d.scope == e.scope && d.field == e.field

end Directive

/-- Directives with distinct subjects, and the highest rank any record can have. -/
structure Filter where
  directives : List Directive
  loudest : Nat
  deriving DecidableEq, Repr

namespace Filter

/-- A later directive replaces an earlier one on the same subject. Value conditions require
scopes of all levels. -/
def ofDirectives (ds : List Directive) : Filter :=
  let directives := ds.foldl (fun kept d => kept.filter (!·.sameSubject d) ++ [d]) []
  let thresholds := ds.map fun d =>
    if d.field.all (·.value.isNone) then d.threshold else Level.trace.rank
  ⟨directives, thresholds.foldl max 0⟩

/-- The filter of a text, and complaints about its invalid parts. Without a valid directive the
filter is `threshold`. -/
def ofText (threshold : Nat) (text : String) : Filter × List String :=
  let parts := (text.splitOn ",").filter (!·.isEmpty)
  let directives := parts.filterMap fun part => (Directive.parse part).toOption
  let complaints := parts.filterMap fun part =>
    match Directive.parse part with
    | .ok _ => none
    | .error flaw => some ("ignoring `" ++ part ++ "`: " ++ flaw.message)
  let directives := if directives.isEmpty then [{ threshold := threshold }] else directives
  (ofDirectives directives, complaints)

def closest : List Directive → Nat
  | [] => 0
  | d :: ds => (ds.foldl (fun best d => if d.isCloser best then d else best) d).threshold

def plain (f : Filter) : List Directive := f.directives.filter Directive.isPlain

def about (f : Filter) (s : Scope) : List Directive :=
  f.directives.filter fun d => d.isScoped && d.isAbout s

/-- Visible scopes so far, and the threshold they impose on every target. -/
structure Inside where
  shown : List Scope := []
  threshold : Nat := 0
  deriving DecidableEq, Repr

def enter (f : Filter) (i : Inside) (s : Scope) : Inside :=
  let own := f.about s
  let isShown := s.level.rank ≤ f.loudest && (!own.isEmpty || s.level.rank ≤ i.threshold ||
    s.level.rank ≤ closest (f.plain.filter (·.fitsTarget s.target)))
  if isShown then
    let threshold := ((own.filter (·.fitsValue s)).map Directive.threshold).foldl max i.threshold
    ⟨i.shown ++ [s], threshold⟩
  else i

/-- The event with its visible scopes, or none if it is dropped. -/
def keep? (f : Filter) (i : Inside) (e : Event) : Option Record :=
  let rank := e.level.rank
  if rank ≤ i.threshold || rank ≤ closest (f.plain.filter (·.fitsEvent e)) then some ⟨i.shown, e⟩
  else none

def keepAll (f : Filter) (records : List Record) : List Record :=
  let inside := ((records.head?.map Record.scopes).getD []).foldl f.enter {}
  records.filterMap fun r => f.keep? inside r.event

def render (f : Filter) (records : List Record) : String :=
  let kept := (records.splitBy fun r s => r.scopes == s.scopes).flatMap f.keepAll
  String.join (kept.map fun r => r.render ++ "\n")

def subscribe (threshold : Nat) (text : Option String) : Subscriber :=
  let (filter, complaints) := ofText threshold (text.getD "")
  ⟨complaints, filter.render⟩

end Filter

end Reckoner.Log
