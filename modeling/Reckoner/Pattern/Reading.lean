import Reckoner.Pattern.Bracket

/-! Pattern parser: a single pass with a stack of open groups. -/
namespace Reckoner

namespace Pattern

/-- A pattern with its nesting depth. -/
structure Part where
  pattern : Pattern
  depth : Nat := 0
  /-- A flag setting has no pattern and cannot be repeated. -/
  isSetting : Bool := false

/-- Sequences and choices of several parts are one level deeper. -/
def Part.join (both : Pattern → Pattern → Pattern) (parts : List Part) : Part :=
  match parts.reverse with
  | [] => ⟨.empty, 0, false⟩
  | [part] => part
  | last :: before =>
    ⟨before.foldl (fun p part => both part.pattern p) last.pattern,
      (parts.map Part.depth).foldl max 0 + 1, false⟩

structure Group where
  flags : Flags := {}
  parts : List Part := []
  /-- Earlier alternatives, newest first. -/
  choices : List Part := []

namespace Group

def add (g : Group) (p : Pattern) (depth : Nat) : Group := { g with parts := ⟨p, depth, false⟩ :: g.parts }

def sequence (g : Group) : Part := Part.join .sequence g.parts.reverse

def nextChoice (g : Group) : Group := { g with parts := [], choices := g.sequence :: g.choices }

def body (g : Group) : Part := Part.join .choice (g.sequence :: g.choices).reverse

def repeat? (g : Group) (times : Times) (isPlain : Bool) : Option Group :=
  match g.parts with
  | [] => none
  | part :: before =>
    if part.isSetting then none
    else
      let p := Pattern.repetition times (isPlain != g.flags.swapGreed) part.pattern
      some { g with parts := ⟨p, part.depth + 1, false⟩ :: before }

end Group

/-- Digits, dots and brackets are not allowed at the start. -/
def isNameChar (isFirst : Bool) (c : Char) : Bool :=
  c == '_' || Text.isAlphabetic c ||
    (!isFirst && (Text.isNumeral c || c == '.' || c == '[' || c == ']'))

def readName? (cs : List Char) : Option (String × List Char) :=
  let name := cs.takeWhile (· != '>')
  match name, cs.dropWhile (· != '>') with
  | first :: more, _ :: rest =>
    if isNameChar true first && more.all (isNameChar false) then some (String.ofList name, rest)
    else none
  | _, _ => none

inductive Opening where
  | group (flags : Flags)
  | named (name : String)
  | setting (flags : Flags)

/-- After an opening parenthesis. Lookaround is not supported. -/
def readOpening (f : Flags) (cs : List Char) : Option (Opening × List Char) :=
  let named (cs : List Char) : Option (Opening × List Char) :=
    (readName? cs).map fun (name, rest) => (.named name, rest)
  match f.skip cs with
  | '?' :: '=' :: _ => none
  | '?' :: '!' :: _ => none
  | '?' :: '<' :: '=' :: _ => none
  | '?' :: '<' :: '!' :: _ => none
  | '?' :: 'P' :: '<' :: rest => named rest
  | '?' :: '<' :: rest => named rest
  | '?' :: rest =>
    match f.read [] rest with
    | some (flags, _, ':' :: rest) => some (.group flags, rest)
    | some (flags, _ :: _, ')' :: rest) => some (.setting flags, rest)
    | _ => none
  | rest => some (.group f, rest)

/-- Reads on inside `g`, with the enclosing groups in `outer`, innermost first, and the group
names so far. Each step takes a character, so any bound above their number is sufficient. -/
def read (bound : Nat) (names : List String) (outer : List Group) (g : Group) (cs : List Char) :
    Option Part :=
  match bound with
  | 0 => none
  | bound + 1 =>
    let f := g.flags
    let chars (s : CharSet) : Group := g.add (.chars s) 0
    let repeated (times : Times) (rest : List Char) : Option Part :=
      let (isPlain, rest) := match rest with
        | '?' :: rest => (false, rest)
        | rest => (true, rest)
      match g.repeat? times isPlain with
      | some g => read bound names outer g rest
      | none => none
    match f.skip cs with
    | [] => if outer.isEmpty then some g.body else none
    | '(' :: rest =>
      match readOpening f rest with
      | none => none
      | some (.group flags, rest) => read bound names (g :: outer) { flags := flags } rest
      | some (.named name, rest) =>
        if name ∈ names then none
        else read bound (name :: names) (g :: outer) { flags := f } rest
      | some (.setting flags, rest) =>
        read bound names outer { g with flags := flags, parts := ⟨.empty, 0, true⟩ :: g.parts } rest
    | ')' :: rest =>
      match outer with
      | [] => none
      | around :: outer =>
        read bound names outer (around.add g.body.pattern (g.body.depth + 1)) rest
    | '|' :: rest => read bound names outer g.nextChoice rest
    | '[' :: rest =>
      let (bracket, rest) := openBracket f rest
      match readBracket f (rest.length + 1) [] bracket rest with
      | some (s, rest) => read bound names outer (g.add (.chars s.set) s.depth) rest
      | none => none
    | '?' :: rest => repeated .atMostOnce rest
    | '*' :: rest => repeated .any rest
    | '+' :: rest => repeated .atLeastOnce rest
    | '{' :: _ => none
    | '.' :: rest =>
      match f.dot? with
      | some s => read bound names outer (chars s) rest
      | none => none
    | '^' :: rest => read bound names outer (g.add (.look f.start) 0) rest
    | '$' :: rest => read bound names outer (g.add (.look f.stop) 0) rest
    | '\\' :: rest =>
      match readEscape f rest with
      | none => none
      | some (.char c, rest) => read bound names outer (chars (f.charSet (.single c))) rest
      | some (.chars s, rest) => read bound names outer (chars s) rest
      | some (.look l, rest) => read bound names outer (g.add (.look l) 0) rest
    | c :: rest => read bound names outer (chars (f.charSet (.single c))) rest

def maxDepth : Nat := 250

end Pattern

/-- Counted repetitions are not supported. -/
def Pattern.ofText? (text : String) : Option Pattern :=
  let cs := text.toList
  match Pattern.read (cs.length + 1) [] [] {} cs with
  | some part => if part.depth ≤ Pattern.maxDepth then some part.pattern else none
  | none => none

end Reckoner
