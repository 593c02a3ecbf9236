import Reckoner.Pattern.Escape

/-! Bracketed character sets, with nesting and set operators. A bracket is case folded and then
negated when it closes. -/
namespace Reckoner.Pattern

structure Sized where
  set : CharSet
  depth : Nat := 0

inductive SetOperator where
  | intersection
  | difference
  | symmetricDifference
  deriving DecidableEq, Repr

def SetOperator.apply : SetOperator → CharSet → CharSet → CharSet
  | intersection => .intersection
  | difference => .difference
  | symmetricDifference => .symmetricDifference

structure Bracket where
  negated : Bool := false
  left : Option (SetOperator × Sized) := none
  /-- Newest first. -/
  items : List Sized := []
  /-- Only hyphens so far; these are literal, as is a closing bracket in first position. -/
  isFresh : Bool := true

namespace Bracket

def add (b : Bracket) (item : Sized) : Bracket := { b with items := item :: b.items }

def list (b : Bracket) : Sized :=
  match b.items with
  | [] => ⟨.empty, 0⟩
  | [item] => item
  | items => ⟨items.foldr (fun item s => .union s item.set) .empty,
      (items.map Sized.depth).foldl max 0 + 1⟩

/-- Operators associate to the left, on folded operands. -/
def value (b : Bracket) (f : Flags) : Sized :=
  let right := b.list
  match b.left with
  | none => right
  | some (operator, left) =>
    ⟨operator.apply (f.charSet left.set) (f.charSet right.set), max left.depth right.depth + 1⟩

def operate (b : Bracket) (f : Flags) (operator : SetOperator) : Bracket :=
  { b with left := some (operator, b.value f), items := [] }

/-- Negation requires Unicode. -/
def close? (b : Bracket) (f : Flags) : Option Sized :=
  let value := b.value f
  let set := f.charSet value.set
  if !b.negated then some ⟨set, value.depth + 1⟩
  else if f.unicode then some ⟨.complement set, value.depth + 1⟩
  else none

end Bracket

def openBracket (f : Flags) (cs : List Char) : Bracket × List Char :=
  match f.skip cs with
  | '^' :: rest => ({ negated := true }, rest)
  | rest => ({}, rest)

/-- A named class after its opening bracket, `:alpha:]` or `:^alpha:]`. The outer option is none
for an unknown name, the inner one for a class that requires Unicode. -/
def namedClass? (f : Flags) (cs : List Char) : Option (Option Sized × List Char) :=
  let read (negated : Bool) (cs : List Char) : Option (Option Sized × List Char) :=
    let name := String.ofList (cs.takeWhile (· != ':'))
    match CharSet.ofName? name, cs.dropWhile (· != ':') with
    | some s, ':' :: ']' :: rest =>
      let s := f.charSet s
      if !negated then some (some ⟨s, 0⟩, rest)
      else some (if f.unicode then some ⟨.complement s, 0⟩ else none, rest)
    | _, _ => none
  match cs with
  | ':' :: '^' :: rest => read true rest
  | ':' :: rest => read false rest
  | _ => none

def readMember (f : Flags) : List Char → Option (Escape × List Char)
  | [] => none
  | '\\' :: rest => readEscape f rest
  | c :: rest => some (.char c, rest)

def memberChar? (f : Flags) : Escape → Option Char
  | .char c => if f.unicode || isAscii c then some c else none
  | _ => none

def memberSet? (f : Flags) : Escape → Option CharSet
  | .chars s => some s
  | e => (memberChar? f e).map .single

/-- A hyphen before `]` or another hyphen does not form a range. -/
def readItem (f : Flags) (cs : List Char) : Option (CharSet × List Char) := do
  let (first, rest) ← readMember f cs
  let rest ← f.skip? rest
  match rest with
  | '-' :: after =>
    if f.peek? after = some ']' ∨ f.peek? after = some '-' then
      return (← memberSet? f first, rest)
    else
      let (last, rest) ← readMember f (← f.skip? after)
      let first ← memberChar? f first
      let last ← memberChar? f last
      if first ≤ last then return (.range first last, rest) else none
  | _ => return (← memberSet? f first, rest)

/-- Reads on inside `b`, with the enclosing brackets in `outer`, innermost first. Each step
takes a character of the bound. -/
def readBracket (f : Flags) (bound : Nat) (outer : List Bracket) (b : Bracket) (cs : List Char) :
    Option (Sized × List Char) :=
  match bound with
  | 0 => none
  | bound + 1 =>
    let plain (b : Bracket) (cs : List Char) : Option (Sized × List Char) := do
      let (s, rest) ← readItem f cs
      readBracket f bound outer (b.add ⟨s, 0⟩) rest
    let next := { b with isFresh := false }
    match f.skip cs with
    | [] => none
    | '[' :: rest =>
      match namedClass? f rest with
      | some (some s, rest) => readBracket f bound outer (next.add s) rest
      | some (none, _) => none
      | none =>
        let (inner, rest) := openBracket f rest
        readBracket f bound (next :: outer) inner rest
    | ']' :: rest =>
      if b.isFresh && b.items.isEmpty then
        readBracket f bound outer (next.add ⟨.single ']', 0⟩) rest
      else
        match b.close? f, outer with
        | none, _ => none
        | some s, [] => some (s, rest)
        | some s, around :: outer => readBracket f bound outer (around.add s) rest
    | '-' :: rest =>
      if b.isFresh then readBracket f bound outer (b.add ⟨.single '-', 0⟩) rest
      else
        match rest with
        | '-' :: rest => readBracket f bound outer (b.operate f .difference) rest
        | rest => plain b ('-' :: rest)
    | '&' :: '&' :: rest => readBracket f bound outer (next.operate f .intersection) rest
    | '~' :: '~' :: rest => readBracket f bound outer (next.operate f .symmetricDifference) rest
    | cs => plain next cs

end Reckoner.Pattern
