import Reckoner.Toml.Scan
import Reckoner.Value
import Reckoner.Decimal.Shortest

/-! TOML documents: tables in header order, entries in source order. Duplicate keys are left to
the consumer. Dates are checked at token level and not retained. -/
namespace Reckoner.Toml

inductive Value where
  | string (text : String)
  | integer (n : Int)
  | float (x : Float)
  | boolean (b : Bool)
  | datetime
  | array (items : List (Nat × Value))
  | inlineTable (entries : List (String × Nat × Value))
  /-- Opened by a dotted key. -/
  | dottedTable (entries : List (String × Nat × Value))
  deriving Inhabited

def Value.kindName : Value → String
  | string _ => "string"
  | integer _ => "integer"
  | float _ => "float"
  | boolean _ => "boolean"
  | datetime => "datetime"
  | array _ => "array"
  | inlineTable _ => "inline table"
  | dottedTable _ => "dotted table"

abbrev Entry := String × Nat × Value

/-- Entries under one header; empty before the first one. -/
structure Table where
  start : Nat
  header : List String
  isArray : Bool
  entries : List Entry

/-- Token reader. Failure has no cause, as every invalid document is reported alike. -/
abbrev Reader := StateT (List Lexeme) Option

namespace Reader

def next : Reader Lexeme := fun ts =>
  match ts with
  | [] => none
  | t :: rest => some (t, rest)

def accept (t : Token) : Reader Bool := fun ts =>
  match ts with
  | [] => some (false, [])
  | first :: rest => some (if first.token = t then (true, rest) else (false, ts))

def expect (t : Token) : Reader Unit := do
  if !(← accept t) then failure

def skipBlank : Reader Unit := fun ts =>
  match ts with
  | ⟨_, .blank _⟩ :: rest => some ((), rest)
  | _ => some ((), ts)

def bare : Reader String := do
  match (← next).token with
  | .bare text => return text
  | _ => failure

def lineEnd : Reader Unit := fun ts =>
  match ts with
  | [] => some ((), [])
  | ⟨_, .newline⟩ :: rest => some ((), rest)
  | _ => none

def commentEnd : Reader Unit := do
  skipBlank
  let _ ← accept .comment
  lineEnd

def skipLines : Nat → Reader Unit
  | 0 => pure ()
  | n + 1 => do
    skipBlank
    if ← accept .newline then skipLines n
    else if ← accept .comment then
      lineEnd
      skipLines n

def key : Reader String := do
  match (← next).token with
  | .bare text => return text
  | .string text false => return text
  | _ => failure

def path : Nat → Reader (List String)
  | 0 => failure
  | n + 1 => do
    skipBlank
    let first ← key
    skipBlank
    if ← accept .dot then return first :: (← path n) else return [first]

end Reader

def isDigitIn (radix : Nat) (c : Char) : Bool :=
  match hexValue? c with
  | some n => n < radix
  | none => false

/-- Sign, digits without underscores, and the remaining text. -/
structure Numeral where
  negative : Bool
  digits : List Char
  rest : List Char

/-- Underscores are allowed singly between digits, leading zeros only on request. -/
def Numeral.read? (radix : Nat) (signed leadingZeros : Bool) (cs : List Char) : Option Numeral :=
  let (negative, body) :=
    match signed, cs with
    | true, '-' :: body => (true, body)
    | true, '+' :: body => (false, body)
    | _, body => (false, body)
  let isPart (c : Char) : Bool := isDigitIn radix c || c == '_'
  let run := body.takeWhile isPart
  let digits := run.filter (· != '_')
  let groups := run.splitOn '_'
  if groups.any List.isEmpty || (!leadingZeros && digits.head? == some '0' && run != ['0']) then none
  else some ⟨negative, digits, body.dropWhile isPart⟩

def ofDigitsIn (radix : Nat) (cs : List Char) : Nat :=
  cs.foldl (fun n c => radix * n + (hexValue? c).getD 0) 0

def integer? (radix : Nat) (cs : List Char) : Option Int := do
  let numeral ← Numeral.read? radix (radix == 10) (radix != 10) cs
  if !numeral.rest.isEmpty then none
  else
    let n : Int := ofDigitsIn radix numeral.digits
    let n := if numeral.negative then -n else n
    if Reckoner.Value.least ≤ n ∧ n ≤ Reckoner.Value.greatest then some n else none

/-- A fraction or an exponent, whose plus sign and following digits are separate tokens. -/
def float (cs : List Char) (fraction : Option (List Char)) : Reader Value := do
  let some whole := Numeral.read? 10 true false cs | failure
  let (digits, places, rest) ←
    match fraction with
    | none => pure (whole.digits, 0, whole.rest)
    | some cs =>
      match Numeral.read? 10 false true cs with
      | some part =>
        if whole.rest.isEmpty then
          pure (whole.digits ++ part.digits, part.digits.length, part.rest)
        else failure
      | none => failure
  let exponent : Option Numeral ←
    match rest with
    | [] => pure (some ⟨false, [], []⟩)
    | e :: rest =>
      if e != 'e' && e != 'E' then pure none
      else if rest.isEmpty then do
        let _ ← Reader.accept .plus
        pure (Numeral.read? 10 false true (← Reader.bare).toList)
      else pure (Numeral.read? 10 true true rest)
  let some exponent := exponent | failure
  let power : Int := Text.ofDigits exponent.digits
  let power := (if exponent.negative then -power else power) - places
  match exponent.rest, Decimal.toFloat? whole.negative (Text.ofDigits digits) power with
  | [], some x => return .float x
  | _, _ => failure

/-- A number that starts at `start`, or at its fraction if it has one, which is a separate token. -/
def number (start : Nat) (word : String) : Reader (Nat × Value) := do
  let cs := word.toList
  let integer (radix : Nat) (cs : List Char) : Reader (Nat × Value) :=
    match integer? radix cs with
    | some n => return (start, .integer n)
    | none => failure
  match cs with
  | '0' :: 'x' :: digits => integer 16 digits
  | '0' :: 'o' :: digits => integer 8 digits
  | '0' :: 'b' :: digits => integer 2 digits
  | cs =>
    if cs.contains 'e' || cs.contains 'E' then return (start, ← float cs none)
    else if ← Reader.accept .dot then
      let part ← Reader.next
      match part.token with
      | .bare fraction => return (part.start, ← float cs (some fraction.toList))
      | _ => failure
    else
      match word with
      | "inf" => return (start, .float (1.0 / 0.0))
      | "-inf" => return (start, .float (-1.0 / 0.0))
      | "nan" => return (start, .float (0.0 / 0.0))
      | "-nan" => return (start, .float (0.0 / 0.0))
      | _ => integer 10 cs

def datetime (inTime : Bool) : Reader Value := do
  match ← get with
  | ⟨_, .blank " "⟩ :: ⟨_, .bare _⟩ :: rest => set rest
  | _ => pure ()
  let inTime ← if inTime then pure true else Reader.accept .colon
  if inTime then
    let _ ← Reader.bare
    Reader.expect .colon
    let _ ← Reader.bare
    for separator in [Token.dot, .plus, .colon] do
      if ← Reader.accept separator then
        let _ ← Reader.bare
  return .datetime

/-- A word with leading digits that contains a `T`, or a `-` outside an exponent. -/
def isDate (cs : List Char) : Bool :=
  let pairs := cs.zip (cs.drop 1)
  cs.contains 'T' || cs.contains 't' ||
    ((cs.drop 1).contains '-' && !pairs.contains ('e', '-') && !pairs.contains ('E', '-'))

def word (start : Nat) (text : String) : Reader (Nat × Value) := do
  let cs := text.toList
  let numeric := match cs.head? with
    | some c => c == '-' || c.isDigit
    | none => false
  if text = "true" then return (start, .boolean true)
  else if text = "false" then return (start, .boolean false)
  else if !numeric && text != "inf" && text != "nan" then failure
  else if isDate cs then return (start, ← datetime false)
  else if ← Reader.accept .colon then return (start, ← datetime true)
  else number start text

/-- Inserts under a path, through tables opened by earlier paths and nothing else. -/
def insertAt (value : Nat × Value) : List String → List Entry → Option (List Entry)
  | [], _ => none
  | [key], entries => some (entries ++ [(key, value)])
  | key :: path, entries =>
    match entries.findIdx? (·.1 == key) with
    | none => do return entries ++ [(key, value.1, .dottedTable (← insertAt value path []))]
    | some i =>
      match entries[i]? with
      | some (_, start, .dottedTable inner) => do
        return entries.set i (key, start, .dottedTable (← insertAt value path inner))
      | _ => none

mutual

/-- Values, entries and items consume a token before their contents, so the number of tokens is
sufficient fuel. -/
def valueWithin : Nat → Reader (Nat × Value)
  | 0 => failure
  | n + 1 => do
    let first ← Reader.next
    match first.token with
    | .string text _ => return (first.start, .string text)
    | .bare text => word first.start text
    | .plus => number first.start (← Reader.bare)
    | .openBrace =>
      Reader.skipBlank
      if ← Reader.accept .closeBrace then return (first.start, .inlineTable [])
      else return (first.start, .inlineTable (← entriesWithin n []))
    | .openBracket => return (first.start, .array (← itemsWithin n []))
    | _ => failure

def entriesWithin : Nat → List Entry → Reader (List Entry)
  | 0, _ => failure
  | n + 1, entries => do
    let path ← Reader.path n
    Reader.expect .equals
    Reader.skipBlank
    let some entries := insertAt (← valueWithin n) path entries | failure
    Reader.skipBlank
    if ← Reader.accept .closeBrace then return entries
    else
      Reader.expect .comma
      Reader.skipBlank
      entriesWithin n entries

/-- Items can span lines and end with a comma. -/
def itemsWithin : Nat → List (Nat × Value) → Reader (List (Nat × Value))
  | 0, _ => failure
  | n + 1, items => do
    Reader.skipLines n
    if ← Reader.accept .closeBracket then return items
    else
      let items := items ++ [← valueWithin n]
      Reader.skipLines n
      if ← Reader.accept .comma then itemsWithin n items
      else
        Reader.expect .closeBracket
        return items

end

def header (bound : Nat) : Reader Table := do
  let first ← Reader.next
  let isArray ← Reader.accept .openBracket
  let path ← Reader.path bound
  Reader.expect .closeBracket
  if isArray then Reader.expect .closeBracket
  Reader.commentEnd
  return ⟨first.start, path, isArray, []⟩

/-- Entries belong to the last table. The table without header is present only if non-empty. -/
def tablesWithin : Nat → List Table → Table → Reader (List Table)
  | 0, _, _ => failure
  | n + 1, done, current => do
    Reader.skipLines n
    let finished := if current.header.isEmpty && current.entries.isEmpty then done else done ++ [current]
    match ← get with
    | [] => return finished
    | ⟨_, .openBracket⟩ :: _ =>
      let table ← header n
      tablesWithin n finished table
    | _ =>
      let path ← Reader.path n
      Reader.expect .equals
      Reader.skipBlank
      let some entries := insertAt (← valueWithin n) path current.entries | failure
      Reader.commentEnd
      tablesWithin n done { current with entries := entries }

def parse? (source : String) : Option (List Table) := do
  let lexemes ← scan source
  let (tables, _) ← (tablesWithin (lexemes.length + 1) [] ⟨0, [], false, []⟩).run lexemes
  return tables

/-- One-based line and byte column of an offset. -/
def lineColumn (source : String) (offset : Nat) : Nat × Nat :=
  let step := fun ((here, line, start) : Nat × Nat × Nat) (c : Char) =>
    let next := here + c.utf8Size
    if c == '\n' && here < offset then (next, line + 1, next) else (next, line, start)
  let (_, line, start) := source.toList.foldl step (0, 1, 0)
  (line, offset - start + 1)

end Reckoner.Toml
