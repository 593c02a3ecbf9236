import Reckoner.Config
import Reckoner.Text.Quoted
import Reckoner.Toml.Document

/-! Settings from a TOML document. Keys are optional and unique, and unknown keys are refused.
Entries are processed in source order up to the first fault. -/
namespace Reckoner.Config

inductive Field where
  | maxDepth
  | trailingInput
  | overflow
  deriving DecidableEq, Repr

namespace Field

def key : Field → String
  | maxDepth => "max_depth"
  | trailingInput => "trailing_input"
  | overflow => "overflow"

def all : List Field := [maxDepth, trailingInput, overflow]

def ofKey? (key : String) : Option Field := all.find? (·.key == key)

end Field

inductive Problem where
  | unknownField (key : String)
  | duplicateField (field : Field)
  | unknownVariant (name : String) (known : List String)
  | negative (n : Int)
  /-- A value of another type, by its description. -/
  | notNumber (found : String)
  | mismatch (wanted found : String)
  | notEmpty
  | manyTables
  deriving DecidableEq, Repr

namespace Problem

def backticked (text : String) : String := "`" ++ text ++ "`"

/-- Wording of the expected names. -/
def alternatives : List String → String
  | [name] => backticked name
  | [first, second] => backticked first ++ " or " ++ backticked second
  | names => "one of " ++ ", ".intercalate (names.map backticked)

def message : Problem → String
  | unknownField key =>
    "unknown field " ++ backticked key ++ ", expected " ++ alternatives (Field.all.map Field.key)
  | duplicateField field => "duplicate field " ++ backticked field.key
  | unknownVariant name known =>
    "unknown variant " ++ backticked name ++ ", expected " ++ alternatives known
  | negative n => "invalid value: integer " ++ backticked (toString n) ++ ", expected usize"
  | notNumber found => "invalid type: " ++ found ++ ", expected usize"
  | mismatch wanted found => "expected " ++ wanted ++ ", found " ++ found
  | notEmpty => "expected empty table"
  | manyTables => "enum table must contain exactly one table"

end Problem

/-- A problem, the field it concerns, and its offset. Without an offset it is reported at the
last header. -/
structure Fault where
  problem : Problem
  field : Option Field := none
  offset : Option Nat := none
  deriving DecidableEq, Repr

def readNumber (start : Nat) : Toml.Value → Except Fault Nat
  | .integer n => if 0 ≤ n then .ok n.toNat else .error { problem := .negative n, offset := start }
  | .array _ => .error { problem := .notNumber "sequence" }
  | value =>
    let found := match value with
      | .string text => "string " ++ Text.quoted text
      | .boolean b => "boolean " ++ Problem.backticked (toString b)
      | .float x => "floating point " ++ Problem.backticked (Decimal.text x)
      | _ => "map"
    .error { problem := .notNumber found, offset := start }

def choose {α : Type} (name : α → String) (variants : List α) (text : String) : Except Fault α :=
  match variants.find? (name · == text) with
  | some a => .ok a
  | none => .error { problem := .unknownVariant text (variants.map name) }

def readNothing (start : Nat) : Toml.Value → Except Fault Unit
  | .inlineTable [] => .ok ()
  | .dottedTable [] => .ok ()
  | .inlineTable _ => .error { problem := .notEmpty, offset := start }
  | .dottedTable _ => .error { problem := .notEmpty, offset := start }
  | value => .error { problem := .mismatch "table" value.kindName, offset := start }

/-- A variant is a string, or the only key of a table. -/
def readVariant {α : Type} (name : α → String) (variants : List α) (start : Nat) :
    Toml.Value → Except Fault α
  | .string text => choose name variants text
  | .inlineTable [(key, start, value)] => do
    let chosen ← choose name variants key
    readNothing start value
    return chosen
  | .inlineTable [] =>
    .error { problem := .mismatch "exactly 1 element" "zero elements", offset := start }
  | .inlineTable _ =>
    .error { problem := .mismatch "exactly 1 element" "more than 1 element", offset := start }
  | value =>
    .error { problem := .mismatch "string or inline table" value.kindName, offset := start }

def trailingInputs : List TrailingInput := [.reject, .ignore]
def overflowPolicies : List OverflowPolicy := [.checked, .saturating, .wrapping]

def Field.read (field : Field) (start : Nat) (value : Toml.Value) (c : Config) :
    Except Fault Config :=
  match field with
  | maxDepth => return { c with maxDepth := ← readNumber start value }
  | trailingInput =>
    return { c with trailingInput := ← readVariant TrailingInput.name trailingInputs start value }
  | overflow =>
    return { c with overflow := ← readVariant OverflowPolicy.name overflowPolicies start value }

/-- In a document with a single table, the header itself can name the variant. -/
def variantOfHeader {α : Type} (name : α → String) (variants : List α) (tables : Nat)
    (t : Toml.Table) : Except Fault α := do
  if tables != 1 then throw { problem := .manyTables, offset := some 0 }
  else
    let chosen ← choose name variants (t.header.getLast?.getD "")
    if t.entries.isEmpty then return chosen
    else throw { problem := .notEmpty, offset := some 0 }

/-- A field given by a header, in a document of `tables` tables. -/
def Field.readHeader (field : Field) (tables : Nat) (t : Toml.Table) (c : Config) :
    Except Fault Config :=
  match field with
  | maxDepth =>
    let found := if t.isArray && t.header.length == 1 then "sequence" else "map"
    throw { problem := .notNumber found }
  | trailingInput =>
    return { c with trailingInput := ← variantOfHeader TrailingInput.name trailingInputs tables t }
  | overflow =>
    return { c with overflow := ← variantOfHeader OverflowPolicy.name overflowPolicies tables t }

structure Draft where
  config : Config := {}
  given : List Field := []
  deriving DecidableEq, Repr

/-- Applies `read` to the field with this key, once. -/
def Draft.give (d : Draft) (key : String) (read : Field → Config → Except Fault Config) :
    Except Fault Draft :=
  match Field.ofKey? key with
  | none => .error { problem := .unknownField key }
  | some field =>
    if field ∈ d.given then .error { problem := .duplicateField field }
    else
      match read field d.config with
      | .ok config => .ok ⟨config, field :: d.given⟩
      | .error fault => .error { fault with field := field }

/-- Entries before any header, then the table of the first header, which must be the whole of
the document. -/
def ofTables (tables : List Toml.Table) : Except Fault Config := do
  let root := match tables with
    | ⟨_, [], _, entries⟩ :: _ => entries
    | _ => []
  let draft ← root.foldlM
    (fun (d : Draft) (key, start, value) => d.give key fun field => field.read start value) {}
  match tables.find? (!·.header.isEmpty) with
  | none => return draft.config
  | some t =>
    let draft ← draft.give (t.header.head?.getD "") fun field => field.readHeader tables.length t
    return draft.config

inductive Refusal where
  | notToml
  | fault (problem : Problem) (field : Option Field) (line column : Nat)
  deriving DecidableEq, Repr

def Refusal.summary : String := "parsing config toml"

def Refusal.message : Refusal → String
  | notToml => "not a TOML document"
  | fault problem field line column =>
    let context := match field with
      | some field => " for key " ++ Problem.backticked field.key
      | none => ""
    problem.message ++ context ++ " at line " ++ toString line ++ " column " ++ toString column

def ofToml (source : String) : Except Refusal Config :=
  match Toml.parse? source with
  | none => .error .notToml
  | some tables =>
    match ofTables tables with
    | .ok config => .ok config
    | .error fault =>
      let last := (tables.getLast?.map Toml.Table.start).getD 0
      let (line, column) := Toml.lineColumn source (fault.offset.getD last)
      .error (.fault fault.problem fault.field line column)

end Reckoner.Config
