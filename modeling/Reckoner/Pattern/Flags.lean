import Reckoner.Pattern.Basic
import Reckoner.Text.Blank

/-! Pattern flags. Each is set by a letter and cleared by a letter after a hyphen. -/
namespace Reckoner.Pattern

structure Flags where
  ignoreCase : Bool := false
  /-- `^` and `$` match at line boundaries as well. -/
  multiLine : Bool := false
  dotAll : Bool := false
  /-- Exchanges greedy and lazy repetition. -/
  swapGreed : Bool := false
  unicode : Bool := true
  crlf : Bool := false
  /-- Blanks and comments from `#` to the line end are ignored. -/
  spaced : Bool := false
  deriving DecidableEq, Repr

namespace Flags

def set? (f : Flags) (letter : Char) (value : Bool) : Option Flags :=
  match letter with
  | 'i' => some { f with ignoreCase := value }
  | 'm' => some { f with multiLine := value }
  | 's' => some { f with dotAll := value }
  | 'U' => some { f with swapGreed := value }
  | 'u' => some { f with unicode := value }
  | 'R' => some { f with crlf := value }
  | 'x' => some { f with spaced := value }
  | _ => none

/-- Letters up to `:` or `)`, which is returned with the rest. Letters and the hyphen are
unique, and the hyphen is not last. `seen` is reversed. -/
def read (f : Flags) (seen : List Char) : List Char → Option (Flags × List Char × List Char)
  | [] => none
  | c :: rest =>
    if c = ':' ∨ c = ')' then if seen.head? = some '-' then none else some (f, seen, c :: rest)
    else if c ∈ seen then none
    else if c = '-' then f.read (c :: seen) rest
    else
      match f.set? c (!seen.contains '-') with
      | some f => f.read (c :: seen) rest
      | none => none

def charSet (f : Flags) (s : CharSet) : CharSet :=
  if !f.ignoreCase then s else if f.unicode then .folded s else .foldedAscii s

/-- All but line ends. Requires Unicode, as single bytes need not be characters. -/
def dot? (f : Flags) : Option CharSet :=
  if !f.unicode then none
  else if f.dotAll then some (.complement .empty)
  else if f.crlf then some (.complement (.union (.single '\r') (.single '\n')))
  else some (.complement (.single '\n'))

def start (f : Flags) : Look := if f.multiLine then .lineStart f.crlf else .textStart

def stop (f : Flags) : Look := if f.multiLine then .lineEnd f.crlf else .textEnd

end Flags

/-- Drops blanks and comments. -/
def skipComments (inComment : Bool) : List Char → List Char
  | [] => []
  | c :: rest =>
    if inComment then skipComments (c != '\n') rest
    else if Text.isBlank c then skipComments false rest
    else if c = '#' then skipComments true rest
    else c :: rest

def Flags.skip (f : Flags) (cs : List Char) : List Char :=
  if f.spaced then skipComments false cs else cs

def Flags.skip? (f : Flags) (cs : List Char) : Option (List Char) :=
  match f.skip cs with
  | [] => none
  | cs => some cs

/-- The character after a hyphen. Of a comment only the blanks are skipped. -/
def Flags.peek? (f : Flags) (cs : List Char) : Option Char :=
  if !f.spaced then cs.head?
  else
    let seen := match cs.dropWhile Text.isBlank with
      | '#' :: rest => rest.dropWhile Text.isBlank
      | rest => rest
    (seen.head?).or cs.head?

end Reckoner.Pattern
