/-! Terminal escape sequences. `plainText` removes them, for output to a file or a pipe. -/
namespace Reckoner.Text.Terminal

inductive State where
  | ground
  | escape
  | escapeMore
  | control
  | device
  | deviceParameter
  | deviceMore
  /-- A string argument with its own terminator. -/
  | body
  | command
  deriving DecidableEq, Repr

/-- Shown even inside a sequence. -/
def isSpace (c : Char) : Bool := c == '\t' || c == '\n' || c == '\x0c' || c == '\r'

/-- Everything beyond ASCII is shown. -/
def isShown (c : Char) : Bool := isSpace c || (0x20 ≤ c.toNat && c.toNat != 0x7F)

/-- The terminator is a byte, inside whichever character. -/
def endsBody (c : Char) : Bool := (String.utf8EncodeChar c).contains 0x9C

def within (first last : Nat) (c : Char) : Bool := first ≤ c.toNat && c.toNat ≤ last

namespace State

def follow (s : State) (c : Char) : State :=
  match s with
  | ground => ground
  | escape =>
    if within 0x20 0x2F c then escapeMore
    else if c == '[' then control
    else if c == ']' then command
    else if c == 'P' then device
    else if c == 'X' || c == '^' || c == '_' then body
    else if within 0x30 0x7E c then ground
    else escape
  | escapeMore => if within 0x30 0x7E c then ground else escapeMore
  | control => if within 0x40 0x7E c then ground else control
  | device =>
    if within 0x20 0x2F c then deviceMore
    else if within 0x30 0x3F c then deviceParameter
    else if within 0x40 0x7E c then body
    else device
  | deviceParameter =>
    if within 0x20 0x2F c then deviceMore
    else if within 0x3C 0x7E c then body
    else deviceParameter
  | deviceMore => if within 0x30 0x7E c then body else deviceMore
  | body => if endsBody c then ground else body
  | command => if c == '\x07' then ground else command

/-- Two characters cancel every sequence, and escape restarts one. -/
def next (s : State) (c : Char) : State :=
  if c == '\x18' || c == '\x1a' then ground else if c == '\x1b' then escape else s.follow c

def shows (s : State) (c : Char) : Bool :=
  match s with
  | ground => isShown c
  | escape | escapeMore | control => isSpace c
  | _ => false

end State

/-- Text shown so far, reversed. The state is suspended over shown characters and resumes at the
first other one, unless a character beyond ASCII has reset it to the ground state. -/
structure Reading where
  state : State := .ground
  showing : Bool := false
  shown : List Char := []

def Reading.read (r : Reading) (c : Char) : Reading :=
  if r.showing && isShown c then
    ⟨if c.toNat < 0x80 then r.state else .ground, true, c :: r.shown⟩
  else if r.state.shows c then ⟨r.state.next c, true, c :: r.shown⟩
  else ⟨r.state.next c, false, r.shown⟩

def plainText (text : String) : String :=
  String.ofList (text.toList.foldl Reading.read {}).shown.reverse

def highlighted (text : String) : String := "\x1b[33m" ++ text ++ "\x1b[0m"

end Reckoner.Text.Terminal
