/-! Lines and columns of byte offsets. Only `\n` ends a line. -/
namespace Reckoner.Text

/-- One-based line, its text without the newline, and the number of characters before the offset. -/
structure Location where
  line : Nat
  text : String
  column : Nat
  deriving DecidableEq, Repr

/-- Lines keep their newline. A final newline does not open another line. -/
def lines (source : String) : List (List Char) := source.toList.splitBy fun a _ => a != '\n'

def byteSize (cs : List Char) : Nat := cs.foldl (fun n c => n + c.utf8Size) 0

/-- Number of characters in the first `bytes` bytes, if they end on a boundary. -/
def charCount? (bytes : Nat) (count : Nat) : List Char → Option Nat
  | [] => if bytes = 0 then some count else none
  | c :: rest =>
    if bytes = 0 then some count
    else if c.utf8Size ≤ bytes then charCount? (bytes - c.utf8Size) (count + 1) rest
    else none

/-- The line of byte `position` in a text of `size` bytes, from line `number` at byte `start`
on. The end of the text belongs to the last line. Inside a character the column counts bytes. -/
def locateIn (size position number start : Nat) : List (List Char) → Location
  | [] => ⟨number, "", 0⟩
  | line :: rest =>
    let stop := start + byteSize line
    if position < stop ∨ stop = size then
      let bytes := position - start
      ⟨number, String.ofList (line.takeWhile (· != '\n')), (charCount? bytes 0 line).getD bytes⟩
    else locateIn size position (number + 1) stop rest

def locate (source : String) (position : Nat) : Location :=
  let size := source.utf8ByteSize
  locateIn size (min position size) 1 0 (lines source)

end Reckoner.Text
