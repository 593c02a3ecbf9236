import Reckoner.Text.Category
import Reckoner.Text.Folding

/-! Character sets as written in patterns, decided for one character at a time. -/
namespace Reckoner.Pattern

inductive Property where
  | decimalDigit
  | blank
  | word
  | letter
  | mark
  | numeral
  | punctuation
  | symbol
  | separator
  | other
  deriving DecidableEq, Repr

def Property.has : Property → Char → Bool
  | decimalDigit => Text.isDecimalDigit
  | blank => Text.isBlank
  | word => Text.isWordChar
  | letter => Text.isLetter
  | mark => Text.isMark
  | numeral => Text.isNumeral
  | punctuation => Text.isPunctuation
  | symbol => Text.isSymbol
  | separator => Text.isSeparator
  | other => Text.isOther

def Property.ofLetter? (c : Char) : Option Property :=
  match c.toLower with
  | 'l' => some letter
  | 'm' => some mark
  | 'n' => some numeral
  | 'p' => some punctuation
  | 's' => some symbol
  | 'z' => some separator
  | 'c' => some other
  | _ => none

inductive CharSet where
  | empty
  | range (first last : Char)
  | property (p : Property)
  | union (a b : CharSet)
  | intersection (a b : CharSet)
  | complement (s : CharSet)
  /-- Closed under case folding. -/
  | folded (s : CharSet)
  /-- Closed under ASCII case folding. -/
  | foldedAscii (s : CharSet)
  deriving DecidableEq, Repr

namespace CharSet

def swapCase (c : Char) : Char := if c.isUpper then c.toLower else c.toUpper

def contains (s : CharSet) (c : Char) : Bool :=
  match s with
  | empty => false
  | range first last => first ≤ c && c ≤ last
  | property p => p.has c
  | union a b => a.contains c || b.contains c
  | intersection a b => a.contains c && b.contains c
  | complement s => !s.contains c
  | folded s => (Text.caseVariants c).any fun v => s.contains v
  | foldedAscii s => s.contains c || s.contains (swapCase c)

def single (c : Char) : CharSet := range c c

def difference (a b : CharSet) : CharSet := intersection a (complement b)

def symmetricDifference (a b : CharSet) : CharSet := union (difference a b) (difference b a)

def ofRanges (ranges : List (Char × Char)) : CharSet :=
  ranges.foldl (fun s (first, last) => union s (range first last)) empty

def asciiDigit : CharSet := range '0' '9'

def asciiWord : CharSet := ofRanges [('0', '9'), ('A', 'Z'), ('_', '_'), ('a', 'z')]

def asciiSpace : CharSet := ofRanges [('\t', '\r'), (' ', ' ')]

def ofName? : String → Option CharSet
  | "alnum" => some (ofRanges [('0', '9'), ('A', 'Z'), ('a', 'z')])
  | "alpha" => some (ofRanges [('A', 'Z'), ('a', 'z')])
  | "ascii" => some (range '\x00' '\x7f')
  | "blank" => some (ofRanges [('\t', '\t'), (' ', ' ')])
  | "cntrl" => some (ofRanges [('\x00', '\x1f'), ('\x7f', '\x7f')])
  | "digit" => some asciiDigit
  | "graph" => some (range '!' '~')
  | "lower" => some (range 'a' 'z')
  | "print" => some (range ' ' '~')
  | "punct" => some (ofRanges [('!', '/'), (':', '@'), ('[', '\x60'), ('\x7b', '~')])
  | "space" => some asciiSpace
  | "upper" => some (range 'A' 'Z')
  | "word" => some asciiWord
  | "xdigit" => some (ofRanges [('0', '9'), ('A', 'F'), ('a', 'f')])
  | _ => none

end CharSet

end Reckoner.Pattern
