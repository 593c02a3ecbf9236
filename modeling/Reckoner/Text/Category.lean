import Reckoner.Text.Alphabetic
import Reckoner.Text.Blank
import Reckoner.Text.Mark
import Reckoner.Text.Numeral
import Reckoner.Text.Punctuation
import Reckoner.Text.Unprintable

/-! The seven general categories. Symbols are the remaining characters. -/
namespace Reckoner.Text

/-- Alphabetic symbols: circled and squared Latin letters. -/
def enclosedLetterRanges : Ranges :=
  #[(0x24B6, 0x24E9), (0x1F130, 0x1F149), (0x1F150, 0x1F169), (0x1F170, 0x1F189)]

def isLetter (c : Char) : Bool :=
  isAlphabetic c && !isMark c && !isLetterNumeral c && !enclosedLetterRanges.hold c

def isSeparator (c : Char) : Bool := isBlank c && 0x20 ≤ c.toNat && c.toNat != 0x85

/-- Controls, format characters, private use, and unassigned code points. -/
def isOther (c : Char) : Bool := isUnprintable c && !isSeparator c

def isSymbol (c : Char) : Bool :=
  !isLetter c && !isMark c && !isNumeral c && !isPunctuation c && !isSeparator c && !isOther c

def isAlphanumeric (c : Char) : Bool := isAlphabetic c || isNumeral c

def connectorRanges : Ranges :=
  #[(0x5F, 0x5F), (0x203F, 0x2040), (0x2054, 0x2054), (0xFE33, 0xFE34), (0xFE4D, 0xFE4F),
    (0xFF3F, 0xFF3F)]

/-- Alphanumerics, marks, connectors and zero-width joiners. -/
def isWordChar (c : Char) : Bool :=
  isAlphabetic c || isMark c || isDecimalDigit c || connectorRanges.hold c ||
    c.toNat == 0x200C || c.toNat == 0x200D

end Reckoner.Text
