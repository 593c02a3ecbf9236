import Reckoner.Pattern.CharSet

/-! Regular expressions with preference among alternatives. -/
namespace Reckoner

namespace Pattern

inductive Look where
  | textStart
  | textEnd
  /-- Also after a carriage return, when `crlf` is set. -/
  | lineStart (crlf : Bool)
  | lineEnd (crlf : Bool)
  | wordBoundary (unicode : Bool)
  | notWordBoundary (unicode : Bool)
  | wordStart (unicode : Bool)
  | wordEnd (unicode : Bool)
  deriving DecidableEq, Repr

structure Place where
  behind : Option Char
  ahead : Option Char

def isWord (unicode : Bool) : Option Char → Bool
  | some c => if unicode then Text.isWordChar c else CharSet.asciiWord.contains c
  | none => false

namespace Look

/-- No position between `\r` and `\n` is a line boundary. -/
def holds (l : Look) (p : Place) : Bool :=
  match l with
  | textStart => p.behind.isNone
  | textEnd => p.ahead.isNone
  | lineStart crlf =>
    p.behind.isNone || p.behind == some '\n' ||
      (crlf && p.behind == some '\r' && p.ahead != some '\n')
  | lineEnd false => p.ahead.isNone || p.ahead == some '\n'
  | lineEnd true =>
    p.ahead.isNone || p.ahead == some '\r' || (p.ahead == some '\n' && p.behind != some '\r')
  | wordBoundary unicode => isWord unicode p.behind != isWord unicode p.ahead
  | notWordBoundary unicode => isWord unicode p.behind == isWord unicode p.ahead
  | wordStart unicode => !isWord unicode p.behind && isWord unicode p.ahead
  | wordEnd unicode => isWord unicode p.behind && !isWord unicode p.ahead

def needsUnicodeWords : Look → Bool
  | wordBoundary unicode => unicode
  | notWordBoundary unicode => unicode
  | wordStart unicode => unicode
  | wordEnd unicode => unicode
  | _ => false

end Look

inductive Times where
  | atMostOnce
  | atLeastOnce
  | any
  deriving DecidableEq, Repr

end Pattern

/-- The first alternative is preferred, and a greedy repetition prefers another iteration. -/
inductive Pattern where
  | empty
  | chars (s : Pattern.CharSet)
  | look (l : Pattern.Look)
  | sequence (a b : Pattern)
  | choice (a b : Pattern)
  | repetition (times : Pattern.Times) (greedy : Bool) (p : Pattern)
  deriving DecidableEq, Repr

namespace Pattern

def needsText : Pattern → Bool
  | empty => false
  | chars _ => true
  | look _ => false
  | sequence a b => a.needsText || b.needsText
  | choice a b => a.needsText && b.needsText
  | repetition .atLeastOnce _ p => p.needsText
  | repetition _ _ _ => false

def needsUnicodeWords : Pattern → Bool
  | empty => false
  | chars _ => false
  | look l => l.needsUnicodeWords
  | sequence a b => a.needsUnicodeWords || b.needsUnicodeWords
  | choice a b => a.needsUnicodeWords || b.needsUnicodeWords
  | repetition _ _ p => p.needsUnicodeWords

end Pattern

end Reckoner
