import Reckoner.Error

/-! Lexers: the words not yet pulled. Pulling is irreversible, also for a word that is
unclassified. -/
namespace Reckoner

structure Lexer where
  unread : List Word
  stop : Nat
  deriving DecidableEq, Repr

/-- The state is kept on failure. -/
abbrev LexerM := EStateM Error Lexer

def Word.token (w : Word) : Except Error Token :=
  match TokenKind.ofWord? w.text with
  | some kind => .ok ⟨kind, w.text, w.span⟩
  | none => .error ⟨.unexpectedInput w.text, w.span.start⟩

namespace Lexer

def ofSource (source : String) : Lexer := ⟨words source, source.utf8ByteSize⟩

def hasMore (l : Lexer) : Bool := !l.unread.isEmpty

def next : LexerM (Option Token) := fun l =>
  match l.unread with
  | [] => .ok none l
  | w :: rest =>
    match w.token with
    | .ok t => .ok (some t) ⟨rest, l.stop⟩
    | .error e => .error e ⟨rest, l.stop⟩

/-- Feeds the words to `step` as tokens until one is refused. -/
def feedWords {σ : Type} (step : σ → Token → Except Error σ) (stop : Nat) (s : σ) :
    List Word → EStateM.Result Error Lexer σ
  | [] => .ok s ⟨[], stop⟩
  | w :: rest =>
    match w.token with
    | .error e => .error e ⟨rest, stop⟩
    | .ok t =>
      match step s t with
      | .error e => .error e ⟨rest, stop⟩
      | .ok s => feedWords step stop s rest

/-- Feeds all remaining tokens. -/
def feed {σ : Type} (step : σ → Token → Except Error σ) (s : σ) : LexerM σ := fun l =>
  feedWords step l.stop s l.unread

def rest : LexerM (Array Token) := feed (fun tokens t => .ok (tokens.push t)) #[]

end Lexer

def LexerM.on {α : Type} (work : LexerM α) (source : String) : Except Error α :=
  match work (Lexer.ofSource source) with
  | .ok a _ => .ok a
  | .error e _ => .error e

def tokenize (source : String) : Except Error (Array Token) := LexerM.on Lexer.rest source

end Reckoner
