import Reckoner.Proofs.Pointing
import Reckoner.Proofs.Relocation

/-! Texts with equal words. Both outcomes are relocations of the outcome on the numbered words,
so white space affects positions only. -/
namespace Reckoner

open Movable (move)

/-- Starts of corresponding words, or the ends of both texts. In a text without words, zero
corresponds to zero. -/
inductive SamePlace (a b : String) : Nat → Nat → Prop where
  | word {i : Nat} {v w : Word} (first : (words a)[i]? = some v) (second : (words b)[i]? = some w) :
      SamePlace a b v.span.start w.span.start
  | ending : SamePlace a b a.utf8ByteSize b.utf8ByteSize
  | wordless (first : words a = []) (second : words b = []) : SamePlace a b 0 0

/-- Related results, or errors with the same cause at corresponding positions. -/
inductive SameOutcome (a b : String) {α : Type} (same : α → α → Prop) :
    Except Error α → Except Error α → Prop where
  | ok {x y : α} (alike : same x y) : SameOutcome a b same (.ok x) (.ok y)
  | error {cause : Cause} {p q : Nat} (place : SamePlace a b p q) :
      SameOutcome a b same (.error ⟨cause,p⟩) (.error ⟨cause,q⟩)

theorem Tree.unplaced_move {r : Relocation} (t : Tree) : (move r t).unplaced = t.unplaced := by
  induction t with
  | literal => rfl
  | operation o left right s ihl ihr =>
    change Tree.operation (move r o).unplaced (move r left).unplaced (move r right).unplaced ⟨0,0⟩ = _
    rw [ihl,ihr]
    rfl

namespace Lexer

/-- Words at positions counted from one, and the end after them. -/
def numbered (texts : List String) : Lexer :=
  ⟨texts.mapIdx fun i text => ⟨text,⟨i + 1,i + 1⟩⟩,texts.length + 1⟩

/-- Positions of the numbered words and of their end in the text. -/
def places (source : String) : Relocation where
  start
  | 0 => 0
  | i + 1 => ((words source)[i]?.map (·.span.start)).getD source.utf8ByteSize
  stop
  | 0 => 0
  | i + 1 => ((words source)[i]?.map (·.span.stop)).getD source.utf8ByteSize
  origin := rfl

theorem ofSource_eq_move (source : String) :
    ofSource source = move (places source) (numbered ((words source).map Word.text)) := by
  have unread : words source = move (places source) (numbered ((words source).map Word.text)).unread := by
    refine List.ext_getElem? fun i => ?_
    change _ = (List.map (move (places source)) (List.mapIdx _ _))[i]?
    rw [List.getElem?_map,List.getElem?_mapIdx,List.getElem?_map]
    cases found : (words source)[i]? with
    | none => rfl
    | some w =>
      have start : (places source).start (i + 1) = w.span.start := by simp [places,found]
      have stop : (places source).stop (i + 1) = w.span.stop := by simp [places,found]
      change some w = some ⟨w.text,(places source).start (i + 1),(places source).stop (i + 1)⟩
      rw [start,stop]
  have stop : source.utf8ByteSize = (places source).start (((words source).map Word.text).length + 1) := by
    simp [places]
  exact congrArg₂ Lexer.mk unread stop

end Lexer

/-- Outcome on the numbered words. -/
def LexerM.ofWords {α : Type} (work : LexerM α) (texts : List String) : Except Error α :=
  match work (Lexer.numbered texts) with
  | .ok a _ => .ok a
  | .error e _ => .error e

namespace Calculator

variable {a b source : String}

theorem parse_eq_move (c : Calculator) (source : String) : c.parse source =
    move (Lexer.places source) ((c.strategy.parse c.config).ofWords ((words source).map Word.text)) := by
  have carried := c.strategy.parse_carries (r := Lexer.places source) c.config
  unfold parse LexerM.on LexerM.ofWords
  rw [Lexer.ofSource_eq_move,carried]
  cases c.strategy.parse c.config (Lexer.numbered ((words source).map Word.text)) <;> rfl

theorem calculate_eq_move (c : Calculator) (source : String) : c.calculate source =
    move (Lexer.places source) ((c.strategy.parse c.config).ofWords ((words source).map Word.text) >>=
      fun t => t.evaluate c.config.overflow) := by
  rw [calculate,parse_eq_move]
  exact move_bind (Tree.evaluate_move c.config.overflow)

end Calculator

def Standing (source : String) (position : Nat) : Prop :=
  (∃ w ∈ words source, w.span.start = position) ∨ position = source.utf8ByteSize ∨
    words source = [] ∧ position = 0

theorem Standing.first {source : String} {v : Word} {ws : List Word} (standing : Standing source 0)
    (found : words source = v :: ws) : v.span.start = 0 := by
  have member : v ∈ words source := found ▸ List.mem_cons_self
  rcases standing with ⟨w,other,start⟩ | empty | ⟨none,_⟩
  · have ordered := words_ordered source
    rw [found] at ordered other
    rcases List.mem_cons.mp other with rfl | behind
    · exact start
    · have before := (List.pairwise_cons.mp ordered).1 w behind
      omega
  · have before := words_start_lt member
    omega
  · cases found.symm.trans none

section

variable {a b : String} {α : Type} [Movable α] (same : (words a).map Word.text = (words b).map Word.text)

include same

theorem SamePlace.of_number (i : Nat) :
    SamePlace a b ((Lexer.places a).start (i + 1)) ((Lexer.places b).start (i + 1)) := by
  have length : (words a).length = (words b).length := by simpa using congrArg List.length same
  simp only [Lexer.places]
  by_cases inside : i < (words a).length
  · rw [List.getElem?_eq_getElem inside,List.getElem?_eq_getElem (length ▸ inside)]
    exact .word (List.getElem?_eq_getElem inside) (List.getElem?_eq_getElem (length ▸ inside))
  · have outside := Nat.not_lt.mp inside
    rw [List.getElem?_eq_none outside,List.getElem?_eq_none (length ▸ outside)]
    exact .ending

theorem SamePlace.of_start (first : Standing a 0) (second : Standing b 0) : SamePlace a b 0 0 := by
  cases foundA : words a with
  | nil =>
    rw [foundA] at same
    exact .wordless foundA (List.map_eq_nil_iff.mp same.symm)
  | cons v vs =>
    cases foundB : words b with
    | nil => simp [foundA,foundB] at same
    | cons w ws =>
      have headA : (words a)[0]? = some v := by rw [foundA]; rfl
      have headB : (words b)[0]? = some w := by rw [foundB]; rfl
      have heads := SamePlace.word headA headB
      rwa [first.first foundA,second.first foundB] at heads

/-- Zero is not the number of a word, so it is a position only where a word starts at zero or
the text has no words. -/
theorem SameOutcome.of_moved {alike : α → α → Prop} {x y : Except Error α} (outcome : Except Error α)
    (first : x = move (Lexer.places a) outcome) (second : y = move (Lexer.places b) outcome)
    (agree : ∀ v, alike (move (Lexer.places a) v) (move (Lexer.places b) v))
    (standsA : ∀ e, x = .error e → Standing a e.position)
    (standsB : ∀ e, y = .error e → Standing b e.position) : SameOutcome a b alike x y := by
  subst first second
  cases outcome with
  | ok v => exact .ok (agree v)
  | error e =>
    obtain ⟨cause,position⟩ := e
    cases position with
    | zero => exact .error (.of_start same (standsA _ rfl) (standsB _ rfl))
    | succ i => exact .error (.of_number same i)

end

namespace Calculator

/-- Texts with equal word sequences parse to trees equal up to spans and calculate the same
value, or fail with the same cause at corresponding positions. -/
theorem only_words_matter (c : Calculator) (a b : String)
    (same : (words a).map Word.text = (words b).map Word.text) :
    SameOutcome a b (fun t u => t.unplaced = u.unplaced) (c.parse a) (c.parse b) ∧
    SameOutcome a b (· = ·) (c.calculate a) (c.calculate b) := by
  constructor
  · refine .of_moved same _ (c.parse_eq_move a) (same ▸ c.parse_eq_move b) (fun t => ?_)
      (fun _ failed => (points_of_error (.inl failed)).place) fun _ failed => (points_of_error (.inl failed)).place
    rw [Tree.unplaced_move,Tree.unplaced_move]
  · exact .of_moved same _ (c.calculate_eq_move a) (same ▸ c.calculate_eq_move b) (fun _ => rfl)
      (fun _ failed => (points_of_error (.inr failed)).place) fun _ failed => (points_of_error (.inr failed)).place

theorem only_words_matter_overflow :
    (words " 9223372036854775807\t+\n1").map Word.text = (words "9223372036854775807 + 1").map Word.text ∧
    (Calculator.mk .shuntingYard {}).calculate " 9223372036854775807\t+\n1" =
      .error ⟨.overflow 9223372036854775807 "+" 1,21⟩ ∧
    (Calculator.mk .shuntingYard {}).calculate "9223372036854775807 + 1" =
      .error ⟨.overflow 9223372036854775807 "+" 1,20⟩ ∧
    SamePlace " 9223372036854775807\t+\n1" "9223372036854775807 + 1" 21 20 := by
  have same : (words " 9223372036854775807\t+\n1").map Word.text =
      (words "9223372036854775807 + 1").map Word.text := by decide +kernel
  have first : (Calculator.mk .shuntingYard {}).calculate " 9223372036854775807\t+\n1" =
      .error ⟨.overflow 9223372036854775807 "+" 1,21⟩ := by decide +kernel
  have second : (Calculator.mk .shuntingYard {}).calculate "9223372036854775807 + 1" =
      .error ⟨.overflow 9223372036854775807 "+" 1,20⟩ := by decide +kernel
  have outcome := (only_words_matter (.mk .shuntingYard {}) _ _ same).2
  rw [first,second] at outcome
  cases outcome with
  | error place => exact ⟨same,first,second,place⟩

end Calculator

end Reckoner
