import Reckoner.Parser
import Reckoner.Proofs.Lexing

/-! The input ahead of a parser as a list of tokens and refused words. Consuming tokens removes
them from the front of this list. -/
namespace Reckoner

namespace Parser

variable {p q r : Parser} {ts us : List Token} {t : Token}

/-- The lookahead followed by the classification of every unread word. -/
def ahead (p : Parser) : List (Except Error Token) :=
  p.lookahead.toList.map .ok ++ p.lexer.unread.map Word.token

/-- Depth within the limit, and no lookahead lost to an unclassified word. -/
structure Sane (p : Parser) : Prop where
  live : p.lookahead = none → p.lexer.unread = []
  within : p.depth ≤ p.maxDepth

theorem ahead_length (p : Parser) : p.ahead.length = p.remaining := by
  simp only [ahead,remaining,List.length_append,List.length_map]
  omega

theorem Sane.ahead_cons (sane : p.Sane) {rest : List (Except Error Token)}
    (ahead : p.ahead = .ok t :: rest) :
    p.lookahead = some t ∧ p.lexer.unread.map Word.token = rest := by
  unfold Parser.ahead at ahead
  cases look : p.lookahead with
  | none => simp [look,sane.live look] at ahead
  | some _ => simpa [look] using ahead

theorem Sane.ahead_eq_nil (sane : p.Sane) : p.ahead = [] ↔ p.lookahead = none := by
  unfold Parser.ahead
  cases look : p.lookahead with
  | none => simp [sane.live look]
  | some t => simp

/-- Exactly these tokens are consumed between the two parsers; nothing else changes. -/
structure Consumes (p : Parser) (ts : List Token) (q : Parser) : Prop where
  ahead : p.ahead = ts.map .ok ++ q.ahead
  sane : q.Sane
  depth : q.depth = p.depth
  maxDepth : q.maxDepth = p.maxDepth
  stop : q.lexer.stop = p.lexer.stop

theorem Consumes.append (first : p.Consumes ts q) (second : q.Consumes us r) :
    p.Consumes (ts ++ us) r where
  ahead := by rw [first.ahead,second.ahead,List.map_append,List.append_assoc]
  sane := second.sane
  depth := second.depth.trans first.depth
  maxDepth := second.maxDepth.trans first.maxDepth
  stop := second.stop.trans first.stop

theorem Consumes.rest (consumed : p.Consumes ts q) {rest : List (Except Error Token)}
    (ahead : p.ahead = ts.map .ok ++ rest) : q.ahead = rest :=
  List.append_cancel_left (consumed.ahead.symm.trans ahead)

theorem Consumes.remaining (consumed : p.Consumes ts q) :
    p.remaining = ts.length + q.remaining := by
  rw [← ahead_length,consumed.ahead,List.length_append,List.length_map,ahead_length]

/-- Outcomes of `expect`. The lookahead is consumed together with a pull of the next word, which
is used up even when it is unclassified. -/
inductive Expects (kind : TokenKind) (p : Parser) : EStateM.Result Error Parser Token → Prop where
  | ended (look : p.lookahead = none) :
      Expects kind p (.error ⟨.unexpectedInput endOfInput,p.lexer.stop⟩ p)
  | other {t : Token} (look : p.lookahead = some t) (other : t.kind ≠ kind) :
      Expects kind p (.error ⟨.unexpectedTokenType kind t.kind t.text,t.span.start⟩ p)
  | last {t : Token} (look : p.lookahead = some t) (same : t.kind = kind) (unread : p.lexer.unread = []) :
      Expects kind p (.ok t { p with lookahead := none })
  | next {t u : Token} {w : Word} {ws : List Word} (look : p.lookahead = some t) (same : t.kind = kind)
      (unread : p.lexer.unread = w :: ws) (token : w.token = .ok u) :
      Expects kind p (.ok t { p with lexer := ⟨ws,p.lexer.stop⟩, lookahead := some u })
  | lost {t : Token} {w : Word} {ws : List Word} {e : Error} (look : p.lookahead = some t)
      (same : t.kind = kind) (unread : p.lexer.unread = w :: ws) (refused : w.token = .error e) :
      Expects kind p (.error e { p with lexer := ⟨ws,p.lexer.stop⟩, lookahead := none })

theorem expects (kind : TokenKind) (p : Parser) : Expects kind p (expect kind p) := by
  unfold expect
  cases look : p.lookahead with
  | none => exact .ended look
  | some t =>
    by_cases same : t.kind = kind
    · simp only [same,if_true,Lexer.next]
      cases unread : p.lexer.unread with
      | nil => exact .last look same unread
      | cons w ws =>
        cases token : w.token with
        | ok u =>
          simp only [token]
          exact .next look same unread token
        | error e =>
          simp only [token]
          exact .lost look same unread token
    · simp only [same,if_false]
      exact .other look same

theorem expect_consumes {kind : TokenKind} (sane : p.Sane) (success : expect kind p = .ok t q) :
    t.kind = kind ∧ p.Consumes [t] q := by
  have result := expects kind p
  rw [success] at result
  cases result with
  | last look same unread =>
    exact ⟨same,by simp [ahead,look,unread],⟨fun _ => unread,sane.within⟩,rfl,rfl,rfl⟩
  | next look same unread token =>
    exact ⟨same,by simp [ahead,look,unread,token],⟨nofun,sane.within⟩,rfl,rfl,rfl⟩

/-- The next word, if any, is classified. -/
def Clear (rest : List (Except Error Token)) : Prop := ∀ e, rest.head? ≠ some (.error e)

theorem clear_ok (t : Token) (rest : List (Except Error Token)) : Clear (.ok t :: rest) := by
  intro e refused
  cases refused

theorem clear_map (ts : List Token) : Clear (ts.map .ok) := by
  cases ts with
  | nil => exact nofun
  | cons t ts => exact clear_ok t _

theorem clear_tokens (ts : List Token) (t : Token) (rest : List (Except Error Token)) :
    Clear (ts.map .ok ++ .ok t :: rest) := by
  cases ts <;> exact clear_ok _ _

theorem Sane.kind_of_ahead (sane : p.Sane) {rest : List (Except Error Token)}
    (ahead : p.ahead = .ok t :: rest) : p.kind? = some t.kind := by
  rw [kind?,(sane.ahead_cons ahead).1]
  rfl

theorem expect_of_ahead (sane : p.Sane) {rest : List (Except Error Token)}
    (ahead : p.ahead = .ok t :: rest) (clear : Clear rest) :
    ∃ q, expect t.kind p = .ok t q ∧ p.Consumes [t] q := by
  obtain ⟨look,unread⟩ := sane.ahead_cons ahead
  have result := expects t.kind p
  cases attempt : expect t.kind p with
  | ok u q =>
    rw [attempt] at result
    have same : u = t := by
      cases result with
      | last found | next found => exact Option.some.inj (found.symm.trans look)
    subst same
    exact ⟨q,rfl,(expect_consumes sane attempt).2⟩
  | error e q =>
    rw [attempt] at result
    cases result with
    | ended none => cases none.symm.trans look
    | other found other => cases found.symm.trans look; exact absurd rfl other
    | lost _ _ words refused =>
      rw [words,List.map_cons,refused] at unread
      exact absurd (congrArg List.head? unread).symm (clear e)

theorem enterGroup_ok {position : Nat} {u : Unit} : enterGroup position p = .ok u q ↔
    p.depth < p.maxDepth ∧ q = { p with depth := p.depth + 1 } := by
  unfold enterGroup
  by_cases full : p.maxDepth ≤ p.depth
  · rw [if_pos full]
    refine ⟨nofun,fun h => ?_⟩
    omega
  · rw [if_neg full]
    constructor
    · intro entered
      cases entered
      exact ⟨Nat.not_le.mp full,rfl⟩
    · rintro ⟨_,rfl⟩
      rfl

theorem finish_ok {trailing : TrailingInput} {u : Unit} : finish trailing p = .ok u q ↔
    q = p ∧ (trailing = .reject → p.lookahead = none) := by
  unfold finish
  cases look : p.lookahead <;> cases trailing <;> simp [eq_comm]

end Parser

end Reckoner
