import Reckoner.Proofs.Descent
import Reckoner.Proofs.Ledger
import Reckoner.Proofs.Session

/-! Words consumed by a successful production: a consecutive block with balanced parentheses. -/
namespace Reckoner

/-- Balanced parentheses: no initial segment closes more groups than it opens, and all of them
are closed. -/
structure Paired (ws : List Word) : Prop where
  even : ws.countP (·.text = "(") = ws.countP (·.text = ")")
  opened : ∀ front, front <+: ws → front.countP (·.text = ")") ≤ front.countP (·.text = "(")

theorem Derivation.openGroups_front {n : Nonterminal} (d : Derivation n) {front : List Token}
    (isFront : front <+: d.tokens) : 0 ≤ openGroups front := by
  induction d generalizing front with
  | number word =>
    rcases List.prefix_cons_iff.mp isFront with rfl | ⟨rest,rfl,none⟩
    · exact Int.le_refl 0
    · rw [List.prefix_nil.mp none]
      exact Int.le_of_eq (openGroups_neutral (.inl word.2)).symm
  | group opening inner closing ih =>
    rcases List.prefix_cons_iff.mp isFront with rfl | ⟨rest,rfl,inside⟩
    · exact Int.le_refl 0
    rw [openGroups_cons,openGroups_opening opening.2]
    -- Only the whole front has the `)`, and the inside before it is even.
    rcases List.prefix_concat_iff.mp inside with rfl | inside
    · rw [openGroups_append,openGroups_tokens,openGroups_closing closing.2]
      decide
    · have := ih inside
      omega
  | single operand ih => exact ih isFront
  | chain left operator right ihl ihr =>
    -- A front that reaches beyond the left part has all of it, which is even.
    have whole : left.tokens <+: (chain left operator right).tokens := List.prefix_append _ _
    rcases List.prefix_or_prefix_of_prefix isFront whole with within | ⟨rest,rfl⟩
    · exact ihl within
    have further := (List.prefix_append_right_inj _).mp isFront
    rw [openGroups_append,openGroups_tokens,Int.zero_add]
    rcases List.prefix_cons_iff.mp further with rfl | ⟨rest,rfl,behind⟩
    · exact Int.le_refl 0
    · rw [openGroups_cons,openGroups_neutral (.inr operator.2),Int.zero_add]
      exact ihr behind

variable {ws : List Word} {ts : List Token}

theorem countP_of_tokens {word : String} {kind : TokenKind} (known : TokenKind.ofWord? word = some kind)
    (only : ∀ {text : String}, TokenKind.ofWord? text = some kind → text = word)
    (tokens : ws.map Word.token = ts.map .ok) : ws.countP (·.text = word) = ts.countP (·.kind == kind) := by
  have same {w : Word} {t : Token} (token : w.token = .ok t) : w.text = word ↔ t.kind = kind := by
    obtain ⟨spelled,_⟩ := Word.token_ok.mp token
    constructor
    · rintro rfl
      exact Option.some.inj (spelled.symm.trans known)
    · rintro rfl
      exact only spelled
  have marks : ws.map (fun w => decide (w.text = word)) = ts.map (fun t => t.kind == kind) :=
    map_of_token (fun token => by rw [decide_eq_decide.mpr (same token)]; rfl) tokens
  have counts := congrArg (List.countP id) marks
  rwa [List.countP_map,List.countP_map] at counts

theorem openGroups_of_words (tokens : ws.map Word.token = ts.map .ok) :
    openGroups ts = (ws.countP (·.text = "(") : Int) - ws.countP (·.text = ")") := by
  rw [countP_of_tokens rfl TokenKind.ofWord_opening tokens,
    countP_of_tokens rfl TokenKind.ofWord_closing tokens]
  rfl

theorem Derivation.paired {n : Nonterminal} {d : Derivation n}
    (tokens : ws.map Word.token = d.tokens.map .ok) : Paired ws where
  even := by
    have total := openGroups_of_words tokens
    rw [d.openGroups_tokens] at total
    omega
  opened := by
    rintro front ⟨rest,rfl⟩
    rw [List.map_append] at tokens
    obtain ⟨before,behind,split,first,_⟩ := List.map_eq_append_iff.mp tokens.symm
    have covered := d.openGroups_front ⟨behind,split.symm⟩
    rw [openGroups_of_words first.symm] at covered
    omega

namespace Parser

variable {p q : Parser} {source : String} {before behind : List Word}

/-- These final words of the text are the lookahead and the unread words. -/
def Unconsumed (source : String) (p : Parser) (rest : List Word) : Prop :=
  rest <:+ words source ∧
    ∃ look, rest = look ++ p.lexer.unread ∧ look.map Word.token = p.lookahead.toList.map .ok

theorem Placed.unconsumed (placed : Placed source p) : ∃ rest, p.Unconsumed source rest := by
  obtain ⟨read,look,split,token⟩ := placed.split
  exact ⟨look ++ p.lexer.unread,⟨read,by rw [split,List.append_assoc]⟩,look,rfl,token⟩

theorem Unconsumed.ahead {rest : List Word} (left : p.Unconsumed source rest) :
    rest.map Word.token = p.ahead := by
  obtain ⟨_,look,rfl,token⟩ := left
  rw [List.map_append,token]
  rfl

theorem Unconsumed.consumes (left : p.Unconsumed source before) (kept : q.Unconsumed source behind)
    (consumed : p.Consumes ts q) : ∃ ws, before = ws ++ behind ∧ ws.map Word.token = ts.map .ok := by
  have ahead : before.map Word.token = ts.map .ok ++ behind.map Word.token := by
    rw [left.ahead,kept.ahead]
    exact consumed.ahead
  have shorter : behind.length ≤ before.length := by
    have lengths := congrArg List.length ahead
    simp only [List.length_append,List.length_map] at lengths
    omega
  obtain ⟨ws,rfl⟩ := List.suffix_of_suffix_length_le kept.1 left.1 shorter
  rw [List.map_append] at ahead
  exact ⟨ws,rfl,List.append_cancel_right ahead⟩

end Parser

namespace Descent.Production

open Reckoner.Parser

def work : Production → ParserM Tree
  | sum => Grammar.sum
  | primary => Grammar.primary
  | group => Grammar.group
  | number => Grammar.number

variable {production : Production} {p q : Parser} {tree : Tree} {source : String}

theorem steady (production : Production) : Steady production.work := by
  cases production with
  | sum => exact Grammar.sum_steady
  | primary => exact Grammar.primary_steady
  | group => exact Grammar.group_steady
  | number => exact Grammar.number_steady

theorem lookahead_of_ok (success : production.work p = .ok tree q) : p.lookahead ≠ none := by
  intro ended
  have refused : production.work p = .error ⟨.unexpectedInput endOfInput,p.lexer.stop⟩ p := by
    cases production with
    | sum => exact work_bind_error.mpr (.inl (Grammar.primaryWithin_ended ended _))
    | primary => exact Grammar.primaryWithin_ended ended _
    | group => exact Grammar.groupOf_ended ended _
    | number => exact Grammar.number_ended ended
  cases success.symm.trans refused

theorem reads (sane : p.Sane) (success : production.work p = .ok tree q) :
    ∃ n, ∃ d : Derivation n, p.Reads d tree q := by
  cases production with
  | sum => exact ⟨.sum,Grammar.sumWithin_reads sane success⟩
  | primary => exact ⟨.primary,(Grammar.productions_read _).1 sane success⟩
  | group => exact ⟨.primary,Grammar.groupOf_reads sane success Grammar.sumWithin_reads⟩
  | number => exact ⟨.primary,Grammar.number_reads sane success⟩

/-- From any state, a successful production consumes a non-empty balanced block of words. -/
theorem consumes (placed : Placed source p) (within : p.depth ≤ p.maxDepth)
    (success : production.work p = .ok tree q) :
    (∃ consumed behind, p.Unconsumed source (consumed ++ behind) ∧ q.Unconsumed source behind ∧
      consumed ≠ [] ∧ Paired consumed) ∧
    (production = .sum → q.kind? ≠ some .additiveOperator) := by
  have sane : p.Sane := ⟨fun ended => absurd ended (lookahead_of_ok success),within⟩
  obtain ⟨⟨ts,moves⟩,_⟩ := production.steady.success success
  obtain ⟨before,left⟩ := placed.unconsumed
  obtain ⟨behind,kept⟩ := (placed.moves moves).1.unconsumed
  obtain ⟨n,d,read⟩ := reads sane success
  obtain ⟨consumed,rfl,tokens⟩ := left.consumes kept read.consumes
  refine ⟨⟨consumed,behind,left,kept,?_,Derivation.paired tokens⟩,?_⟩
  · rintro rfl
    exact d.tokens_ne_nil (List.map_eq_nil_iff.mp tokens.symm)
  · rintro rfl
    exact Grammar.sumWithin_ends sane (Nat.le_refl _) success

end Descent.Production

end Reckoner
