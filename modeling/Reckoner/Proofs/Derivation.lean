import Reckoner.Postfix.Assembly
import Reckoner.Proofs.Nesting
import Reckoner.Proofs.Numeral

/-! Derivations of infix text. The grammar is that of the parser:

    sum     := primary (operator primary)*
    primary := number | '(' sum ')'

The repetition is left-recursive here, so a derivation has the shape of its tree. -/
namespace Reckoner

abbrev TokenOf (kind : TokenKind) := {t : Token // t.kind = kind}

inductive Nonterminal where
  | sum
  | primary
  deriving DecidableEq, Repr

inductive Derivation : Nonterminal → Type where
  | number (word : TokenOf .number) : Derivation .primary
  | group (opening : TokenOf .openParen) (inner : Derivation .sum)
      (closing : TokenOf .closeParen) : Derivation .primary
  | single (operand : Derivation .primary) : Derivation .sum
  | chain (left : Derivation .sum) (operator : TokenOf .additiveOperator)
      (right : Derivation .primary) : Derivation .sum

namespace Derivation

def tokens : {n : Nonterminal} → Derivation n → List Token
  | _, number word => [word.1]
  | _, group opening inner closing => opening.1 :: (inner.tokens ++ [closing.1])
  | _, single operand => operand.tokens
  | _, chain left operator right => left.tokens ++ operator.1 :: right.tokens

/-- Post-order: left operand, right operand, operator. -/
def listing : {n : Nonterminal} → Derivation n → List Token
  | _, number word => [word.1]
  | _, group _ inner _ => inner.listing
  | _, single operand => operand.listing
  | _, chain left operator right => left.listing ++ right.listing ++ [operator.1]

/-- Defined iff every numeral is in range. -/
def tree? : {n : Nonterminal} → Derivation n → Option Tree
  | _, number word =>
    ((Value.integer? word.1.text).bind Value.ofInt?).map fun v => .literal v word.1.span
  | _, group _ inner _ => inner.tree?
  | _, single operand => operand.tree?
  | _, chain left operator right =>
    left.tree?.bind fun l => right.tree?.map fun r =>
      .operation operator.1 l r ⟨l.span.start,r.span.stop⟩

variable {n : Nonterminal}

/-- Parentheses of a derivation are balanced. -/
@[simp] theorem openGroups_tokens (d : Derivation n) : openGroups d.tokens = 0 := by
  induction d with
  | number word => exact openGroups_neutral (.inl word.2)
  | group opening inner closing ih =>
    rw [tokens,openGroups_cons,openGroups_append,ih,openGroups_opening opening.2,
      openGroups_closing closing.2]
    rfl
  | single operand ih => exact ih
  | chain left operator right ihl ihr =>
    rw [tokens,openGroups_append,openGroups_cons,ihl,ihr,openGroups_neutral (.inr operator.2)]
    rfl

theorem tokens_ne_nil (d : Derivation n) : d.tokens ≠ [] := by
  induction d with
  | number word => simp [tokens]
  | group opening inner closing ih => simp [tokens]
  | single operand ih => exact ih
  | chain left operator right ihl ihr => simp [tokens]

theorem forall_tokens_group {holds : Token → Prop} {opening : TokenOf .openParen}
    {inner : Derivation .sum} {closing : TokenOf .closeParen} :
    (∀ t ∈ (group opening inner closing).tokens, holds t) ↔
      holds opening.1 ∧ (∀ t ∈ inner.tokens, holds t) ∧ holds closing.1 := by
  rw [tokens,List.forall_mem_cons,List.forall_mem_append,List.forall_mem_singleton]

theorem forall_tokens_chain {holds : Token → Prop} {left : Derivation .sum}
    {operator : TokenOf .additiveOperator} {right : Derivation .primary} :
    (∀ t ∈ (chain left operator right).tokens, holds t) ↔
      (∀ t ∈ left.tokens, holds t) ∧ holds operator.1 ∧ ∀ t ∈ right.tokens, holds t := by
  rw [tokens,List.forall_mem_append,List.forall_mem_cons]

theorem nestedWithin_group {limit : Int} {opening : TokenOf .openParen} {inner : Derivation .sum}
    {closing : TokenOf .closeParen} :
    NestedWithin limit (group opening inner closing).tokens ↔ NestedWithin (limit - 1) inner.tokens := by
  have positive (nested : NestedWithin (limit - 1) inner.tokens) : 0 ≤ limit - 1 :=
    nested [] List.nil_prefix
  rw [tokens,nestedWithin_cons,openGroups_opening opening.2,nestedWithin_append,nestedWithin_cons,
    openGroups_tokens,openGroups_closing closing.2,nestedWithin_nil]
  constructor
  · exact fun h => h.2.1
  · intro nested
    have := positive nested
    exact ⟨by omega,nested,by omega,by omega⟩

theorem nestedWithin_chain {limit : Int} {left : Derivation .sum}
    {operator : TokenOf .additiveOperator} {right : Derivation .primary} :
    NestedWithin limit (chain left operator right).tokens ↔
      NestedWithin limit left.tokens ∧ NestedWithin limit right.tokens := by
  have positive (nested : NestedWithin limit left.tokens) : 0 ≤ limit := nested [] List.nil_prefix
  rw [tokens,nestedWithin_append,nestedWithin_cons,openGroups_tokens,
    openGroups_neutral (.inr operator.2),Int.sub_zero,Int.sub_zero]
  constructor
  · exact fun h => ⟨h.1,h.2.2⟩
  · exact fun h => ⟨h.1,positive h.1,h.2⟩

theorem tree_chain {left : Derivation .sum} {operator : TokenOf .additiveOperator}
    {right : Derivation .primary} {t : Tree} :
    (chain left operator right).tree? = some t ↔ ∃ l r, left.tree? = some l ∧
      right.tree? = some r ∧ t = Tree.join operator.1 l r := by
  simp only [tree?,Option.bind_eq_some_iff,Option.map_eq_some_iff]
  constructor
  · rintro ⟨l,hl,r,hr,rfl⟩
    exact ⟨l,r,hl,hr,rfl⟩
  · rintro ⟨l,r,hl,hr,rfl⟩
    exact ⟨l,hl,r,hr,rfl⟩

/-- A derivation has a tree iff every numeral in it is in range. -/
theorem tree_exists_iff (d : Derivation n) :
    (∃ t, d.tree? = some t) ↔ ∀ t ∈ d.tokens, t.kind = .number → t.InRange := by
  induction d with
  | number word =>
    rw [tokens,List.forall_mem_singleton,Token.inRange_iff]
    simp only [tree?,word.2,forall_const,Option.map_eq_some_iff]
    exact ⟨fun ⟨_,v,read,_⟩ => ⟨v,read⟩,fun ⟨v,read⟩ => ⟨_,v,read,rfl⟩⟩
  | group opening inner closing ih =>
    have notNumber {t : Token} (h : t.kind = .openParen ∨ t.kind = .closeParen) :
        t.kind = .number → t.InRange := by
      intro number
      rcases h with h | h <;> cases number.symm.trans h
    rw [forall_tokens_group]
    constructor
    · exact fun h => ⟨notNumber (.inl opening.2),ih.mp h,notNumber (.inr closing.2)⟩
    · exact fun h => ih.mpr h.2.1
  | single operand ih => exact ih
  | chain left operator right ihl ihr =>
    have notNumber : operator.1.kind = .number → operator.1.InRange := by
      intro number
      cases number.symm.trans operator.2
    rw [forall_tokens_chain,← ihl,← ihr]
    simp only [tree_chain]
    constructor
    · rintro ⟨_,l,r,hl,hr,_⟩
      exact ⟨⟨l,hl⟩,notNumber,⟨r,hr⟩⟩
    · rintro ⟨⟨l,hl⟩,_,⟨r,hr⟩⟩
      exact ⟨_,l,r,hl,hr,rfl⟩

/-- Listing drops the parentheses and permutes the remaining tokens. -/
theorem listing_perm (d : Derivation n) :
    d.listing.Perm (d.tokens.filter fun t => t.kind = .number ∨ t.kind = .additiveOperator) := by
  induction d with
  | number word => simp [listing,tokens,word.2]
  | group opening inner closing ih => simpa [listing,tokens,opening.2,closing.2] using ih
  | single operand ih => exact ih
  | chain left operator right ihl ihr =>
    simp only [listing,tokens,List.filter_append,List.filter_cons,operator.2,List.append_assoc]
    exact ihl.append ((List.perm_append_singleton _ _).trans (ihr.cons _))

theorem listing_numbers (d : Derivation n) :
    d.listing.filter (·.kind = .number) = d.tokens.filter (·.kind = .number) := by
  induction d with
  | number word => rfl
  | group opening inner closing ih => simpa [listing,tokens,opening.2,closing.2] using ih
  | single operand ih => exact ih
  | chain left operator right ihl ihr =>
    simp only [listing,tokens,List.filter_append,ihl,ihr]
    simp [operator.2]

end Derivation

end Reckoner
