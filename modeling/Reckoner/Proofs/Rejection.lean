import Mathlib.Data.List.Forall2
import Reckoner.Proofs.Assembly

/-! Assembly errors: a refused token, or the parts remaining at the end. On the listing of a
derivation only a numeral out of range can be refused. -/
namespace Reckoner

open Postfix

theorem Tree.ListedAs.first {tree : Tree} {ts : List Token} (listed : tree.ListedAs ts) :
    ∃ t rest, ts = t :: rest ∧ t.kind = .number ∧ tree.span.start = t.span.start := by
  induction listed with
  | @literal t v kind value => exact ⟨t,[],rfl,kind,rfl⟩
  | @operation o left right ls rs kind _ _ ihl ihr =>
    obtain ⟨t,rest,rfl,number,start⟩ := ihl
    exact ⟨t,rest ++ rs ++ [o],by simp,number,start⟩

namespace Postfix

variable {maxDepth : Nat} {parts : List Part} {ts : List Token} {t : Token} {e : Error}

theorem assemble_error (failed : assemble maxDepth parts t = .error e) :
    (t.kind = .additiveOperator ∧
      (parts.length < 2 ∧ e = ⟨.invalidPostfixExpression,t.span.start⟩ ∨
        e = ⟨.nestingTooDeep maxDepth,t.span.start⟩)) ∨
    t.kind ≠ .additiveOperator ∧ Tree.ofToken t = .error e := by
  by_cases kind : t.kind = .additiveOperator
  · refine .inl ⟨kind,?_⟩
    match parts with
    | [] | [_] =>
      simp only [assemble,kind] at failed
      cases failed
      exact .inl ⟨by simp,rfl⟩
    | right :: left :: below =>
      rw [assemble_operator kind] at failed
      split at failed
      · cases failed
        exact .inr rfl
      · cases failed
  · refine .inr ⟨kind,?_⟩
    rw [assemble_operand kind] at failed
    cases made : Tree.ofToken t with
    | ok tree =>
      rw [made] at failed
      cases failed
    | error f =>
      rw [made] at failed
      cases failed
      rfl

theorem single_error (failed : single parts = .error e) :
    (parts = [] ∧ e = ⟨.invalidPostfixExpression,0⟩) ∨
    ∃ first second rest, parts.reverse = first :: second :: rest ∧
      e = ⟨.invalidPostfixExpression,second.tree.span.start⟩ := by
  unfold single at failed
  split at failed
  next => cases failed
  next several =>
    cases failed
    cases order : parts.reverse with
    | nil => exact .inl ⟨by simpa using order,rfl⟩
    | cons first others =>
      cases others with
      | nil => exact absurd (by simpa using congrArg List.reverse order) (several first)
      | cons second rest => exact .inr ⟨first,second,rest,rfl,rfl⟩

/-- Oldest first, the parts are listed by consecutive blocks of the tokens. -/
theorem Stacked.in_turn (stacked : Stacked maxDepth parts ts) : ∃ stretches,
    List.Forall₂ Tree.ListedAs (parts.reverse.map Part.tree) stretches ∧ ts = stretches.flatten := by
  induction stacked with
  | empty => exact ⟨[],.nil,rfl⟩
  | @push parts tree ts us _ listed _ ih =>
    obtain ⟨stretches,listedBelow,rfl⟩ := ih
    refine ⟨stretches ++ [us],?_,by simp⟩
    rw [List.reverse_cons,List.map_append]
    exact List.rel_append listedBelow (.cons listed .nil)

theorem Stacked.leftover (stacked : Stacked maxDepth parts ts) (left : single parts = .error e) :
    (ts = [] ∧ e = ⟨.invalidPostfixExpression,0⟩) ∨
    ∃ (first second : Tree) (others : List Tree) (us : List Token) (t : Token) (vs : List Token)
      (stretches : List (List Token)), ts = us ++ t :: vs ++ stretches.flatten ∧ first.ListedAs us ∧
      second.ListedAs (t :: vs) ∧ List.Forall₂ Tree.ListedAs others stretches ∧ t.kind = .number ∧
      e = ⟨.invalidPostfixExpression,t.span.start⟩ := by
  rcases single_error left with ⟨rfl,rfl⟩ | ⟨first,second,rest,order,rfl⟩
  · cases stacked
    exact .inl ⟨rfl,rfl⟩
  · obtain ⟨stretches,listed,flat⟩ := stacked.in_turn
    rw [order] at listed
    cases listed with
    | cons listedFirst more =>
      cases more with
      | cons listedSecond more =>
        obtain ⟨t,vs,rfl,number,start⟩ := listedSecond.first
        exact .inr ⟨_,_,_,_,t,vs,_,by simpa using flat,listedFirst,listedSecond,more,number,by rw [start]⟩

/-- Assembly fails at a token, at the start of the second remaining tree, or at zero for the
empty list. -/
theorem build_error (failed : build maxDepth ts = .error e) :
    (∃ t ∈ ts, ∃ parts, assemble maxDepth parts t = .error e) ∨
    (∃ t ∈ ts, t.kind = .number ∧ e = ⟨.invalidPostfixExpression,t.span.start⟩) ∨
    ts = [] ∧ e = ⟨.invalidPostfixExpression,0⟩ := by
  unfold build at failed
  cases folded : ts.foldlM (assemble maxDepth) [] with
  | error f =>
    rw [folded] at failed
    cases failed
    obtain ⟨front,t,back,parts,rfl,_,refused⟩ := foldlM_error folded
    exact .inl ⟨t,by simp,parts,refused⟩
  | ok parts =>
    rw [folded] at failed
    have stacked : Stacked maxDepth parts ts := Stacked.empty.foldlM_assemble folded
    rcases stacked.leftover failed with none | ⟨_,_,_,us,t,vs,_,rfl,_,_,_,number,blamed⟩
    · exact .inr (.inr none)
    · exact .inr (.inl ⟨t,by simp,number,blamed⟩)

end Postfix

namespace Derivation

variable {n : Nonterminal} {maxDepth : Nat} {tree : Tree}

/-- The leftmost numeral out of range stops every assembly of the listing. -/
theorem assemble_unfit {d : Derivation n} (nested : NestedWithin maxDepth d.tokens) (none : d.tree? = none) :
    ∃ front t rest, d.tokens.filter (·.kind = .number) = front ++ t :: rest ∧
      (∀ u ∈ front, u.InRange) ∧ ¬t.InRange ∧ ∀ parts, d.listing.foldlM (assemble maxDepth) parts =
        .error ⟨.numberParseError t.text,t.span.start⟩ := by
  induction d with
  | number word =>
    have unfit : ¬word.1.InRange := by
      rw [Token.inRange_iff]
      rintro ⟨v,value⟩
      simp [tree?,value] at none
    refine ⟨[],word.1,[],by simp [tokens,word.2],by simp,unfit,fun parts => ?_⟩
    have refused := Tree.ofToken_error.mpr (.inl ⟨word.2,unfit,rfl⟩)
    simp only [listing,List.foldlM_cons,assemble_number word.2,refused]
    rfl
  | group opening inner closing ih =>
    have inside := nestedWithin_group.mp nested
    obtain ⟨front,t,rest,numbers,fits,unfit,stops⟩ := ih (inside.mono (by omega)) none
    exact ⟨front,t,rest,by simpa [tokens,opening.2,closing.2] using numbers,fits,unfit,stops⟩
  | single operand ih => exact ih nested none
  | chain left operator right ihl ihr =>
    obtain ⟨nestedLeft,nestedRight⟩ := nestedWithin_chain.mp nested
    cases leftTree : left.tree? with
    | none =>
      obtain ⟨front,t,rest,numbers,fits,unfit,stops⟩ := ihl nestedLeft leftTree
      refine ⟨front,t,rest ++ right.tokens.filter (·.kind = .number),?_,fits,unfit,fun parts => ?_⟩
      · simp [tokens,operator.2,numbers]
      · rw [listing,List.foldlM_append,List.foldlM_append,stops]
        rfl
    | some l =>
      have rightTree : right.tree? = Option.none := by simpa [tree?,leftTree] using none
      obtain ⟨front,t,rest,numbers,fits,unfit,stops⟩ := ihr nestedRight rightTree
      refine ⟨left.tokens.filter (·.kind = .number) ++ front,t,rest,?_,?_,unfit,fun parts => ?_⟩
      · simp [tokens,operator.2,numbers]
      · refine List.forall_mem_append.mpr ⟨fun u member => ?_,fits⟩
        obtain ⟨among,number⟩ := List.mem_filter.mp member
        exact left.tree_exists_iff.mp ⟨l,leftTree⟩ u among (by simpa using number)
      · have depth := (left.rightDepth_le nestedLeft leftTree).1
        have assembled : left.listing.foldlM (assemble maxDepth) parts = .ok (⟨l,l.rightDepth⟩ :: parts) :=
          assemble_listed (left.listedAs leftTree) (by omega)
        rw [listing,List.foldlM_append,List.foldlM_append,assembled]
        change (right.listing.foldlM (assemble maxDepth) _ >>= _) = _
        rw [stops]
        rfl

end Derivation

end Reckoner
