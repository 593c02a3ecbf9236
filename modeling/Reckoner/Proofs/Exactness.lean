import Reckoner.Proofs.EvaluationOrder

/-! Stored sums against exact sums. While every subtree is in range, all policies agree with the
exact value. Otherwise checked evaluation stops at the first subtree out of range, and wrapping
evaluation remains exact modulo 2⁶⁴. -/
namespace Reckoner

theorem Value.ofInt_eq_none {n : Int} : ofInt? n = none ↔ ¬(least ≤ n ∧ n ≤ greatest) := by
  simp only [ofInt?,ite_eq_right_iff,reduceCtorEq,imp_false]

theorem OverflowPolicy.store_of_fits {n : Int} {v : Value} (fits : Value.ofInt? n = some v)
    (policy : OverflowPolicy) : policy.store? n = some v := by
  cases policy with
  | checked => exact fits
  | saturating =>
    have bounds := v.toInt_bounds
    rw [Value.ofInt_eq_some.mp fits] at bounds
    have nearest : max Value.least (min n Value.greatest) = n := by omega
    rw [store?,Value.clamp,nearest,← Value.ofInt_eq_some.mp fits,Int64.ofInt_toInt]
  | wrapping => rw [store?,Value.wrap,← Value.ofInt_eq_some.mp fits,Int64.ofInt_toInt]

theorem OverflowPolicy.apply_of_checked {o : Token} {l r v : Value} (applied : checked.apply o l r = .ok v)
    (policy : OverflowPolicy) : policy.apply o l r = .ok v := by
  unfold apply at applied ⊢
  cases combined : o.combine? l.toInt r.toInt with
  | none => simp only [combined] at applied; cases applied
  | some n =>
    simp only [combined] at applied ⊢
    cases stored : checked.store? n with
    | none => simp only [stored] at applied; cases applied
    | some w =>
      simp only [stored] at applied
      cases applied
      simp only [store_of_fits stored policy]

theorem OverflowPolicy.checked_refuses {o : Token} {l r : Value} {e : Error} (isOperator : o.Additive)
    (failed : checked.apply o l r = .error e) :
    Value.ofInt? (l.toInt + o.sign * r.toInt) = none ∧ e = ⟨.overflow l o.text r,o.span.start⟩ := by
  unfold apply at failed
  rw [isOperator.combine] at failed
  simp only [store?] at failed
  cases stored : Value.ofInt? (l.toInt + o.sign * r.toInt) with
  | some v => simp only [stored] at failed; cases failed
  | none =>
    simp only [stored] at failed
    cases failed
    exact ⟨rfl,rfl⟩

namespace Tree

variable {t part : Tree} {v : Value} {e : Error}

def Fits (t : Tree) : Prop := Value.least ≤ t.exact ∧ t.exact ≤ Value.greatest

instance (t : Tree) : Decidable t.Fits := inferInstanceAs (Decidable (_ ∧ _))

theorem Additive.of_mem (additive : t.Additive) (member : part ∈ t.postorder) : part.Additive := by
  induction t with
  | literal v s =>
    rw [postorder_literal,List.mem_singleton] at member
    exact member ▸ additive
  | operation o left right s ihl ihr =>
    rw [postorder_operation] at member
    rcases List.mem_append.mp member with member | member
    · exact ihl additive.2.1 member
    rcases List.mem_append.mp member with member | member
    · exact ihr additive.2.2 member
    · exact List.mem_singleton.mp member ▸ additive

theorem exact_of_checked (additive : t.Additive) (evaluated : t.evaluate .checked = .ok v) :
    v.toInt = t.exact := by
  rw [evaluate_eq_reduce] at evaluated
  rcases reduce_checked additive with ⟨w,reduced,exact⟩ | ⟨_,_,_,_,failed⟩
  · cases evaluated.symm.trans reduced
    exact exact
  · cases evaluated.symm.trans failed

/-- A successful checked evaluation applies no overflow policy. -/
theorem evaluate_of_checked (evaluated : t.evaluate .checked = .ok v) (policy : OverflowPolicy) :
    t.evaluate policy = .ok v := by
  induction t generalizing v with
  | literal w s =>
    rw [evaluate_eq_reduce] at evaluated ⊢
    exact evaluated
  | operation o left right s ihl ihr =>
    rw [evaluate_operation] at evaluated
    obtain ⟨l,evaluatedLeft,evaluated⟩ := except_bind_ok.mp evaluated
    obtain ⟨r,evaluatedRight,applied⟩ := except_bind_ok.mp evaluated
    rw [evaluate_operation,ihl evaluatedLeft,ok_bind,ihr evaluatedRight,ok_bind]
    exact OverflowPolicy.apply_of_checked applied policy

theorem fits_of_not_fails (additive : t.Additive) (sound : t.fails .checked = false) : t.Fits := by
  cases result : t.evaluate .checked with
  | error e => cases sound.symm.trans (fails_of_error result)
  | ok v =>
    rw [Fits,← exact_of_checked additive result]
    exact v.toInt_bounds

theorem fits_of_checked (additive : t.Additive) (evaluated : t.evaluate .checked = .ok v) :
    ∀ part ∈ t.postorder, part.Fits := by
  intro part member
  have sound := List.find?_eq_none.mp (find_fails_of_ok evaluated) part member
  exact fits_of_not_fails (additive.of_mem member) (by simpa using sound)

/-- Checked evaluation fails at the first subtree out of range in post-order; its operands are
in range. -/
theorem first_overflow (additive : t.Additive) (failed : t.evaluate .checked = .error e) :
    ∃ o left right s, t.postorder.find? (fun part => ¬part.Fits) = some (operation o left right s) ∧
      ∃ l r : Value, l.toInt = left.exact ∧ r.toInt = right.exact ∧
        e = ⟨.overflow l o.text r,o.span.start⟩ := by
  obtain ⟨o,left,right,s,l,r,found,evaluatedLeft,evaluatedRight,applied⟩ := find_fails_of_error failed
  have member := List.mem_of_find?_eq_some found
  obtain ⟨isOperator,additiveLeft,additiveRight⟩ := additive.of_mem member
  have exactLeft := exact_of_checked additiveLeft evaluatedLeft
  have exactRight := exact_of_checked additiveRight evaluatedRight
  obtain ⟨unstored,refused⟩ := OverflowPolicy.checked_refuses isOperator applied
  rw [exactLeft,exactRight] at unstored
  have unfit : ¬(operation o left right s).Fits := Value.ofInt_eq_none.mp unstored
  refine ⟨o,left,right,s,?_,l,r,exactLeft,exactRight,refused⟩
  -- It is the first that fails, so what comes before has a value, and that is the exact one.
  obtain ⟨_,front,back,split,before⟩ := List.find?_eq_some_iff_append.mp found
  refine List.find?_eq_some_iff_append.mpr ⟨by simpa using unfit,front,back,split,fun part among => ?_⟩
  have inside : part ∈ t.postorder := by simp [split,among]
  have sound : part.fails .checked = false := by simpa using before part among
  simpa using fits_of_not_fails (additive.of_mem inside) sound

/-- Checked evaluation succeeds iff every subtree is in range, with the exact value, which all
policies then share. Otherwise it reports the first subtree out of range in post-order, with the
exact values of both operands. Wrapping is exact modulo 2⁶⁴. -/
theorem checked_sums_exact (t : Tree) (additive : t.Additive) :
    (∀ v, t.evaluate .checked = .ok v ↔ (∀ part ∈ t.postorder, part.Fits) ∧ v.toInt = t.exact) ∧
    ((∀ part ∈ t.postorder, part.Fits) → ∃ v : Value, v.toInt = t.exact ∧
      ∀ policy, t.evaluate policy = .ok v) ∧
    (¬(∀ part ∈ t.postorder, part.Fits) → ∃ o left right s,
      t.postorder.find? (fun part => ¬part.Fits) = some (operation o left right s) ∧
      ∃ l r : Value, l.toInt = left.exact ∧ r.toInt = right.exact ∧
        t.evaluate .checked = .error ⟨.overflow l o.text r,o.span.start⟩) ∧
    ∃ v : Value, t.evaluate .wrapping = .ok v ∧ v.toInt = t.exact.bmod Int64.size := by
  have wrapped : t.evaluate .wrapping = .ok (Value.wrap t.exact) := by
    rw [evaluate_eq_reduce,reduce_wrapping additive]
  have evaluated (fits : ∀ part ∈ t.postorder, part.Fits) : ∃ v, t.evaluate .checked = .ok v := by
    cases result : t.evaluate .checked with
    | ok v => exact ⟨v,rfl⟩
    | error e =>
      obtain ⟨o,left,right,s,found,_⟩ := first_overflow additive result
      have unfit := List.find?_some found
      rw [decide_eq_true_eq] at unfit
      exact absurd (fits _ (List.mem_of_find?_eq_some found)) unfit
  refine ⟨fun v => ⟨fun value => ⟨fits_of_checked additive value,exact_of_checked additive value⟩,?_⟩,
    fun fits => ?_,fun unfit => ?_,_,wrapped,Value.toInt_wrap t.exact⟩
  · rintro ⟨fits,exact⟩
    obtain ⟨w,value⟩ := evaluated fits
    rw [value,Int64.toInt_inj.mp (exact.trans (exact_of_checked additive value).symm)]
  · obtain ⟨v,value⟩ := evaluated fits
    exact ⟨v,exact_of_checked additive value,evaluate_of_checked value⟩
  · cases result : t.evaluate .checked with
    | ok v => exact absurd (fits_of_checked additive result) unfit
    | error e =>
      obtain ⟨o,left,right,s,found,l,r,exactLeft,exactRight,rfl⟩ := first_overflow additive result
      exact ⟨o,left,right,s,found,l,r,exactLeft,exactRight,rfl⟩

theorem checked_sums_exact_two_overflows :
    let left : Tree := .operation ⟨.additiveOperator,"+",⟨2,3⟩⟩ (.literal 9223372036854775807 ⟨0,1⟩)
      (.literal 1 ⟨4,5⟩) ⟨0,5⟩
    let right : Tree := .operation ⟨.additiveOperator,"+",⟨12,13⟩⟩ (.literal 2 ⟨10,11⟩)
      (.literal 9223372036854775807 ⟨14,15⟩) ⟨10,15⟩
    let whole : Tree := .operation ⟨.additiveOperator,"-",⟨6,7⟩⟩ left right ⟨0,15⟩
    let lowest : Tree := .operation ⟨.additiveOperator,"-",⟨3,4⟩⟩ (.literal (-9223372036854775807) ⟨0,2⟩)
      (.literal 1 ⟨5,6⟩) ⟨0,6⟩
    (whole.Additive ∧ ¬left.Fits ∧ ¬right.Fits ∧ whole.Fits) ∧
    whole.evaluate .checked = .error ⟨.overflow 9223372036854775807 "+" 1,2⟩ ∧
    (∃ v : Value, whole.evaluate .wrapping = .ok v ∧ v.toInt = -1) ∧
    lowest.Additive ∧ (∀ part ∈ lowest.postorder, part.Fits) ∧
    ∃ v : Value, v.toInt = -9223372036854775808 ∧ ∀ policy, lowest.evaluate policy = .ok v := by
  intro left right whole lowest
  have additive : whole.Additive :=
    ⟨⟨rfl,.inr rfl⟩,⟨⟨rfl,.inl rfl⟩,trivial,trivial⟩,⟨⟨rfl,.inl rfl⟩,trivial,trivial⟩⟩
  have additiveLowest : lowest.Additive := ⟨⟨rfl,.inr rfl⟩,trivial,trivial⟩
  have unfit : ¬∀ part ∈ whole.postorder, part.Fits := by decide +kernel
  have fits : ∀ part ∈ lowest.postorder, part.Fits := by decide +kernel
  have first : whole.postorder.find? (fun part => ¬part.Fits) = some left := by decide +kernel
  obtain ⟨_,_,stopped,v,wrapped,rest⟩ := checked_sums_exact whole additive
  refine ⟨⟨additive,by decide,by decide,by decide⟩,?_,⟨v,wrapped,rest.trans (by decide +kernel)⟩,
    additiveLowest,fits,(checked_sums_exact lowest additiveLowest).2.1 fits⟩
  obtain ⟨o,_,_,s,found,l,r,exactLeft,exactRight,failed⟩ := stopped unfit
  obtain ⟨rfl,rfl,rfl,rfl⟩ := Tree.operation.inj (Option.some.inj (first.symm.trans found))
  rw [failed,Int64.toInt_inj.mp exactLeft,Int64.toInt_inj.mp exactRight]

end Tree

end Reckoner
