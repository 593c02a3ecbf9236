import Reckoner.Proofs.Recursion

/-! Order of evaluation. The worklist evaluator agrees with structural recursion in post-order,
so the error reported is that of the first failing subtree in post-order, and an operator is
inspected only after both operands have values. -/
namespace Reckoner

/-- Only additive operators have a result, whatever the operands. -/
theorem Token.combine_eq_none {t : Token} (other : ¬t.Additive) (left right : Int) :
    t.combine? left right = none := by
  unfold combine?
  by_cases kind : t.kind = .additiveOperator
  · have text : t.text ≠ "+" ∧ t.text ≠ "-" := by simpa [Additive,kind] using other
    rw [if_pos kind,if_neg text.1,if_neg text.2]
  · rw [if_neg kind]

namespace Tree

variable {policy : OverflowPolicy} {t : Tree} {e : Error}

theorem listInto_cons (t : Tree) (listed due : List Tree) :
    listInto listed (t :: due) = listInto (t.postorder ++ listed) due := by
  induction t generalizing listed due with
  | literal v s => rw [listInto,postorder,listInto,listInto]; rfl
  | operation o left right s ihl ihr =>
    rw [postorder,listInto,ihr,ihl,listInto,ihr,ihl,listInto]
    simp only [List.append_assoc,List.cons_append,List.nil_append]

@[simp] theorem postorder_literal (v : Value) (s : Span) : (literal v s).postorder = [literal v s] := by
  rw [postorder,listInto,listInto]

theorem postorder_operation (o : Token) (left right : Tree) (s : Span) :
    (operation o left right s).postorder =
      left.postorder ++ (right.postorder ++ [operation o left right s]) := by
  rw [postorder,listInto,listInto_cons,listInto_cons,listInto]

theorem evaluate_operation (o : Token) (left right : Tree) (s : Span) (policy : OverflowPolicy) :
    (operation o left right s).evaluate policy = (do
      let l ← left.evaluate policy
      let r ← right.evaluate policy
      policy.apply o l r) := by
  rw [evaluate_eq_reduce,reduce,evaluate_eq_reduce,evaluate_eq_reduce]

def fails (policy : OverflowPolicy) (t : Tree) : Bool := !(t.evaluate policy).isOk

theorem fails_of_ok {v : Value} (evaluated : t.evaluate policy = .ok v) : t.fails policy = false := by
  rw [fails,evaluated]
  rfl

theorem fails_of_error (failed : t.evaluate policy = .error e) : t.fails policy = true := by
  rw [fails,failed]
  rfl

theorem find_fails_of_ok {v : Value} (evaluated : t.evaluate policy = .ok v) :
    t.postorder.find? (fails policy) = none := by
  induction t generalizing v with
  | literal v s =>
    rw [postorder_literal,List.find?_singleton,fails_of_ok evaluated]
    rfl
  | operation o left right s ihl ihr =>
    have steps := evaluated
    rw [evaluate_operation] at steps
    obtain ⟨l,evaluatedLeft,steps⟩ := except_bind_ok.mp steps
    obtain ⟨r,evaluatedRight,_⟩ := except_bind_ok.mp steps
    rw [postorder_operation,List.find?_append,List.find?_append,ihl evaluatedLeft,ihr evaluatedRight,
      List.find?_singleton,fails_of_ok evaluated]
    rfl

/-- The error is raised by the first failing subtree in post-order, whose operands have values. -/
theorem find_fails_of_error (failed : t.evaluate policy = .error e) :
    ∃ o left right s l r, t.postorder.find? (fails policy) = some (operation o left right s) ∧
      left.evaluate policy = .ok l ∧ right.evaluate policy = .ok r ∧ policy.apply o l r = .error e := by
  induction t with
  | literal v s =>
    rw [evaluate_eq_reduce] at failed
    cases failed
  | operation o left right s ihl ihr =>
    have steps := failed
    rw [evaluate_operation] at steps
    rw [postorder_operation,List.find?_append,List.find?_append]
    rcases except_bind_error.mp steps with failedLeft | ⟨l,evaluatedLeft,steps⟩
    · obtain ⟨o',left',right',s',l,r,found,operands⟩ := ihl failedLeft
      exact ⟨o',left',right',s',l,r,by rw [found]; rfl,operands⟩
    rw [find_fails_of_ok evaluatedLeft]
    rcases except_bind_error.mp steps with failedRight | ⟨r,evaluatedRight,applied⟩
    · obtain ⟨o',left',right',s',l,r,found,operands⟩ := ihr failedRight
      exact ⟨o',left',right',s',l,r,by rw [found]; rfl,operands⟩
    rw [find_fails_of_ok evaluatedRight]
    refine ⟨o,left,right,s,l,r,?_,evaluatedLeft,evaluatedRight,applied⟩
    rw [List.find?_singleton,fails_of_error failed]
    rfl

/-- Evaluation equals structural recursion, and equals a loop over the left spine with one
nested call for each right operand, given enough calls. It fails with the error of the first
failing subtree in post-order. An invalid operator is reported only after both operands are
evaluated. -/
theorem evaluation_follows_recursion (t : Tree) (policy : OverflowPolicy) :
    t.evaluate policy = t.reduce policy ∧
    (∀ calls, t.nestedCalls ≤ calls →
      (Walk.evaluating policy).within calls t = some (t.reduce policy)) ∧
    (∀ e, t.evaluate policy = .error e ↔ ∃ o left right s l r,
      t.postorder.find? (fails policy) = some (operation o left right s) ∧
      left.evaluate policy = .ok l ∧ right.evaluate policy = .ok r ∧
      policy.apply o l r = .error e) ∧
    ∀ o left right s, ¬o.Additive → (operation o left right s).evaluate policy = (do
      let _ ← left.evaluate policy
      let _ ← right.evaluate policy
      .error ⟨.invalidOperator o.text,o.span.start⟩) := by
  refine ⟨evaluate_eq_reduce t policy,fun calls enough => ?_,fun e => ⟨find_fails_of_error,?_⟩,?_⟩
  · rw [Walk.evaluating_within policy enough,evaluate_eq_reduce]
  · rintro ⟨o,left,right,s,l,r,found,evaluatedLeft,evaluatedRight,applied⟩
    cases evaluated : t.evaluate policy with
    | ok v => cases found.symm.trans (find_fails_of_ok evaluated)
    | error f =>
      obtain ⟨_,_,_,_,_,_,again,sameLeft,sameRight,applied'⟩ := find_fails_of_error evaluated
      cases found.symm.trans again
      cases evaluatedLeft.symm.trans sameLeft
      cases evaluatedRight.symm.trans sameRight
      exact applied'.symm.trans applied
  · intro o left right s other
    rw [evaluate_operation]
    simp only [OverflowPolicy.apply,Token.combine_eq_none other]

theorem evaluation_follows_recursion_three_faults :
    let sum : Tree := .operation ⟨.additiveOperator,"+",⟨2,3⟩⟩ (.literal 9223372036854775807 ⟨0,1⟩)
      (.literal 1 ⟨4,5⟩) ⟨0,5⟩
    let product : Tree := .operation ⟨.additiveOperator,"*",⟨10,11⟩⟩ (.literal 2 ⟨8,9⟩)
      (.literal 3 ⟨12,13⟩) ⟨8,13⟩
    let whole : Tree := .operation ⟨.openParen,"(",⟨6,7⟩⟩ sum product ⟨0,13⟩
    whole.evaluate .checked = .error ⟨.overflow 9223372036854775807 "+" 1,2⟩ ∧
    whole.evaluate .wrapping = .error ⟨.invalidOperator "*",10⟩ ∧
    (whole.nestedCalls ≤ 2 ∧
      (Walk.evaluating .wrapping).within 2 whole = some (whole.reduce .wrapping)) ∧
    ¬Token.Additive ⟨.openParen,"(",⟨6,7⟩⟩ ∧ whole.evaluate .saturating = (do
      let _ ← sum.evaluate .saturating
      let _ ← product.evaluate .saturating
      .error ⟨.invalidOperator "(",6⟩) := by
  intro sum product whole
  have first : whole.postorder.find? (fails .checked) = some sum := by decide +kernel
  have second : whole.postorder.find? (fails .wrapping) = some product := by decide +kernel
  have unusable : ¬Token.Additive ⟨.openParen,"(",⟨6,7⟩⟩ := fun additive => nomatch additive.1
  have checked := (evaluation_follows_recursion whole .checked).2.2.1
  obtain ⟨_,walked,wrapping,_⟩ := evaluation_follows_recursion whole .wrapping
  have invalid := (evaluation_follows_recursion whole .saturating).2.2.2
  refine ⟨(checked _).mpr ⟨_,_,_,_,9223372036854775807,1,first,?_⟩,
    (wrapping _).mpr ⟨_,_,_,_,2,3,second,?_⟩,⟨by decide,walked 2 (by decide)⟩,unusable,
    invalid _ _ _ _ unusable⟩
  · exact ⟨by decide +kernel,by decide +kernel,rfl⟩
  · exact ⟨by decide +kernel,by decide +kernel,rfl⟩

end Tree

end Reckoner
