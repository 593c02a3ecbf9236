import Reckoner.Evaluation
import Reckoner.Proofs.Numeral
import Reckoner.Proofs.Work

/-! The worklist evaluator against structural recursion, and exact values against values stored
in 64 bits. -/
namespace Reckoner

namespace Tree

/-- Structural recursion in post-order. -/
def reduce (policy : OverflowPolicy) : Tree → Except Error Value
  | literal v _ => .ok v
  | operation operator left right _ => do
    let l ← left.reduce policy
    let r ← right.reduce policy
    policy.apply operator l r

/-- Pending work resumes with the value of the tree in focus. -/
theorem run_reduce {policy : OverflowPolicy} (t : Tree) (waiting : List Evaluation.Waiting) :
    Evaluation.run policy (.tree t) waiting =
      t.reduce policy >>= fun v => Evaluation.run policy (.value v) waiting := by
  induction t generalizing waiting with
  | literal v span =>
    rw [Evaluation.run,reduce]
    rfl
  | operation operator left right span ihl ihr =>
    rw [Evaluation.run,ihl,reduce,bind_assoc]
    cases left.reduce policy with
    | error e => rfl
    | ok l =>
      rw [ok_bind,ok_bind,Evaluation.run,ihr,bind_assoc]
      cases right.reduce policy with
      | error e => rfl
      | ok r =>
        rw [ok_bind,ok_bind,Evaluation.run]
        cases policy.apply operator l r with
        | error e => rfl
        | ok v => rfl

theorem evaluate_eq_reduce (t : Tree) (policy : OverflowPolicy) :
    t.evaluate policy = t.reduce policy := by
  rw [evaluate,run_reduce]
  cases t.reduce policy with
  | error e => rfl
  | ok v => rw [ok_bind,Evaluation.run.eq_def]

end Tree

/-- Sign with which an operator adds its right operand. -/
def Token.sign (t : Token) : Int := if t.text = "-" then -1 else 1

def Token.Additive (t : Token) : Prop := t.kind = .additiveOperator ∧ (t.text = "+" ∨ t.text = "-")

theorem Token.Additive.combine {t : Token} (h : t.Additive) (left right : Int) :
    t.combine? left right = some (left + t.sign * right) := by
  obtain ⟨kind,text | text⟩ := h
  · simp [Token.combine?,Token.sign,kind,text]
  · simp [Token.combine?,Token.sign,kind,text,Int.sub_eq_add_neg]

theorem Value.toInt_wrap (n : Int) : (Value.wrap n).toInt = n.bmod Int64.size :=
  Int64.toInt_ofInt

theorem Value.wrap_add_sign {operator : Token} (left right : Int) :
    wrap ((wrap left).toInt + operator.sign * (wrap right).toInt) = wrap (left + operator.sign * right) := by
  rw [← Int64.toInt_inj,toInt_wrap,toInt_wrap,toInt_wrap,toInt_wrap,Int.bmod_add_bmod,
    Int.add_bmod,Int.mul_bmod_bmod,← Int.add_bmod]

namespace Tree

/-- Value over the integers. -/
def exact : Tree → Int
  | literal v _ => v.toInt
  | operation operator left right _ => left.exact + operator.sign * right.exact

def Additive : Tree → Prop
  | literal _ _ => True
  | operation operator left right _ => operator.Additive ∧ left.Additive ∧ right.Additive

theorem reduce_wrapping {t : Tree} (additive : t.Additive) :
    t.reduce .wrapping = .ok (Value.wrap t.exact) := by
  induction t with
  | literal v span => rw [reduce,exact,Value.wrap,Int64.ofInt_toInt]
  | operation operator left right span ihl ihr =>
    obtain ⟨isOperator,hl,hr⟩ := additive
    rw [reduce,ihl hl,ihr hr,ok_bind,ok_bind,OverflowPolicy.apply,
      isOperator.combine]
    simp only [OverflowPolicy.store?]
    rw [Value.wrap_add_sign,exact]

theorem reduce_checked {t : Tree} (additive : t.Additive) :
    (∃ v, t.reduce .checked = .ok v ∧ v.toInt = t.exact) ∨
      ∃ left operator right position,
        t.reduce .checked = .error ⟨.overflow left operator right,position⟩ := by
  induction t with
  | literal v span => exact .inl ⟨v,rfl,rfl⟩
  | operation operator left right span ihl ihr =>
    obtain ⟨isOperator,hl,hr⟩ := additive
    rcases ihl hl with ⟨l,reducedLeft,exactLeft⟩ | ⟨a,o,b,position,failed⟩
    · rcases ihr hr with ⟨r,reducedRight,exactRight⟩ | ⟨a,o,b,position,failed⟩
      · have applied := isOperator.combine l.toInt r.toInt
        rw [reduce,reducedLeft,reducedRight,ok_bind,ok_bind,OverflowPolicy.apply,
          applied]
        rw [exactLeft,exactRight] at applied ⊢
        simp only [OverflowPolicy.store?]
        cases stored : Value.ofInt? (left.exact + operator.sign * right.exact) with
        | some v => exact .inl ⟨v,rfl,Value.ofInt_eq_some.mp stored⟩
        | none => exact .inr ⟨l,operator.text,r,operator.span.start,rfl⟩
      · refine .inr ⟨a,o,b,position,?_⟩
        rw [reduce,reducedLeft,failed]
        rfl
    · refine .inr ⟨a,o,b,position,?_⟩
      rw [reduce,failed]
      rfl

end Tree

end Reckoner
