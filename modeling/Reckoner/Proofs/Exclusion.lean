import Reckoner.Proofs.Pointing

/-! Causes an error can have. Defensive checks repeat what an earlier stage guarantees and never
fail: operators are classified before evaluation, and converted text is well formed before
assembly. Evaluation contributes overflow, under the checked policy only. -/
namespace Reckoner

/-- Causes with which a strategy can refuse a text. -/
def Strategy.Raises (strategy : Strategy) : Cause → Prop
  | .unexpectedInput _ | .numberParseError _ | .nestingTooDeep _ => True
  | .unexpectedTokenType .. => strategy ≠ .reversePolish
  | .mismatchedParentheses => strategy = .shuntingYard
  | .invalidNodeType _ | .invalidPostfixExpression => strategy = .reversePolish
  | .invalidOperator _ | .overflow .. => False

variable {limit stop : Nat} {strategy : Strategy} {config : Config} {source : String} {t : Token}
  {ts : List Token} {rest : List (Except Error Token)} {draft : Draft} {tree : Tree} {e : Error}

theorem Word.raises {w : Word} (refused : w.token = .error e) : strategy.Raises e.cause := by
  obtain ⟨_,rfl⟩ := Word.token_error.mp refused
  exact trivial

theorem Strategy.raises_item {items : List (Except Error Token)} (member : .error e ∈ items)
    (among : items ⊆ (words source).map Word.token) : strategy.Raises e.cause := by
  obtain ⟨w,_,refused⟩ := List.mem_map.mp (among member)
  exact Word.raises refused

theorem Draft.Fault.raises (fault : Fault limit stop draft rest e)
    (among : rest ⊆ (words source).map Word.token) : Strategy.recursiveDescent.Raises e.cause := by
  cases fault with
  | word | wordInside => exact Strategy.raises_item (by simp) among
  | operandMissing | groupOpen | numeral | full | leftover => exact trivial
  | operandDue | closingDue => exact Strategy.noConfusion

theorem Draft.Refusal.raises (refusal : Refusal limit stop draft rest e)
    (among : rest ⊆ (words source).map Word.token) : Strategy.shuntingYard.Raises e.cause := by
  cases refusal with
  | word => exact Strategy.raises_item (by simp) among
  | operandMissing | full => exact trivial
  | operandDue | operatorDue => exact Strategy.noConfusion
  | groupOpen | unopened => exact rfl

theorem Postfix.raises_of_build (failed : build limit ts = .error e) :
    Strategy.reversePolish.Raises e.cause := by
  rcases build_error failed with ⟨t,_,parts,refused⟩ | ⟨t,_,_,rfl⟩ | ⟨_,rfl⟩
  · rcases assemble_error refused with ⟨_,⟨_,rfl⟩ | rfl⟩ | ⟨_,refused⟩
    · exact rfl
    · exact trivial
    · rcases Tree.ofToken_error.mp refused with ⟨_,_,rfl⟩ | ⟨_,rfl⟩
      · exact trivial
      · exact rfl
  · exact rfl
  · exact rfl

namespace Strategy

theorem raises_of_parse (failed : (strategy.parse config).on source = .error e) :
    strategy.Raises e.cause := by
  cases strategy with
  | recursiveDescent =>
    obtain ⟨ts,draft,rest,read,_,fault⟩ := Grammar.fault_of_parse failed
    exact fault.raises (read ▸ List.subset_append_right _ _)
  | shuntingYard =>
    rcases shuntingYard_origin failed with ⟨ts,draft,rest,read,_,refusal⟩ | ⟨t,_,_,rfl⟩
    · exact refusal.raises (read ▸ List.subset_append_right _ _)
    · exact trivial
  | reversePolish =>
    rcases reversePolish_origin failed with ⟨w,_,refused⟩ | ⟨ts,_,refused⟩
    · exact Word.raises refused
    · exact Postfix.raises_of_build refused

end Strategy

theorem OverflowPolicy.store_total {policy : OverflowPolicy} (unchecked : policy ≠ .checked) (n : Int) :
    ∃ v, policy.store? n = some v := by
  cases policy with
  | checked => exact absurd rfl unchecked
  | saturating => exact ⟨_,rfl⟩
  | wrapping => exact ⟨_,rfl⟩

namespace Tree

theorem ListedAs.additive (listed : tree.ListedAs ts) (spelled : ∀ t ∈ ts, t.Spelled) : tree.Additive := by
  induction listed with
  | literal => exact trivial
  | @operation o left right ls rs kind _ _ ihl ihr =>
    obtain ⟨operands,operator⟩ := List.forall_mem_append.mp spelled
    obtain ⟨spelledLeft,spelledRight⟩ := List.forall_mem_append.mp operands
    exact ⟨(operator o (List.mem_singleton_self o)).additive kind,ihl spelledLeft,ihr spelledRight⟩

theorem reduce_total {policy : OverflowPolicy} (unchecked : policy ≠ .checked) (additive : tree.Additive) :
    ∃ v, tree.reduce policy = .ok v := by
  induction tree with
  | literal v => exact ⟨v,rfl⟩
  | operation o left right s ihl ihr =>
    obtain ⟨isOperator,hl,hr⟩ := additive
    obtain ⟨l,reducedLeft⟩ := ihl hl
    obtain ⟨r,reducedRight⟩ := ihr hr
    obtain ⟨v,stored⟩ := OverflowPolicy.store_total unchecked (l.toInt + o.sign * r.toInt)
    refine ⟨v,?_⟩
    rw [reduce,reducedLeft,ok_bind,reducedRight,ok_bind,OverflowPolicy.apply,isOperator.combine]
    simp only [stored]

end Tree

namespace Calculator

variable {c : Calculator}

/-- A calculation fails in parsing, or with a checked overflow of the parsed tree. -/
theorem error_origin (failed : c.calculate source = .error e) : c.parse source = .error e ∨
    c.config.overflow = .checked ∧ ∃ left operator right, e.cause = .overflow left operator right := by
  cases parsed : c.parse source with
  | error f =>
    rw [calculate,parsed] at failed
    cases failed
    exact .inl rfl
  | ok tree =>
    rw [calculate_of_parse parsed] at failed
    obtain ⟨ts,listed,occurs⟩ := Strategy.occurs_of_parse parsed
    have spelled : ∀ t ∈ ts, t.Spelled := fun t member => (occurs t member).spelled
    obtain ⟨t,_,_,left,right,rfl⟩ := listed.reduce_error spelled failed
    refine .inr ⟨?_,left,t.text,right,rfl⟩
    by_contra unchecked
    obtain ⟨v,reduced⟩ := Tree.reduce_total unchecked (listed.additive spelled)
    cases failed.symm.trans reduced

/-- Defensive causes never occur, and each strategy excludes further causes of the others. Under
saturating or wrapping arithmetic calculation fails iff parsing does, with the same error. -/
theorem defensive_causes_unreachable (c : Calculator) (source : String) :
    (∀ e, c.calculate source = .error e →
      (∀ operator, e.cause ≠ .invalidOperator operator) ∧
      (c.strategy = .recursiveDescent → e.cause ≠ .mismatchedParentheses ∧
        (∀ kind, e.cause ≠ .invalidNodeType kind) ∧ e.cause ≠ .invalidPostfixExpression) ∧
      (c.strategy = .shuntingYard →
        (∀ kind, e.cause ≠ .invalidNodeType kind) ∧ e.cause ≠ .invalidPostfixExpression) ∧
      (c.strategy = .reversePolish →
        (∀ expected found text, e.cause ≠ .unexpectedTokenType expected found text) ∧
          e.cause ≠ .mismatchedParentheses) ∧
      ∀ left operator right, e.cause = .overflow left operator right → c.config.overflow = .checked) ∧
    (c.config.overflow = .saturating ∨ c.config.overflow = .wrapping →
      ∀ e, c.calculate source = .error e ↔ c.parse source = .error e) := by
  constructor
  · intro e failed
    rcases error_origin failed with refused | ⟨checked,left,operator,right,cause⟩
    · have raises := Strategy.raises_of_parse refused
      have other {cause : Cause} (never : ¬c.strategy.Raises cause) : e.cause ≠ cause :=
        fun same => never (same ▸ raises)
      refine ⟨fun operator => other id,fun strategy => ?_,fun strategy => ?_,fun strategy => ?_,?_⟩
      · rw [strategy] at other
        exact ⟨other nofun,fun kind => other nofun,other nofun⟩
      · rw [strategy] at other
        exact ⟨fun kind => other nofun,other nofun⟩
      · rw [strategy] at other
        exact ⟨fun expected found text => other fun raises => raises rfl,other nofun⟩
      · exact fun left operator right same => absurd same (other id)
    · rw [cause]
      exact ⟨nofun,fun _ => ⟨nofun,nofun,nofun⟩,fun _ => ⟨nofun,nofun⟩,fun _ => ⟨nofun,nofun⟩,
        fun _ _ _ _ => checked⟩
  · intro unchecked e
    constructor
    · intro failed
      refine (error_origin failed).resolve_right ?_
      rintro ⟨checked,_⟩
      rw [checked] at unchecked
      rcases unchecked with impossible | impossible <;> cases impossible
    · intro refused
      rw [calculate,refused]
      rfl

theorem defensive_causes_unreachable_closing :
    (Calculator.mk .shuntingYard ⟨256,.reject,.wrapping⟩).parse "1 ) 2" =
      .error ⟨.mismatchedParentheses,2⟩ ∧
    (Calculator.mk .shuntingYard ⟨256,.reject,.wrapping⟩).calculate "1 ) 2" =
      .error ⟨.mismatchedParentheses,2⟩ ∧
    ∃ e : Error, (Calculator.mk .recursiveDescent {}).calculate "1 ) 2" = .error e ∧
      e.cause ≠ .mismatchedParentheses := by
  have refused : (Calculator.mk .shuntingYard ⟨256,.reject,.wrapping⟩).parse "1 ) 2" =
      .error ⟨.mismatchedParentheses,2⟩ := by decide +kernel
  have failed : (Calculator.mk .recursiveDescent {}).calculate "1 ) 2" =
      .error ⟨.unexpectedInput ")",2⟩ := by decide +kernel
  have same := (defensive_causes_unreachable ⟨.shuntingYard,⟨256,.reject,.wrapping⟩⟩ "1 ) 2").2 (.inr rfl)
  obtain ⟨_,descent,_⟩ := (defensive_causes_unreachable ⟨.recursiveDescent,{}⟩ "1 ) 2").1 _ failed
  exact ⟨refused,(same _).mpr refused,_,failed,(descent rfl).1⟩

end Calculator

end Reckoner
