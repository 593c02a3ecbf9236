import Reckoner.Postfix.Conversion
import Reckoner.Proofs.Derivation
import Reckoner.Proofs.Operands

/-! Stack invariant of the yard. Each open group contributes its parenthesis with at most one
operator below it, and the innermost group at most one operator above. Waiting operators balance
the surplus of numbers in the output. -/
namespace Reckoner.Postfix

/-- An open group: its parenthesis, and the operator below it, if any. -/
structure Level where
  operator : Option (TokenOf .additiveOperator)
  opening : TokenOf .openParen

def pending (operator : Option (TokenOf .additiveOperator)) : List Token :=
  operator.toList.map Subtype.val

/-- The stack for these open groups, innermost first, and an optional operator on top. -/
def stackOf (top : Option (TokenOf .additiveOperator)) : List Level → List Token
  | [] => pending top
  | l :: levels => pending top ++ l.opening.1 :: stackOf l.operator levels

/-- States of the conversion loop, each with its unread words: one before each word and one at
the end. -/
inductive Reached (limit : Nat) (source : String) : Yard → List Word → Prop where
  | start : Reached limit source {} (words source)
  | step (before : Reached limit source y (w :: unread)) (token : w.token = .ok t)
      (accepted : y.accept limit t = .ok z) : Reached limit source z unread

/-- Loop invariant of the conversion. -/
structure Balanced (limit : Nat) (y : Yard) : Prop where
  stacked : ∃ top levels, y.waiting = stackOf top levels ∧ levels.length = y.openGroups
  within : y.openGroups ≤ limit
  paid : surplus y.output.toList = operatorCount y.waiting + if y.operandDue then 0 else 1

section

variable (operator top : Option (TokenOf .additiveOperator)) (levels : List Level)

theorem pending_length_le : (pending operator).length ≤ 1 := by
  cases operator <;> simp [pending]

theorem countP_pending : (pending operator).countP (·.kind = .openParen) = 0 := by
  cases operator with
  | none => rfl
  | some o => simp [pending,o.2]

theorem operatorCount_pending : operatorCount (pending operator) = (pending operator).length := by
  cases operator with
  | none => rfl
  | some o => simp [pending,operatorCount,o.2]

theorem surplus_pending : surplus (pending operator) = -(pending operator).length := by
  cases operator with
  | none => rfl
  | some o => simp [pending,surplus_operator o.2]

theorem takeWhile_stackOf : (stackOf top levels).takeWhile (·.kind != .openParen) = pending top := by
  cases top with
  | none => cases levels with
    | nil => rfl
    | cons l levels => simp [stackOf,pending,l.opening.2]
  | some o => cases levels with
    | nil => simp [stackOf,pending,o.2]
    | cons l levels => simp [stackOf,pending,o.2,l.opening.2]

theorem dropWhile_stackOf : (stackOf top levels).dropWhile (·.kind != .openParen) = stackOf none levels := by
  cases top with
  | none => cases levels with
    | nil => rfl
    | cons l levels => simp [stackOf,pending,l.opening.2]
  | some o => cases levels with
    | nil => simp [stackOf,pending,o.2]
    | cons l levels => simp [stackOf,pending,o.2,l.opening.2]

theorem stackOf_eq : stackOf top levels = pending top ++ stackOf none levels := by
  cases levels <;> simp [stackOf,pending]

theorem countP_stackOf : (stackOf top levels).countP (·.kind = .openParen) = levels.length := by
  induction levels generalizing top with
  | nil => exact countP_pending top
  | cons l levels ih => simp [stackOf,countP_pending,ih,l.opening.2]

theorem stackOf_length_le : (stackOf top levels).length ≤ 2 * levels.length + 1 := by
  induction levels generalizing top with
  | nil => exact pending_length_le top
  | cons l levels ih =>
    have own := pending_length_le top
    have below := ih l.operator
    simp only [stackOf,List.length_append,List.length_cons]
    omega

end

variable {limit : Nat} {y z : Yard} {t : Token} {source : String} {unread : List Word}

theorem balanced_empty (limit : Nat) : Balanced limit {} :=
  ⟨⟨none,[],rfl,rfl⟩,Nat.zero_le _,rfl⟩

/-- One case for each kind of token. Released operators move from the stack to the output, which
preserves their count. -/
theorem Balanced.accept (balanced : Balanced limit y) (accepted : y.accept limit t = .ok z) :
    Balanced limit z := by
  obtain ⟨top,levels,stack,count⟩ := balanced.stacked
  have within := balanced.within
  have paid := balanced.paid
  have released : y.released = pending top := by rw [Yard.released,stack,takeWhile_stackOf]
  have kept : y.kept = stackOf none levels := by rw [Yard.kept,stack,dropWhile_stackOf]
  unfold Yard.accept at accepted
  cases kind : t.kind with
  | number =>
    simp only [kind] at accepted
    split at accepted
    next due =>
      cases accepted
      refine ⟨⟨top,levels,stack,count⟩,within,?_⟩
      simp only [due] at paid
      simp [surplus_number kind,paid]
    next => cases accepted
  | additiveOperator =>
    simp only [kind] at accepted
    split at accepted
    next => cases accepted
    next due =>
      cases accepted
      refine ⟨⟨some ⟨t,kind⟩,levels,?_,count⟩,within,?_⟩
      · rw [kept,stackOf_eq (some _)]
        rfl
      · rw [stack,stackOf_eq,operatorCount_append,operatorCount_pending,if_neg due] at paid
        rw [released,kept,Array.toList_appendList,surplus_append,surplus_pending,paid,
          ← List.singleton_append,operatorCount_append,operatorCount_operator kind]
        simp only [if_true]
        omega
  | openParen =>
    simp only [kind] at accepted
    split at accepted
    next => cases accepted
    next =>
      split at accepted
      next => cases accepted
      next room =>
        cases accepted
        refine ⟨⟨none,⟨top,⟨t,kind⟩⟩ :: levels,?_,by simp [count]⟩,Nat.not_le.mp room,?_⟩
        · rw [stack]
          rfl
        · simpa [operatorCount,kind] using paid
  | closeParen =>
    simp only [kind] at accepted
    split at accepted
    next => cases accepted
    next due =>
      rw [kept] at accepted
      cases levels with
      | nil => cases accepted
      | cons l levels =>
        cases accepted
        refine ⟨⟨l.operator,levels,rfl,?_⟩,?_,?_⟩
        · rw [← count]
          rfl
        · change y.openGroups - 1 ≤ limit
          omega
        · have below :
              operatorCount (stackOf none (l :: levels)) = operatorCount (stackOf l.operator levels) := by
            simp [stackOf,pending,operatorCount,l.opening.2]
          rw [stack,stackOf_eq,operatorCount_append,operatorCount_pending,below,if_neg due] at paid
          rw [released,Array.toList_appendList,surplus_append,surplus_pending,paid,if_neg due]
          dsimp only
          omega

theorem Reached.balanced (reached : Reached limit source y unread) : Balanced limit y := by
  induction reached with
  | start => exact balanced_empty limit
  | step _ _ accepted ih => exact ih.accept accepted

/-- The loop resumes from every reached state. -/
theorem Reached.feed_eq (reached : Reached limit source y unread) :
    Lexer.feed (Yard.accept limit) {} (Lexer.ofSource source) =
      Lexer.feedWords (Yard.accept limit) source.utf8ByteSize y unread := by
  induction reached with
  | start => rfl
  | step before token accepted ih =>
    rw [ih,Lexer.feedWords,token]
    dsimp only
    rw [accepted]

theorem Balanced.closing (balanced : Balanced limit y) (accepted : y.accept limit t = .ok z)
    (kind : t.kind = .closeParen) : z.openGroups + 1 = y.openGroups := by
  obtain ⟨top,levels,stack,count⟩ := balanced.stacked
  have kept : y.kept = stackOf none levels := by rw [Yard.kept,stack,dropWhile_stackOf]
  simp only [Yard.accept,kind] at accepted
  split at accepted
  next => cases accepted
  next =>
    rw [kept] at accepted
    cases levels with
    | nil => cases accepted
    | cons l levels =>
      cases accepted
      change y.openGroups - 1 + 1 = y.openGroups
      rw [← count]
      rfl

theorem reverse_stackOf (top : Option (TokenOf .additiveOperator)) (levels : List Level) :
    (stackOf top levels).reverse =
      levels.reverse.flatMap (fun l => pending l.operator ++ [l.opening.1]) ++ pending top := by
  have alone (o : Option (TokenOf .additiveOperator)) : (pending o).reverse = pending o := by cases o <;> rfl
  induction levels generalizing top with
  | nil => exact alone top
  | cons l levels ih => simp [stackOf,ih,alone]

/-- In every reached state the stack, from the bottom, is a sequence of at most one operator and
a parenthesis for each open group, with at most one operator on top. The counter equals the
parentheses on the stack, is at most the limit and never underflows, so the stack has at most `2
* maxDepth + 1` entries. Output numbers minus output operators equal the waiting operators, plus
one if no operand is due. -/
theorem waiting_balanced (config : Config) (source : String) (y : Yard) (unread : List Word)
    (reached : Reached config.maxDepth source y unread) :
    (∃ (levels : List Level) (top : Option (TokenOf .additiveOperator)), y.waiting.reverse =
      levels.flatMap (fun l => pending l.operator ++ [l.opening.1]) ++ pending top) ∧
    y.waiting.countP (·.kind = .openParen) = y.openGroups ∧ y.openGroups ≤ config.maxDepth ∧
    (∀ t z, t.kind = .closeParen → y.accept config.maxDepth t = .ok z → z.openGroups + 1 = y.openGroups) ∧
    y.waiting.length ≤ 2 * config.maxDepth + 1 ∧
    (y.output.toList.countP (·.kind = .number) : Int) - y.output.toList.countP (·.kind = .additiveOperator) =
      y.waiting.countP (·.kind = .additiveOperator) + (if y.operandDue then 0 else 1) ∧
    Lexer.feed (Yard.accept config.maxDepth) {} (Lexer.ofSource source) =
      Lexer.feedWords (Yard.accept config.maxDepth) source.utf8ByteSize y unread := by
  have balanced := reached.balanced
  obtain ⟨top,levels,stack,count⟩ := balanced.stacked
  have within := balanced.within
  refine ⟨⟨levels.reverse,top,?_⟩,?_,within,?_,?_,balanced.paid,reached.feed_eq⟩
  · rw [stack,reverse_stackOf]
  · rw [stack,countP_stackOf,count]
  · exact fun t z kind accepted => balanced.closing accepted kind
  · have bound := stackOf_length_le top levels
    rw [← stack] at bound
    omega

/-- Two open groups, with an operator below the outer one and on top. -/
theorem waiting_balanced_two_groups :
    let minus : Token := ⟨.additiveOperator,"-",⟨2,3⟩⟩
    let plus : Token := ⟨.additiveOperator,"+",⟨10,11⟩⟩
    let outer : Token := ⟨.openParen,"(",⟨4,5⟩⟩
    let inner : Token := ⟨.openParen,"(",⟨6,7⟩⟩
    let y : Yard := {
      output := #[⟨.number,"1",⟨0,1⟩⟩,⟨.number,"2",⟨8,9⟩⟩,⟨.number,"3",⟨12,13⟩⟩]
      waiting := [plus,inner,outer,minus], openGroups := 2, operandDue := false }
    Reached 2 "1 - ( ( 2 + 3 x" y [⟨"x",14,15⟩] ∧ y.waiting.length ≤ 2 * 2 + 1 ∧
      (∀ t z, t.kind = .closeParen → y.accept 2 t = .ok z → z.openGroups + 1 = 2) := by
  intro minus plus outer inner y
  have read : words "1 - ( ( 2 + 3 x" = [⟨"1",0,1⟩,⟨"-",2,3⟩,⟨"(",4,5⟩,⟨"(",6,7⟩,⟨"2",8,9⟩,⟨"+",10,11⟩,
      ⟨"3",12,13⟩,⟨"x",14,15⟩] := by decide +kernel
  have begun : Reached 2 "1 - ( ( 2 + 3 x" {} _ := read ▸ Reached.start
  have reached : Reached 2 "1 - ( ( 2 + 3 x" y [⟨"x",14,15⟩] :=
    .step (.step (.step (.step (.step (.step (.step begun rfl rfl) rfl rfl) rfl rfl) rfl rfl) rfl rfl) rfl rfl)
      rfl rfl
  obtain ⟨_,_,_,closing,bound,_⟩ := waiting_balanced ⟨2,.reject,.checked⟩ _ y _ reached
  exact ⟨reached,bound,closing⟩

end Reckoner.Postfix
