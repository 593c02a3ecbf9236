import Reckoner.Proofs.Rejection

/-! Counting criterion for reverse Polish input. A number adds one tree to the stack and an
operator removes one, so the counts before each operator and at the end decide whether the
tokens assemble. -/
namespace Reckoner.Postfix

def operatorCount (ts : List Token) : Nat := ts.countP (·.kind = .additiveOperator)

/-- Numbers minus operators: the size of the stack. -/
def surplus (ts : List Token) : Int := ts.countP (·.kind = .number) - operatorCount ts

/-- Before every operator, numbers exceed operators by at least two. -/
def EachSupplied (ts : List Token) : Prop :=
  ∀ front o back, ts = front ++ o :: back → o.kind = .additiveOperator → 2 ≤ surplus front

/-- Position reported for tokens that do not assemble to one tree. -/
inductive Blamed (ts : List Token) : Nat → Prop where
  /-- The first operator without two operands. -/
  | operator {front back : List Token} {o : Token} (split : ts = front ++ o :: back)
      (kind : o.kind = .additiveOperator) (few : surplus front < 2) (before : EachSupplied front) :
      Blamed ts o.span.start
  /-- Every operator has its operands and several trees remain. The position is the start of the
  second tree. -/
  | leftover {first second : Tree} {others : List Tree} {us vs : List Token} {t : Token}
      {stretches : List (List Token)} (supplied : EachSupplied ts) (split : ts = us ++ t :: vs ++ stretches.flatten)
      (listed : first.ListedAs us) (next : second.ListedAs (t :: vs))
      (more : List.Forall₂ Tree.ListedAs others stretches) : Blamed ts t.span.start
  | nothing (none : ts = []) : Blamed ts 0

variable {maxDepth : Nat} {parts next : List Part} {ts front back : List Token} {t : Token} {tree : Tree}
  {trees : List Tree} {stretches : List (List Token)} {e : Error}

@[simp] theorem operatorCount_append (front back : List Token) :
    operatorCount (front ++ back) = operatorCount front + operatorCount back :=
  List.countP_append

@[simp] theorem surplus_append (front back : List Token) :
    surplus (front ++ back) = surplus front + surplus back := by
  simp only [surplus,operatorCount_append,List.countP_append]
  omega

theorem operatorCount_operator (kind : t.kind = .additiveOperator) : operatorCount [t] = 1 := by
  simp [operatorCount,kind]

theorem surplus_number (kind : t.kind = .number) : surplus [t] = 1 := by
  simp [surplus,operatorCount,kind]

theorem surplus_operator (kind : t.kind = .additiveOperator) : surplus [t] = -1 := by
  simp [surplus,operatorCount,kind]

end Postfix

open Postfix

namespace Tree.ListedAs

variable {tree : Tree} {ts : List Token}

theorem surplus_eq (listed : tree.ListedAs ts) : surplus ts = 1 := by
  induction listed with
  | literal kind => exact surplus_number kind
  | operation kind _ _ ihl ihr => rw [surplus_append,surplus_append,surplus_operator kind,ihl,ihr]; rfl

theorem rightDepth_le (listed : tree.ListedAs ts) : tree.rightDepth ≤ operatorCount ts := by
  induction listed with
  | literal => exact Nat.zero_le _
  | @operation o left right ls rs kind _ _ ihl ihr =>
    rw [operatorCount_append,operatorCount_append,operatorCount_operator kind,rightDepth]
    split <;> omega

end Tree.ListedAs

namespace Postfix

variable {maxDepth : Nat} {parts next : List Part} {ts front back : List Token} {t : Token} {tree : Tree}
  {trees : List Tree} {stretches : List (List Token)} {e : Error}

theorem Stacked.surplus_eq (stacked : Stacked maxDepth parts ts) : surplus ts = parts.length := by
  induction stacked with
  | empty => rfl
  | push _ listed _ ih => rw [surplus_append,ih,listed.surplus_eq,List.length_cons]; rfl

theorem assemble_few (kind : t.kind = .additiveOperator) (few : parts.length < 2) :
    assemble maxDepth parts t = .error ⟨.invalidPostfixExpression,t.span.start⟩ := by
  match parts with
  | [] | [_] => simp only [assemble,kind]
  | _ :: _ :: rest =>
    simp only [List.length_cons] at few
    omega

/-- Operators and numerals in range, with at most `maxDepth` operators, so the nesting limit
cannot be reached. -/
structure Plain (maxDepth : Nat) (ts : List Token) : Prop where
  known : ∀ t ∈ ts, t.kind = .additiveOperator ∨ t.kind = .number ∧ t.InRange
  enough : operatorCount ts ≤ maxDepth

theorem Plain.ahead (plain : Plain maxDepth (front ++ back)) : Plain maxDepth front where
  known t member := plain.known t (List.mem_append_left _ member)
  enough := by
    have enough := plain.enough
    rw [operatorCount_append] at enough
    omega

theorem Stacked.joinDepth_le {left right : Part} (stacked : Stacked maxDepth (right :: left :: parts) front)
    (kind : t.kind = .additiveOperator) (enough : operatorCount (front ++ [t]) ≤ maxDepth) :
    left.joinDepth right ≤ maxDepth := by
  cases stacked with
  | @push _ right _ rs below listedRight _ =>
    cases below with
    | @push _ left ts ls _ listedLeft _ =>
      rw [joinDepth_rightDepth t]
      have depth := (Tree.ListedAs.operation kind listedLeft listedRight).rightDepth_le
      refine depth.trans (Nat.le_trans ?_ enough)
      simp only [operatorCount_append]
      omega

/-- On plain tokens the only assembly error is a missing operand. -/
theorem Stacked.starved (stacked : Stacked maxDepth parts front) (plain : Plain maxDepth (front ++ t :: back))
    (failed : Postfix.assemble maxDepth parts t = .error e) : t.kind = .additiveOperator ∧ parts.length < 2 ∧
      e = ⟨.invalidPostfixExpression,t.span.start⟩ := by
  rcases plain.known t (by simp) with kind | ⟨kind,fits⟩
  · rcases Nat.lt_or_ge parts.length 2 with few | enough
    · rw [assemble_few kind few] at failed
      cases failed
      exact ⟨kind,few,rfl⟩
    · obtain _ | ⟨right,_ | ⟨left,below⟩⟩ := parts
      · simp at enough
      · simp at enough
      rw [List.append_cons] at plain
      have within := stacked.joinDepth_le kind plain.ahead.enough
      rw [assemble_operator kind,if_neg (Nat.not_lt.mpr within)] at failed
      cases failed
  · rw [assemble_number kind] at failed
    cases made : Tree.ofToken t with
    | ok tree => rw [made] at failed; cases failed
    | error f =>
      rcases Tree.ofToken_error.mp made with ⟨_,unfit,_⟩ | ⟨other,_⟩
      · exact absurd fits unfit
      · exact absurd kind other

theorem assembled_iff (plain : Plain maxDepth ts) :
    (∃ parts, ts.foldlM (assemble maxDepth) [] = .ok parts) ↔ EachSupplied ts := by
  constructor
  · rintro ⟨parts,assembled⟩ front o back rfl kind
    rw [List.foldlM_append,except_bind_ok] at assembled
    obtain ⟨middle,first,rest⟩ := assembled
    rw [List.foldlM_cons,except_bind_ok] at rest
    obtain ⟨next,stepped,_⟩ := rest
    have stacked : Stacked maxDepth middle front := Stacked.empty.foldlM_assemble first
    rw [stacked.surplus_eq]
    by_contra few
    rw [assemble_few kind (by omega)] at stepped
    cases stepped
  · intro supplied
    cases folded : ts.foldlM (assemble maxDepth) [] with
    | ok parts => exact ⟨parts,rfl⟩
    | error e =>
      obtain ⟨front,o,back,middle,rfl,first,refused⟩ := foldlM_error folded
      have stacked : Stacked maxDepth middle front := Stacked.empty.foldlM_assemble first
      obtain ⟨kind,few,_⟩ := stacked.starved plain refused
      have two := supplied front o back rfl kind
      rw [stacked.surplus_eq] at two
      omega

theorem foldlM_stretches (listed : List.Forall₂ Tree.ListedAs trees stretches)
    (enough : operatorCount stretches.flatten ≤ maxDepth) :
    stretches.flatten.foldlM (assemble maxDepth) parts =
      .ok ((trees.map fun tree => ⟨tree,tree.rightDepth⟩).reverse ++ parts) := by
  induction listed generalizing parts with
  | nil => rfl
  | @cons tree us trees stretches first _ ih =>
    rw [List.flatten_cons,operatorCount_append] at enough
    have depth := first.rightDepth_le
    have assembled : us.foldlM (assemble maxDepth) parts = _ := assemble_listed first (by omega)
    rw [List.flatten_cons,List.foldlM_append,assembled]
    change stretches.flatten.foldlM (assemble maxDepth) _ = _
    rw [ih (by omega)]
    simp

theorem single_of_order {first second : Part} {rest : List Part}
    (order : parts.reverse = first :: second :: rest) :
    single parts = .error ⟨.invalidPostfixExpression,second.tree.span.start⟩ := by
  unfold single
  split
  next => cases order
  next => rw [order]; rfl

theorem build_ok_iff (plain : Plain maxDepth ts) :
    (∃ tree, build maxDepth ts = .ok tree) ↔ EachSupplied ts ∧ surplus ts = 1 := by
  constructor
  · rintro ⟨tree,built⟩
    obtain ⟨parts,assembled,left⟩ := except_bind_ok.mp built
    have stacked : Stacked maxDepth parts ts := Stacked.empty.foldlM_assemble assembled
    obtain ⟨depth,rfl⟩ := single_ok.mp left
    exact ⟨(assembled_iff plain).mp ⟨_,assembled⟩,stacked.surplus_eq⟩
  · rintro ⟨supplied,one⟩
    obtain ⟨parts,assembled⟩ := (assembled_iff plain).mpr supplied
    have stacked : Stacked maxDepth parts ts := Stacked.empty.foldlM_assemble assembled
    rw [stacked.surplus_eq] at one
    obtain ⟨part,rfl⟩ := List.length_eq_one_iff.mp (by exact_mod_cast one)
    exact ⟨part.tree,by rw [build,assembled]; rfl⟩

theorem blamed_of_build (plain : Plain maxDepth ts) (failed : build maxDepth ts = .error e) :
    e.cause = .invalidPostfixExpression ∧ Blamed ts e.position := by
  rcases except_bind_error.mp failed with folded | ⟨parts,folded,left⟩
  · obtain ⟨front,o,back,middle,rfl,first,refused⟩ := foldlM_error folded
    have stacked : Stacked maxDepth middle front := Stacked.empty.foldlM_assemble first
    obtain ⟨kind,few,rfl⟩ := stacked.starved plain refused
    refine ⟨rfl,.operator rfl kind ?_ ((assembled_iff plain.ahead).mp ⟨middle,first⟩)⟩
    rw [stacked.surplus_eq]
    exact_mod_cast few
  · have stacked : Stacked maxDepth parts ts := Stacked.empty.foldlM_assemble folded
    rcases stacked.leftover left with ⟨none,rfl⟩ | ⟨_,_,_,_,t,_,_,split,listed,next,more,_,rfl⟩
    · exact ⟨rfl,.nothing none⟩
    · have supplied := (assembled_iff plain).mp ⟨parts,folded⟩
      exact ⟨rfl,.leftover supplied split listed next more⟩

theorem build_of_blamed {position : Nat} (plain : Plain maxDepth ts) (blamed : Blamed ts position) :
    build maxDepth ts = .error ⟨.invalidPostfixExpression,position⟩ := by
  cases blamed with
  | @operator front back o split kind few before =>
    subst split
    obtain ⟨middle,first⟩ := (assembled_iff plain.ahead).mpr before
    have stacked : Stacked maxDepth middle front := Stacked.empty.foldlM_assemble first
    rw [stacked.surplus_eq] at few
    have refused : assemble maxDepth middle o = _ := assemble_few kind (by exact_mod_cast few)
    rw [build,List.foldlM_append,first]
    change (assemble maxDepth middle o >>= _) >>= single = _
    rw [refused]
    rfl
  | @leftover first second others us vs t stretches _ split listed next more =>
    have flat : ts = (us :: (t :: vs) :: stretches).flatten := by simpa using split
    have enough : operatorCount (us :: (t :: vs) :: stretches).flatten ≤ maxDepth := flat ▸ plain.enough
    obtain ⟨u,_,same,_,start⟩ := next.first
    cases same
    rw [build,flat,foldlM_stretches (.cons listed (.cons next more)) enough,List.append_nil,← start]
    let part (tree : Tree) : Part := ⟨tree,tree.rightDepth⟩
    have order : ((first :: second :: others).map part).reverse.reverse =
        part first :: part second :: others.map part := List.reverse_reverse _
    exact single_of_order order
  | nothing none =>
    subst none
    rfl

/-- Operators and numerals in range assemble iff every operator is supplied and the final
surplus is one, provided the limit is at least the number of operators. Otherwise the error is
at the first operator without operands, at the second remaining tree, or at zero for the empty
list. -/
theorem operand_counts_decide (maxDepth : Nat) (ts : List Token)
    (known : ∀ t ∈ ts, t.kind = .additiveOperator ∨ t.kind = .number ∧ t.InRange)
    (enough : operatorCount ts ≤ maxDepth) :
    ((∃ tree, build maxDepth ts = .ok tree) ↔ EachSupplied ts ∧ surplus ts = 1) ∧
    ∀ e, build maxDepth ts = .error e ↔ e.cause = .invalidPostfixExpression ∧ Blamed ts e.position := by
  have plain : Plain maxDepth ts := ⟨known,enough⟩
  refine ⟨build_ok_iff plain,fun e => ⟨blamed_of_build plain,?_⟩⟩
  rintro ⟨cause,blamed⟩
  rw [build_of_blamed plain blamed,← cause]

theorem operand_counts_decide_leftover :
    let minus : Token := ⟨.additiveOperator,"-",⟨9,10⟩⟩
    let several : List Token := [⟨.number,"1",⟨0,1⟩⟩,⟨.number,"2",⟨2,3⟩⟩,⟨.number,"+3",⟨4,6⟩⟩,
      ⟨.additiveOperator,"+",⟨7,8⟩⟩]
    let starved := several ++ [minus] ++ [minus]
    ((∀ t ∈ starved, t.kind = .additiveOperator ∨ t.kind = .number ∧ t.InRange) ∧
      operatorCount starved ≤ 3) ∧
    Blamed starved 9 ∧ Blamed several 2 ∧ EachSupplied (several ++ [minus]) ∧
      surplus (several ++ [minus]) = 1 := by
  intro minus several starved
  have fits (text : String) (place : Span) (n : Int) (spelled : Value.integer? text = some n)
      (small : Value.least ≤ n ∧ n ≤ Value.greatest) : Token.InRange ⟨.number,text,place⟩ :=
    ⟨n,spelled,small⟩
  have known : ∀ t ∈ starved, t.kind = .additiveOperator ∨ t.kind = .number ∧ t.InRange := by
    refine List.forall_mem_cons.mpr ⟨.inr ⟨rfl,fits _ _ 1 ?_ ?_⟩,List.forall_mem_cons.mpr
      ⟨.inr ⟨rfl,fits _ _ 2 ?_ ?_⟩,List.forall_mem_cons.mpr ⟨.inr ⟨rfl,fits _ _ 3 ?_ ?_⟩,?_⟩⟩⟩
    case refine_7 => simp [minus]
    all_goals decide +kernel
  have wholeKnown := (List.forall_mem_append.mp known).1
  have severalKnown := (List.forall_mem_append.mp wholeKnown).1
  have failed : build 3 starved = .error ⟨.invalidPostfixExpression,9⟩ := by decide +kernel
  have refused : build 3 several = .error ⟨.invalidPostfixExpression,2⟩ := by decide +kernel
  have built : build 3 (several ++ [minus]) = .ok
      (.operation minus (.literal 1 ⟨0,1⟩) (.operation ⟨.additiveOperator,"+",⟨7,8⟩⟩ (.literal 2 ⟨2,3⟩)
        (.literal 3 ⟨4,6⟩) ⟨2,6⟩) ⟨0,6⟩) := by decide +kernel
  exact ⟨⟨known,by decide⟩,(((operand_counts_decide 3 starved known (by decide)).2 _).mp failed).2,
    (((operand_counts_decide 3 several severalKnown (by decide)).2 _).mp refused).2,
    (operand_counts_decide 3 _ wholeKnown (by decide)).1.mp ⟨_,built⟩⟩

end Reckoner.Postfix
