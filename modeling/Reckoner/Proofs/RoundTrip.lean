import Reckoner.Proofs.Rendering

/-! Infix text to reverse Polish text and back. The second text has the words of the first
without parentheses, so the trees are equal up to spans. -/
namespace Reckoner

namespace Tree

/-- The tree with all spans erased. -/
def unplaced : Tree → Tree
  | literal v _ => .literal v ⟨0,0⟩
  | operation o left right _ => .operation o.unplaced left.unplaced right.unplaced ⟨0,0⟩

@[simp] theorem isLiteral_unplaced (t : Tree) : t.unplaced.isLiteral = t.isLiteral := by
  cases t <;> rfl

@[simp] theorem rightDepth_unplaced (t : Tree) : t.unplaced.rightDepth = t.rightDepth := by
  induction t with
  | literal => rfl
  | operation o left right s ihl ihr => simp only [unplaced,rightDepth,isLiteral_unplaced,ihl,ihr]

theorem ListedAs.moved {tree : Tree} {ts us : List Token} (listed : tree.ListedAs ts)
    (same : us.map Token.unplaced = ts.map Token.unplaced) :
    ∃ other : Tree, other.ListedAs us ∧ other.unplaced = tree.unplaced := by
  induction listed generalizing us with
  | @literal t v kind value =>
    obtain ⟨u,_,rfl,form,none⟩ := List.map_eq_cons_iff.mp same
    obtain rfl := List.map_eq_nil_iff.mp none
    obtain ⟨sameKind,sameText⟩ := Token.unplaced_eq.mp form
    exact ⟨.literal v u.span,.literal (sameKind.trans kind) (by rw [sameText,value]),rfl⟩
  | @operation o left right ls rs kind _ _ ihl ihr =>
    simp only [List.map_append,List.map_cons,List.map_nil] at same
    obtain ⟨_,_,rfl,operands,operator⟩ := List.map_eq_append_iff.mp same
    obtain ⟨ls',rs',rfl,sameLeft,sameRight⟩ := List.map_eq_append_iff.mp operands
    obtain ⟨p,_,rfl,form,none⟩ := List.map_eq_cons_iff.mp operator
    obtain rfl := List.map_eq_nil_iff.mp none
    obtain ⟨l,listedLeft,alikeLeft⟩ := ihl sameLeft
    obtain ⟨r,listedRight,alikeRight⟩ := ihr sameRight
    refine ⟨_,.operation ((Token.unplaced_eq.mp form).1.trans kind) listedLeft listedRight,?_⟩
    rw [unplaced,unplaced,form,alikeLeft,alikeRight]

end Tree

/-- Equality up to error positions is a congruence for bind. -/
theorem mapError_bind {ε ε' α β : Type} {cause : ε → ε'} {x y : Except ε α} {f g : α → Except ε β}
    (first : x.mapError cause = y.mapError cause)
    (after : ∀ a, (f a).mapError cause = (g a).mapError cause) :
    (x >>= f).mapError cause = (y >>= g).mapError cause := by
  cases x with
  | error d =>
    cases y with
    | error e => exact congrArg Except.error (Except.error.inj first)
    | ok b => cases first
  | ok a =>
    cases y with
    | error e => cases first
    | ok b =>
      cases first
      exact after a

theorem OverflowPolicy.apply_unplaced (policy : OverflowPolicy) (o : Token) (l r : Value) :
    (policy.apply o.unplaced l r).mapError Error.cause = (policy.apply o l r).mapError Error.cause := by
  have same : o.unplaced.combine? l.toInt r.toInt = o.combine? l.toInt r.toInt := rfl
  simp only [apply,same]
  cases o.combine? l.toInt r.toInt with
  | none => rfl
  | some n =>
    dsimp only
    cases policy.store? n <;> rfl

theorem OverflowPolicy.apply_additive {o : Token} (additive : o.Additive) (policy : OverflowPolicy)
    (l r : Value) : (∃ v, policy.apply o l r = .ok v) ∨
      policy.apply o l r = .error ⟨.overflow l o.text r,o.span.start⟩ := by
  simp only [apply,additive.combine]
  cases policy.store? (l.toInt + o.sign * r.toInt) with
  | none => exact .inr rfl
  | some v => exact .inl ⟨v,rfl⟩

namespace Tree

theorem reduce_unplaced (t : Tree) (policy : OverflowPolicy) :
    (t.unplaced.reduce policy).mapError Error.cause = (t.reduce policy).mapError Error.cause := by
  induction t with
  | literal => rfl
  | operation o left right s ihl ihr =>
    rw [unplaced,reduce,reduce]
    refine mapError_bind ihl fun l => mapError_bind ihr fun r => ?_
    exact policy.apply_unplaced o l r

/-- Under every policy an additive tree has a value or an overflow. -/
theorem reduce_additive {t : Tree} (additive : t.Additive) (policy : OverflowPolicy) :
    (∃ v, t.reduce policy = .ok v) ∨ ∃ left operator right position,
      t.reduce policy = .error ⟨.overflow left operator right,position⟩ := by
  induction t with
  | literal v => exact .inl ⟨v,rfl⟩
  | operation o left right s ihl ihr =>
    obtain ⟨isOperator,hl,hr⟩ := additive
    rw [reduce]
    rcases ihl hl with ⟨l,reduced⟩ | ⟨a,p,b,position,failed⟩
    · rw [reduced,ok_bind]
      rcases ihr hr with ⟨r,reduced⟩ | ⟨a,p,b,position,failed⟩
      · rw [reduced,ok_bind]
        rcases policy.apply_additive isOperator l r with success | failed
        · exact .inl success
        · exact .inr ⟨l,o.text,r,o.span.start,failed⟩
      · exact .inr ⟨a,p,b,position,by rw [failed]; rfl⟩
    · exact .inr ⟨a,p,b,position,by rw [failed]; rfl⟩

/-- Trees equal up to spans have the same value, or overflow at the same operator and operands. -/
theorem reduce_alike {t u : Tree} (alike : u.unplaced = t.unplaced) (additive : t.Additive)
    (policy : OverflowPolicy) : (∃ v, u.reduce policy = .ok v ∧ t.reduce policy = .ok v) ∨
      ∃ left operator right position place,
        u.reduce policy = .error ⟨.overflow left operator right,position⟩ ∧
        t.reduce policy = .error ⟨.overflow left operator right,place⟩ := by
  have same := u.reduce_unplaced policy
  rw [alike,reduce_unplaced] at same
  rcases reduce_additive additive policy with ⟨v,reduced⟩ | ⟨left,operator,right,place,failed⟩
  · rw [reduced] at same
    cases found : u.reduce policy with
    | error e => rw [found] at same; cases same
    | ok w =>
      rw [found] at same
      cases same
      exact .inl ⟨v,rfl,reduced⟩
  · rw [failed] at same
    cases found : u.reduce policy with
    | ok w => rw [found] at same; cases same
    | error e =>
      rw [found] at same
      have cause : .overflow left operator right = e.cause := Except.error.inj same
      exact .inr ⟨left,operator,right,e.position,place,by rw [cause],failed⟩

end Tree

theorem Calculator.calculate_of_parse {c : Calculator} {source : String} {tree : Tree}
    (parsed : (c.strategy.parse c.config).on source = .ok tree) :
    c.calculate source = tree.reduce c.config.overflow := by
  rw [calculate,parse,parsed,ok_bind,Tree.evaluate_eq_reduce]

namespace Strategy

theorem reversePolish_eq_build {config : Config} {source : String} {ts : List Token}
    (spelled : Spells source ts) :
    (reversePolish.parse config).on source = Postfix.build config.maxDepth ts := by
  obtain ⟨l,read⟩ := on_ok.mp (tokenize_ok.mpr (spelled : Spells source ts.toArray.toList))
  cases built : Postfix.build config.maxDepth ts with
  | ok tree =>
    simp only [parse,on_ok,work_bind_ok,ofExcept_ok]
    exact ⟨l,_,l,read,built,rfl⟩
  | error e =>
    refine on_error.mpr ⟨l,work_bind_error.mpr (.inr ⟨_,l,read,?_⟩)⟩
    exact ofExcept_error.mpr ⟨built,rfl⟩

theorem reversePolish_of_derivation {config : Config} {source : String} {d : Derivation .sum} {tree : Tree}
    (spelled : Spells source d.tokens) (nested : NestedWithin config.maxDepth d.tokens)
    (trees : d.tree? = some tree) : ∃ again,
      (reversePolish.parse config).on (Postfix.render d.listing) = .ok again ∧
        again.unplaced = tree.unplaced := by
  have listedWords : ∀ t ∈ d.listing, t.Spelled := fun t member =>
    spelled.word (List.mem_filter.mp (d.listing_perm.mem_iff.mp member)).1
  obtain ⟨us,readBack,moved⟩ := tokens_of_texts listedWords (texts_render listedWords)
  obtain ⟨again,listed,alike⟩ := (d.listedAs trees).moved moved
  -- Places have no part in how far a tree leans, so the limit holds for the second tree too.
  have depth : again.rightDepth = tree.rightDepth := by
    rw [← again.rightDepth_unplaced,alike,tree.rightDepth_unplaced]
  have within : again.rightDepth ≤ config.maxDepth := by
    have := (d.rightDepth_le nested trees).1
    omega
  exact ⟨again,(reversePolish_eq_build readBack).trans (Postfix.build_listed listed within),alike⟩

/-- The rendered conversion of an accepted infix text parses in reverse Polish to a tree equal
up to spans. Under every policy both evaluate to the same value or to an overflow with the same
operands. -/
theorem infix_survives_reverse_polish (config : Config) (source : String) (tree : Tree)
    (parsed : (shuntingYard.parse config).on source = .ok tree) :
    ∃ output, (Postfix.convert config.maxDepth).on source = .ok output ∧
      ∃ again, (reversePolish.parse config).on (Postfix.render output.toList) = .ok again ∧
        again.unplaced = tree.unplaced ∧
        ∀ strategy, strategy = recursiveDescent ∨ strategy = shuntingYard →
          ∀ policy, let settings := { config with overflow := policy }
            let rendered := (Calculator.mk reversePolish settings).calculate (Postfix.render output.toList)
            let original := (Calculator.mk strategy settings).calculate source
            (∃ v, rendered = .ok v ∧ original = .ok v) ∨ ∃ left operator right position place,
              rendered = .error ⟨.overflow left operator right,position⟩ ∧
              original = .error ⟨.overflow left operator right,place⟩ := by
  obtain ⟨d,spelled,nested,trees⟩ := shuntingYard_ok.mp parsed
  obtain ⟨again,readBack,alike⟩ := reversePolish_of_derivation spelled nested trees
  refine ⟨_,Postfix.convert_ok.mpr ⟨d,spelled,nested,List.toList_toArray⟩,again,readBack,alike,?_⟩
  intro strategy known policy settings rendered original
  have first : (strategy.parse config).on source = .ok tree :=
    parse_of_derivation known spelled nested trees
  have originalValue : original = tree.reduce policy := Calculator.calculate_of_parse first
  have renderedValue : rendered = again.reduce policy := Calculator.calculate_of_parse readBack
  rw [originalValue,renderedValue]
  exact Tree.reduce_alike alike (d.tree_additive (fun t => spelled.word) trees) policy

theorem infix_survives_reverse_polish_overflow :
    let source := "-9223372036854775808 - ( 007 - -2 )"
    let tree : Tree := .operation ⟨.additiveOperator,"-",⟨21,22⟩⟩ (.literal (-9223372036854775808) ⟨0,20⟩)
      (.operation ⟨.additiveOperator,"-",⟨29,30⟩⟩ (.literal 7 ⟨25,28⟩) (.literal (-2) ⟨31,33⟩) ⟨25,33⟩)
      ⟨0,33⟩
    (shuntingYard.parse ⟨1,.ignore,.wrapping⟩).on source = .ok tree ∧
      ∃ output, (Postfix.convert 1).on source = .ok output ∧
        ∃ again, (reversePolish.parse ⟨1,.ignore,.wrapping⟩).on (Postfix.render output.toList) = .ok again ∧
          again.unplaced = tree.unplaced ∧ ∃ left operator right position place,
            (Calculator.mk reversePolish ⟨1,.ignore,.checked⟩).calculate
              (Postfix.render output.toList) = .error ⟨.overflow left operator right,position⟩ ∧
            (Calculator.mk recursiveDescent ⟨1,.ignore,.checked⟩).calculate source =
              .error ⟨.overflow left operator right,place⟩ := by
  intro source tree
  have parsed : (shuntingYard.parse ⟨1,.ignore,.wrapping⟩).on source = .ok tree := by decide +kernel
  obtain ⟨output,converted,again,readBack,alike,calculates⟩ :=
    infix_survives_reverse_polish ⟨1,.ignore,.wrapping⟩ source tree parsed
  refine ⟨parsed,output,converted,again,readBack,alike,?_⟩
  refine (calculates recursiveDescent (.inl rfl) .checked).resolve_left ?_
  rintro ⟨v,_,calculated⟩
  have first : (recursiveDescent.parse ⟨1,.ignore,.checked⟩).on source = .ok tree := by decide +kernel
  have failed : tree.reduce .checked = .error ⟨.overflow (-9223372036854775808) "-" 9,21⟩ := by
    decide +kernel
  exact nomatch calculated.symm.trans ((Calculator.calculate_of_parse first).trans failed)

end Strategy

end Reckoner
