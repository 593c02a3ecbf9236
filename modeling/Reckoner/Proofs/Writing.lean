import Reckoner.Proofs.Blame
import Reckoner.Proofs.RoundTrip

/-! Rendered trees: infix with a group around each right operand that is an operation, and
reverse Polish. Both renderings nest to the right depth of the tree, so all strategies agree on
the nesting limit. -/
namespace Reckoner

theorem Text.ofDigits_toDigits (n : Nat) : ofDigits (Nat.toDigits 10 n) = n :=
  Nat.ofDigitChars_toDigits (by decide) (by decide)

theorem Text.isDigits_toDigits (n : Nat) : isDigits (Nat.toDigits 10 n) = true := by
  simp only [isDigits,Bool.and_eq_true,Bool.not_eq_true',List.isEmpty_eq_false_iff,List.all_eq_true]
  exact ⟨Nat.toDigits_ne_nil,fun c => Nat.isDigit_of_mem_toDigits (by decide) (by decide)⟩

/-- Digits with an optional minus sign are classified as a number. -/
theorem TokenKind.ofWord_of_digits {text : String} {digits : List Char} (numeral : Text.isDigits digits)
    (spelled : text.toList = digits ∨ text.toList = '-' :: digits) : ofWord? text = some .number := by
  have other {c : Char} (sign : c.isDigit = false) (more : List Char) : digits ≠ c :: more := by
    rintro rfl
    simp [Text.isDigits,sign] at numeral
  unfold ofWord?
  rcases spelled with spelled | spelled
  · rw [spelled]
    split
    next => exact absurd rfl (other (by decide) [])
    next => exact absurd rfl (other (by decide) [])
    next => exact absurd rfl (other (by decide) [])
    next => exact absurd rfl (other (by decide) [])
    next => exact absurd rfl (other (by decide) _)
    next => exact if_pos numeral
  · cases digits with
    | nil => cases numeral
    | cons c cs =>
      rw [spelled]
      exact if_pos numeral

namespace Value

theorem toString_digits (n : Int) : ∃ digits, Text.isDigits digits = true ∧
    ((toString n).toList = digits ∧ n = Text.ofDigits digits ∨
      (toString n).toList = '-' :: digits ∧ n = -(Text.ofDigits digits : Int)) := by
  cases n with
  | ofNat n =>
    refine ⟨Nat.toDigits 10 n,Text.isDigits_toDigits n,.inl ⟨?_,?_⟩⟩
    · exact String.toList_ofList
    · rw [Text.ofDigits_toDigits]
      rfl
  | negSucc n =>
    refine ⟨Nat.toDigits 10 (n + 1),Text.isDigits_toDigits _,.inr ⟨?_,?_⟩⟩
    · change ("-" ++ String.ofList (Nat.toDigits 10 (n + 1))).toList = _
      simp
    · rw [Text.ofDigits_toDigits]
      rfl

theorem ofWord_text (v : Value) : TokenKind.ofWord? v.text = some .number := by
  obtain ⟨digits,numeral,spelled⟩ := toString_digits v.toInt
  exact TokenKind.ofWord_of_digits numeral (spelled.imp And.left And.left)

theorem ofNumeral_text (v : Value) : ofNumeral? v.text = some v := by
  have spells : integer? v.text = some v.toInt := by
    obtain ⟨digits,numeral,spelled⟩ := toString_digits v.toInt
    unfold integer? text
    rcases spelled with ⟨spelled,value⟩ | ⟨spelled,value⟩
    · rw [spelled]
      split
      next => simp [Text.isDigits] at numeral
      next => simp [Text.isDigits] at numeral
      next => simp [natural?,numeral,value]
    · rw [spelled]
      simp [natural?,numeral,value]
  rw [ofNumeral_eq,spells]
  exact ofInt_eq_some.mpr rfl

end Value

namespace Tree

/-- A right operand is parenthesised iff it is an operation. -/
def infixWords : Tree → List String
  | literal v _ => [v.text]
  | operation o left right _ =>
    left.infixWords ++ o.text ::
      if right.isLiteral then right.infixWords else "(" :: (right.infixWords ++ [")"])

/-- Post-order. -/
def postfixWords : Tree → List String
  | literal v _ => [v.text]
  | operation o left right _ => left.postfixWords ++ right.postfixWords ++ [o.text]

def infixText (t : Tree) : String := " ".intercalate t.infixWords

def postfixText (t : Tree) : String := " ".intercalate t.postfixWords

/-- The rendering that the strategy reads. -/
def writtenFor (t : Tree) : Strategy → String
  | .recursiveDescent | .shuntingYard => t.infixText
  | .reversePolish => t.postfixText

end Tree

variable {source : String} {t left right : Tree} {u o : Token} {us vs : List Token} {texts : List String}

/-- The text is classified. -/
def Known (text : String) : Prop := ∃ kind, TokenKind.ofWord? text = some kind

theorem Token.Additive.ofWord {o : Token} (additive : o.Additive) :
    TokenKind.ofWord? o.text = some .additiveOperator := by
  obtain ⟨_,text | text⟩ := additive <;> rw [text] <;> decide

theorem Tree.infixWords_known (additive : t.Additive) : ∀ text ∈ t.infixWords, Known text := by
  induction t with
  | literal v => exact List.forall_mem_singleton.mpr ⟨_,v.ofWord_text⟩
  | operation o left right s ihl ihr =>
    obtain ⟨isOperator,hl,hr⟩ := additive
    refine List.forall_mem_append.mpr ⟨ihl hl,List.forall_mem_cons.mpr ⟨⟨_,isOperator.ofWord⟩,?_⟩⟩
    split
    · exact ihr hr
    · have opening : Known "(" := ⟨.openParen,by decide⟩
      have closing : Known ")" := ⟨.closeParen,by decide⟩
      exact List.forall_mem_cons.mpr
        ⟨opening,List.forall_mem_append.mpr ⟨ihr hr,List.forall_mem_singleton.mpr closing⟩⟩

theorem Tree.postfixWords_known (additive : t.Additive) : ∀ text ∈ t.postfixWords, Known text := by
  induction t with
  | literal v => exact List.forall_mem_singleton.mpr ⟨_,v.ofWord_text⟩
  | operation o left right s ihl ihr =>
    obtain ⟨isOperator,hl,hr⟩ := additive
    exact List.forall_mem_append.mpr ⟨List.forall_mem_append.mpr ⟨ihl hl,ihr hr⟩,
      List.forall_mem_singleton.mpr ⟨_,isOperator.ofWord⟩⟩

theorem tokens_of_known {ws : List Word} (known : ∀ w ∈ ws, Known w.text) :
    ∃ ts : List Token, ws.map Word.token = ts.map .ok :=
  exists_tokens_iff.mpr fun w member => Option.ne_none_iff_exists'.mpr (known w member)

theorem spells_of_known (known : ∀ text ∈ texts, Known text) :
    ∃ ts, Spells (" ".intercalate texts) ts ∧ ts.map Token.text = texts := by
  have joined : (words (" ".intercalate texts)).map Word.text = texts := by
    rw [words_intercalate fun text member => (known text member).elim fun _ => TokenKind.solid,
      Text.inRow_texts]
  have each : ∀ w ∈ words (" ".intercalate texts), Known w.text := fun w member =>
    known w.text (joined ▸ List.mem_map_of_mem member)
  obtain ⟨ts,spelled⟩ := tokens_of_known each
  exact ⟨ts,spelled,(Spells.texts spelled).symm.trans joined⟩

theorem Token.Spelled.kind_eq {kind : TokenKind} {text : String} (spelled : u.Spelled)
    (same : u.text = text) (known : TokenKind.ofWord? text = some kind) : u.kind = kind := by
  rw [Spelled,same,known] at spelled
  exact (Option.some.inj spelled).symm

/-- The derivation has these tokens and the tree up to spans, and nests to this depth. -/
structure Derivation.Writes {n : Nonterminal} (d : Derivation n) (t : Tree) (depth : Nat)
    (us : List Token) : Prop where
  tokens : d.tokens = us
  tree : ∃ tree, d.tree? = some tree ∧ tree.unplaced = t.unplaced
  nested : ∀ limit : Int, NestedWithin limit d.tokens ↔ depth ≤ limit

namespace Derivation.Writes

variable {n : Nonterminal} {inner leftSum : Derivation .sum} {operand : Derivation .primary} {depth leftDepth : Nat}

theorem number {v : Value} {s : Span} (word : TokenOf .number) (text : word.1.text = v.text) :
    (Derivation.number word).Writes (.literal v s) 0 [word.1] where
  tokens := rfl
  tree := by
    have read : Value.ofNumeral? word.1.text = some v := by rw [text,v.ofNumeral_text]
    rw [Value.ofNumeral_eq] at read
    exact ⟨.literal v word.1.span,by simp [tree?,read],rfl⟩
  nested limit := by
    rw [Derivation.tokens,nestedWithin_cons,openGroups_neutral (.inl word.2)]
    simp

theorem group (opening : TokenOf .openParen) (closing : TokenOf .closeParen)
    (writes : inner.Writes t depth us) : (Derivation.group opening inner closing).Writes t (depth + 1)
      (opening.1 :: (us ++ [closing.1])) where
  tokens := by rw [Derivation.tokens,writes.tokens]
  tree := writes.tree
  nested limit := by
    rw [nestedWithin_group,writes.nested]
    omega

theorem single (writes : operand.Writes t depth us) : (Derivation.single operand).Writes t depth us :=
  ⟨writes.tokens,writes.tree,writes.nested⟩

theorem chain (operator : TokenOf .additiveOperator) {s : Span} (first : leftSum.Writes left leftDepth us)
    (same : operator.1.unplaced = o.unplaced) (second : operand.Writes right depth vs) :
    (Derivation.chain leftSum operator operand).Writes (.operation o left right s) (max leftDepth depth)
      (us ++ operator.1 :: vs) where
  tokens := by rw [Derivation.tokens,first.tokens,second.tokens]
  tree := by
    obtain ⟨l,leftTree,alikeLeft⟩ := first.tree
    obtain ⟨r,rightTree,alikeRight⟩ := second.tree
    refine ⟨_,tree_chain.mpr ⟨l,r,leftTree,rightTree,rfl⟩,?_⟩
    rw [Tree.join,Tree.unplaced,Tree.unplaced,same,alikeLeft,alikeRight]
  nested limit := by
    rw [nestedWithin_chain,first.nested,second.nested]
    omega

end Derivation.Writes

namespace Tree

/-- Nested groups of a right operand, its own included. -/
def operandDepth (t : Tree) : Nat := if t.isLiteral then 0 else t.rightDepth + 1

theorem rightDepth_operation (o : Token) (left right : Tree) (s : Span) :
    (operation o left right s).rightDepth = max left.rightDepth right.operandDepth := by
  rw [rightDepth,operandDepth]
  split <;> simp

theorem exists_literal (literal : t.isLiteral = true) (spelled : ∀ u ∈ us, u.Spelled)
    (texts : us.map Token.text = t.infixWords) : ∃ d : Derivation .primary, d.Writes t 0 us := by
  cases t with
  | operation => cases literal
  | literal v s =>
    obtain ⟨u,_,rfl,text,none⟩ := List.map_eq_cons_iff.mp texts
    obtain rfl := List.map_eq_nil_iff.mp none
    have kind := (spelled u List.mem_cons_self).kind_eq text v.ofWord_text
    exact ⟨_,.number ⟨u,kind⟩ text⟩

theorem exists_operand (sum : ∀ us : List Token, (∀ u ∈ us, u.Spelled) →
      us.map Token.text = t.infixWords → ∃ d : Derivation .sum, d.Writes t t.rightDepth us)
    (spelled : ∀ u ∈ us, u.Spelled) (texts : us.map Token.text =
      if t.isLiteral then t.infixWords else "(" :: (t.infixWords ++ [")"])) :
    ∃ d : Derivation .primary, d.Writes t t.operandDepth us := by
  unfold operandDepth
  split at texts
  next literal =>
    rw [if_pos literal]
    exact exists_literal literal spelled texts
  next operation =>
    rw [if_neg operation]
    obtain ⟨opening,rest,rfl,openingText,more⟩ := List.map_eq_cons_iff.mp texts
    obtain ⟨inside,last,rfl,insideTexts,closingTexts⟩ := List.map_eq_append_iff.mp more
    obtain ⟨closing,_,rfl,closingText,none⟩ := List.map_eq_cons_iff.mp closingTexts
    obtain rfl := List.map_eq_nil_iff.mp none
    obtain ⟨opens,spelled⟩ := List.forall_mem_cons.mp spelled
    obtain ⟨spelledInside,closes⟩ := List.forall_mem_append.mp spelled
    obtain ⟨d,writes⟩ := sum inside spelledInside insideTexts
    have openingKind : opening.kind = .openParen := opens.kind_eq openingText (by decide)
    have closingKind : closing.kind = .closeParen :=
      (closes closing List.mem_cons_self).kind_eq closingText (by decide)
    exact ⟨_,writes.group ⟨opening,openingKind⟩ ⟨closing,closingKind⟩⟩

/-- The infix words of a tree have a derivation that nests to its right depth. -/
theorem exists_derivation (additive : t.Additive) (spelled : ∀ u ∈ us, u.Spelled)
    (texts : us.map Token.text = t.infixWords) : ∃ d : Derivation .sum, d.Writes t t.rightDepth us := by
  induction t generalizing us with
  | literal v s =>
    obtain ⟨d,writes⟩ := exists_literal rfl spelled texts
    exact ⟨_,writes.single⟩
  | operation o left right s ihl ihr =>
    obtain ⟨isOperator,hl,hr⟩ := additive
    obtain ⟨ls,rest,rfl,leftTexts,more⟩ := List.map_eq_append_iff.mp texts
    obtain ⟨p,rs,rfl,operatorText,rightTexts⟩ := List.map_eq_cons_iff.mp more
    obtain ⟨spelledLeft,spelled⟩ := List.forall_mem_append.mp spelled
    obtain ⟨spelledOperator,spelledRight⟩ := List.forall_mem_cons.mp spelled
    have kind := spelledOperator.kind_eq operatorText isOperator.ofWord
    have same : p.unplaced = o.unplaced := Token.unplaced_eq.mpr ⟨kind.trans isOperator.1.symm,operatorText⟩
    obtain ⟨l,writesLeft⟩ := ihl hl spelledLeft leftTexts
    obtain ⟨r,writesRight⟩ := exists_operand (fun _ => ihr hr) spelledRight rightTexts
    rw [rightDepth_operation]
    exact ⟨_,writesLeft.chain ⟨p,kind⟩ same writesRight⟩

theorem exists_listed (additive : t.Additive) (spelled : ∀ u ∈ us, u.Spelled)
    (texts : us.map Token.text = t.postfixWords) :
    ∃ tree : Tree, tree.ListedAs us ∧ tree.unplaced = t.unplaced := by
  induction t generalizing us with
  | literal v s =>
    obtain ⟨u,_,rfl,text,none⟩ := List.map_eq_cons_iff.mp texts
    obtain rfl := List.map_eq_nil_iff.mp none
    have kind := (spelled u List.mem_cons_self).kind_eq text v.ofWord_text
    exact ⟨.literal v u.span,.literal kind (by rw [text,v.ofNumeral_text]),rfl⟩
  | operation o left right s ihl ihr =>
    obtain ⟨isOperator,hl,hr⟩ := additive
    obtain ⟨operands,last,rfl,operandTexts,operatorTexts⟩ := List.map_eq_append_iff.mp texts
    obtain ⟨ls,rs,rfl,leftTexts,rightTexts⟩ := List.map_eq_append_iff.mp operandTexts
    obtain ⟨p,_,rfl,operatorText,none⟩ := List.map_eq_cons_iff.mp operatorTexts
    obtain rfl := List.map_eq_nil_iff.mp none
    obtain ⟨spelled,spelledOperator⟩ := List.forall_mem_append.mp spelled
    obtain ⟨spelledLeft,spelledRight⟩ := List.forall_mem_append.mp spelled
    obtain ⟨l,listedLeft,alikeLeft⟩ := ihl hl spelledLeft leftTexts
    obtain ⟨r,listedRight,alikeRight⟩ := ihr hr spelledRight rightTexts
    have kind := (spelledOperator p List.mem_cons_self).kind_eq operatorText isOperator.ofWord
    have same : p.unplaced = o.unplaced := Token.unplaced_eq.mpr ⟨kind.trans isOperator.1.symm,operatorText⟩
    refine ⟨_,.operation kind listedLeft listedRight,?_⟩
    rw [unplaced,unplaced,same,alikeLeft,alikeRight]

end Tree

namespace Draft

variable {limit higher stop : Nat} {draft : Draft} {sum : Derivation .sum} {items : List (Except Error Token)}
  {e : Error}

theorem Refusal.tooDeep (refusal : Refusal limit stop draft items e) (tokens : items = us.map .ok)
    (run : Run higher draft us (done sum [])) : e.cause = .nestingTooDeep limit := by
  cases run with
  | nil =>
    subst tokens
    cases refusal
  | cons step _ =>
    cases refusal with
    | operandMissing | groupOpen | word => cases tokens
    | full => rfl
    | operandDue due =>
      cases tokens
      cases step with
      | number kind | opening kind => rw [kind] at due; simp at due
    | operatorDue due =>
      cases tokens
      cases step with
      | operator kind | closing kind => rw [kind] at due; simp at due
    | unopened closes =>
      cases tokens
      cases step with
      | operator kind => cases kind.symm.trans closes

theorem Fault.tooDeep (fault : Fault limit stop draft items e) (tokens : items = us.map .ok)
    (run : Run higher draft us (done sum [])) (fits : ∀ u ∈ us, u.kind = .number → u.InRange) :
    e.cause = .nestingTooDeep limit := by
  cases run with
  | nil =>
    subst tokens
    cases fault
  | cons step _ =>
    cases fault with
    | operandMissing | groupOpen | word => cases tokens
    | wordInside =>
      obtain ⟨_,more⟩ := List.cons.inj tokens
      obtain ⟨_,_,_,impossible,_⟩ := List.map_eq_cons_iff.mp more.symm
      cases impossible
    | full => rfl
    | numeral kind unfit =>
      obtain ⟨same,_⟩ := List.cons.inj tokens
      cases same
      exact absurd (fits _ List.mem_cons_self kind) unfit
    | operandDue due =>
      cases tokens
      cases step with
      | number kind | opening kind => rw [kind] at due; simp at due
    | closingDue due =>
      cases tokens
      cases step with
      | operator kind | closing kind => rw [kind] at due; simp at due
    | leftover other =>
      cases tokens
      cases step with
      | operator kind => exact absurd kind other

theorem Run.goes_on {d : Derivation .sum} {ts : List Token} (run : Run limit .start ts draft)
    (split : d.tokens = ts ++ us) : ∃ higher, Run higher draft us (done d []) := by
  have nested : NestedWithin (max limit d.tokens.length : Nat) d.tokens :=
    (nestedWithin_length d.tokens).mono (by omega)
  have whole := run_done_iff.mpr ⟨rfl,nested⟩
  rw [split] at whole
  obtain ⟨middle,first,second⟩ := run_append.mp whole
  cases first.deterministic (run.mono (Nat.le_max_left _ _))
  exact ⟨_,second⟩

end Draft

theorem Postfix.assemble_deep {limit : Nat} {tree : Tree} {ts : List Token} (listed : tree.ListedAs ts)
    (deep : limit < tree.rightDepth) (parts : List Part) :
    ∃ e : Error, ts.foldlM (assemble limit) parts = .error e ∧ e.cause = .nestingTooDeep limit := by
  induction listed generalizing parts with
  | literal => cases deep
  | @operation o left right ls rs kind listedLeft listedRight ihl ihr =>
    rw [List.foldlM_append,List.foldlM_append]
    by_cases deepLeft : limit < left.rightDepth
    · obtain ⟨e,failed,cause⟩ := ihl deepLeft parts
      exact ⟨e,by rw [failed]; rfl,cause⟩
    rw [assemble_listed listedLeft (Nat.not_lt.mp deepLeft),ok_bind]
    by_cases deepRight : limit < right.rightDepth
    · obtain ⟨e,failed,cause⟩ := ihr deepRight _
      exact ⟨e,by rw [failed]; rfl,cause⟩
    change limit < (Tree.join o left right).rightDepth at deep
    rw [assemble_listed listedRight (Nat.not_lt.mp deepRight),ok_bind,List.foldlM_cons,
      assemble_operator kind,joinDepth_rightDepth o,if_pos deep]
    exact ⟨_,rfl,rfl⟩

theorem Postfix.build_deep {limit : Nat} {tree : Tree} {ts : List Token} (listed : tree.ListedAs ts)
    (deep : limit < tree.rightDepth) :
    ∃ e : Error, build limit ts = .error e ∧ e.cause = .nestingTooDeep limit := by
  obtain ⟨e,failed,cause⟩ := assemble_deep listed deep []
  exact ⟨e,by rw [build,failed]; rfl,cause⟩

namespace Strategy

variable {config : Config} {strategy : Strategy}

/-- A derivation beyond the limit fails with a nesting error only. -/
theorem infix_tooDeep {d : Derivation .sum} {tree : Tree} (rejecting : config.trailingInput = .reject)
    (known : strategy = recursiveDescent ∨ strategy = shuntingYard) (spelled : Spells source d.tokens)
    (trees : d.tree? = some tree) (deep : ¬NestedWithin config.maxDepth d.tokens) :
    ∃ e, (strategy.parse config).on source = .error e ∧ e.cause = .nestingTooDeep config.maxDepth := by
  have fits := d.tree_exists_iff.mp ⟨tree,trees⟩
  obtain ⟨e,failed⟩ : ∃ e, (recursiveDescent.parse config).on source = .error e := by
    cases parsed : (recursiveDescent.parse config).on source with
    | error e => exact ⟨e,rfl⟩
    | ok other =>
      obtain ⟨again,spelledAgain,nested,_⟩ := (recursiveDescent_ok rejecting).mp parsed
      rw [Derivation.tokens_injective (spelledAgain.unique spelled)] at nested
      exact absurd nested deep
  obtain ⟨ts,draft,rest,read,run,fault⟩ := Grammar.fault_of_parse failed
  obtain ⟨front,us,split,earlier,ahead⟩ := List.map_eq_append_iff.mp (spelled.symm.trans read)
  obtain rfl : front = ts := List.map_injective_iff.mpr (fun _ _ => Except.ok.inj) earlier
  obtain ⟨higher,whole⟩ := run.goes_on split
  have fitsLater : ∀ u ∈ us, u.kind = .number → u.InRange := fun u member =>
    fits u (split ▸ List.mem_append_right _ member)
  rcases known with rfl | rfl
  · exact ⟨e,failed,fault.tooDeep ahead.symm whole fitsLater⟩
  · obtain ⟨f,refusal⟩ := fault.refused fun u member => fitsLater u (by simpa [← ahead] using member)
    exact ⟨f,shuntingYard_error (Postfix.convert_of_refusal read run refusal),
      refusal.tooDeep ahead.symm whole⟩

/-- The outcome on a rendered tree is determined by its right depth. -/
theorem parse_written (t : Tree) (rejecting : config.trailingInput = .reject) (additive : t.Additive)
    (strategy : Strategy) :
    (t.rightDepth ≤ config.maxDepth ∧
      ∃ u, (strategy.parse config).on (t.writtenFor strategy) = .ok u ∧ u.unplaced = t.unplaced) ∨
    (config.maxDepth < t.rightDepth ∧ ∃ e, (strategy.parse config).on (t.writtenFor strategy) = .error e ∧
      e.cause = .nestingTooDeep config.maxDepth) := by
  have infixed {strategy : Strategy} (known : strategy = recursiveDescent ∨ strategy = shuntingYard) :
      (t.rightDepth ≤ config.maxDepth ∧
        ∃ u, (strategy.parse config).on t.infixText = .ok u ∧ u.unplaced = t.unplaced) ∨
      (config.maxDepth < t.rightDepth ∧ ∃ e, (strategy.parse config).on t.infixText = .error e ∧
        e.cause = .nestingTooDeep config.maxDepth) := by
    obtain ⟨us,spelled,texts⟩ := spells_of_known (Tree.infixWords_known additive)
    obtain ⟨d,writes⟩ := Tree.exists_derivation additive (fun u => spelled.word) texts
    obtain ⟨u,trees,alike⟩ := writes.tree
    rw [← writes.tokens] at spelled
    have nested : NestedWithin config.maxDepth d.tokens ↔ t.rightDepth ≤ config.maxDepth :=
      (writes.nested _).trans (by omega)
    by_cases within : t.rightDepth ≤ config.maxDepth
    · exact .inl ⟨within,u,parse_of_derivation known spelled (nested.mpr within) trees,alike⟩
    · exact .inr ⟨Nat.not_le.mp within,infix_tooDeep rejecting known spelled trees (mt nested.mp within)⟩
  cases strategy with
  | recursiveDescent => exact infixed (.inl rfl)
  | shuntingYard => exact infixed (.inr rfl)
  | reversePolish =>
    obtain ⟨us,spelled,texts⟩ := spells_of_known (Tree.postfixWords_known additive)
    obtain ⟨u,listed,alike⟩ := Tree.exists_listed additive (fun u => spelled.word) texts
    have depth : u.rightDepth = t.rightDepth := by
      rw [← u.rightDepth_unplaced,alike,t.rightDepth_unplaced]
    rw [show t.writtenFor reversePolish = " ".intercalate t.postfixWords from rfl,
      reversePolish_eq_build spelled,← depth]
    by_cases within : u.rightDepth ≤ config.maxDepth
    · exact .inl ⟨within,u,Postfix.build_listed listed within,alike⟩
    · exact .inr ⟨Nat.not_le.mp within,Postfix.build_deep listed (Nat.not_le.mp within)⟩

/-- Each strategy reads its rendering of an additive tree back, up to spans, iff the right depth
is within the limit, and fails with a nesting error otherwise. All strategies therefore succeed
on the same trees. -/
theorem depth_limits_agree (config : Config) (t : Tree) (rejecting : config.trailingInput = .reject)
    (additive : t.Additive) :
    ((∃ u, (recursiveDescent.parse config).on t.infixText = .ok u) ↔
      ∃ u, (reversePolish.parse config).on t.postfixText = .ok u) ∧
    ((∃ u, (recursiveDescent.parse config).on t.infixText = .ok u) ↔
      ∃ u, (shuntingYard.parse config).on t.infixText = .ok u) ∧
    ∀ strategy : Strategy,
      ((∃ u, (strategy.parse config).on (t.writtenFor strategy) = .ok u) ↔
        t.rightDepth ≤ config.maxDepth) ∧
      (∀ u, (strategy.parse config).on (t.writtenFor strategy) = .ok u → u.unplaced = t.unplaced) ∧
      ∀ e, (strategy.parse config).on (t.writtenFor strategy) = .error e →
        e.cause = .nestingTooDeep config.maxDepth := by
  have decided (strategy : Strategy) : (∃ u, (strategy.parse config).on (t.writtenFor strategy) = .ok u) ↔
      t.rightDepth ≤ config.maxDepth := by
    rcases parse_written t rejecting additive strategy with ⟨within,u,parsed,_⟩ | ⟨deep,e,failed,_⟩
    · exact iff_of_true ⟨u,parsed⟩ within
    · refine iff_of_false ?_ (Nat.not_le.mpr deep)
      rintro ⟨u,parsed⟩
      cases failed.symm.trans parsed
  refine ⟨(decided recursiveDescent).trans (decided reversePolish).symm,
    (decided recursiveDescent).trans (decided shuntingYard).symm,fun strategy => ⟨decided strategy,?_⟩⟩
  rcases parse_written t rejecting additive strategy with ⟨_,u,parsed,alike⟩ | ⟨_,e,failed,cause⟩
  · rw [parsed]
    refine ⟨?_,nofun⟩
    rintro _ ⟨⟩
    exact alike
  · rw [failed]
    refine ⟨nofun,?_⟩
    rintro _ ⟨⟩
    exact cause

theorem depth_limits_agree_two_groups :
    let t : Tree := .operation ⟨.additiveOperator,"-",⟨0,0⟩⟩ (.literal 1 ⟨0,0⟩)
      (.operation ⟨.additiveOperator,"+",⟨0,0⟩⟩ (.literal 2 ⟨0,0⟩)
        (.operation ⟨.additiveOperator,"-",⟨0,0⟩⟩ (.literal 3 ⟨0,0⟩) (.literal (-4) ⟨0,0⟩) ⟨0,0⟩) ⟨0,0⟩) ⟨0,0⟩
    t.infixText = "1 - ( 2 + ( 3 - -4 ) )" ∧ t.postfixText = "1 2 3 -4 - + -" ∧
    (∃ u, (recursiveDescent.parse ⟨2,.reject,.checked⟩).on t.infixText = .ok u ∧ u.unplaced = t) ∧
    (∃ u, (reversePolish.parse ⟨2,.reject,.checked⟩).on t.postfixText = .ok u) ∧
    ∃ e, (shuntingYard.parse ⟨1,.reject,.checked⟩).on t.infixText = .error e ∧
      e.cause = .nestingTooDeep 1 := by
  intro t
  have additive : t.Additive :=
    ⟨⟨rfl,.inr rfl⟩,trivial,⟨rfl,.inl rfl⟩,trivial,⟨rfl,.inr rfl⟩,trivial,trivial⟩
  have infixed : t.infixText = "1 - ( 2 + ( 3 - -4 ) )" := by decide +kernel
  obtain ⟨same,_,each⟩ := depth_limits_agree ⟨2,.reject,.checked⟩ t rfl additive
  obtain ⟨decided,alike,_⟩ := each recursiveDescent
  obtain ⟨u,parsed⟩ := decided.mpr (by decide)
  have failed : (shuntingYard.parse ⟨1,.reject,.checked⟩).on t.infixText =
      .error ⟨.nestingTooDeep 1,10⟩ := by rw [infixed]; decide +kernel
  obtain ⟨_,_,shallow⟩ := (depth_limits_agree ⟨1,.reject,.checked⟩ t rfl additive).2.2 shuntingYard
  exact ⟨infixed,by decide +kernel,⟨u,parsed,alike u parsed⟩,same.mp ⟨u,parsed⟩,_,failed,shallow _ failed⟩

end Strategy

end Reckoner
