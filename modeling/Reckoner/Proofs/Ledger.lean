import Reckoner.Proofs.Agreement
import Reckoner.Proofs.Evaluation

/-! One pass over the words with a stack of totals: for each open group its total so far and the
sign of its next operand. -/
namespace Reckoner

structure Tally where
  total : Int := 0
  sign : Int := 1
  deriving DecidableEq, Repr

def Tally.add (t : Tally) (n : Int) : Tally := ⟨t.total + t.sign * n,t.sign⟩

/-- Open groups, innermost first. The outermost entry is the text itself. -/
structure Ledger where
  group : Tally := {}
  outer : List Tally := []
  deriving DecidableEq, Repr

namespace Ledger

def enter (l : Ledger) (word : String) : Option Ledger :=
  if word = "+" then some ⟨⟨l.group.total,1⟩,l.outer⟩
  else if word = "-" then some ⟨⟨l.group.total,-1⟩,l.outer⟩
  else if word = "(" then some ⟨{},l.group :: l.outer⟩
  else if word = ")" then
    match l.outer with
    | [] => none
    | around :: outer => some ⟨around.add l.group.total,outer⟩
  else (Value.integer? word).map fun n => ⟨l.group.add n,l.outer⟩

def result (l : Ledger) : Int := (l.outer.getLastD l.group).total

def total? (source : String) : Option Int :=
  (((words source).map Word.text).foldlM enter {}).map result

end Ledger

namespace TokenKind

theorem ofWord_operator {text : String} (known : ofWord? text = some .additiveOperator) :
    text = "+" ∨ text = "-" := by
  unfold ofWord? at known
  split at known
  next spelled => exact .inl (String.toList_inj.mp spelled)
  next spelled => exact .inr (String.toList_inj.mp spelled)
  all_goals first | cases known | (split at known <;> cases known)

theorem ofWord_opening {text : String} (known : ofWord? text = some .openParen) : text = "(" := by
  unfold ofWord? at known
  split at known
  next => cases known
  next => cases known
  next spelled => exact String.toList_inj.mp spelled
  all_goals first | cases known | (split at known <;> cases known)

theorem ofWord_closing {text : String} (known : ofWord? text = some .closeParen) : text = ")" := by
  unfold ofWord? at known
  split at known
  next => cases known
  next => cases known
  next => cases known
  next spelled => exact String.toList_inj.mp spelled
  all_goals (split at known <;> cases known)

end TokenKind

/-- The token has the kind its text is classified as. -/
def Token.Spelled (t : Token) : Prop := TokenKind.ofWord? t.text = some t.kind

theorem Token.Spelled.additive {t : Token} (spelled : t.Spelled) (kind : t.kind = .additiveOperator) :
    t.Additive :=
  ⟨kind,TokenKind.ofWord_operator (kind ▸ spelled)⟩

theorem Token.Spelled.opening {t : Token} (spelled : t.Spelled) (kind : t.kind = .openParen) :
    t.text = "(" :=
  TokenKind.ofWord_opening (kind ▸ spelled)

theorem Token.Spelled.closing {t : Token} (spelled : t.Spelled) (kind : t.kind = .closeParen) :
    t.text = ")" :=
  TokenKind.ofWord_closing (kind ▸ spelled)

namespace Ledger

theorem enter_operator {t : Token} (operator : t.Additive) (l : Ledger) :
    l.enter t.text = some ⟨⟨l.group.total,t.sign⟩,l.outer⟩ := by
  obtain ⟨_,text | text⟩ := operator
  · simp [enter,Token.sign,text]
  · simp [enter,Token.sign,text]

theorem enter_number {t : Token} (spelled : t.Spelled) (kind : t.kind = .number) (l : Ledger) :
    l.enter t.text = (Value.integer? t.text).map fun n => ⟨l.group.add n,l.outer⟩ := by
  have other {text : String} (known : TokenKind.ofWord? text ≠ some .number) : t.text ≠ text := by
    intro same
    rw [Token.Spelled,kind,same] at spelled
    exact known spelled
  rw [enter,if_neg (other (by decide)),if_neg (other (by decide)),if_neg (other (by decide)),
    if_neg (other (by decide))]

end Ledger

namespace Derivation

variable {n : Nonterminal} {tree : Tree}

theorem tree_additive {d : Derivation n} (spelled : ∀ t ∈ d.tokens, t.Spelled)
    (trees : d.tree? = some tree) : tree.Additive := by
  induction d generalizing tree with
  | number word =>
    obtain ⟨v,_,rfl⟩ := Option.map_eq_some_iff.mp trees
    exact trivial
  | group opening inner closing ih => exact ih (forall_tokens_group.mp spelled).2.1 trees
  | single operand ih => exact ih spelled trees
  | chain left operator right ihl ihr =>
    obtain ⟨l,r,hl,hr,rfl⟩ := tree_chain.mp trees
    obtain ⟨before,joins,behind⟩ := forall_tokens_chain.mp spelled
    exact ⟨joins.additive operator.2,ihl before hl,ihr behind hr⟩

/-- A derivation enters as a single operand with the value of its tree. The pending sign is
preserved over a primary, and is the last sign of a sum. -/
theorem enter_tokens {d : Derivation n} (spelled : ∀ t ∈ d.tokens, t.Spelled)
    (trees : d.tree? = some tree) (l : Ledger) (fresh : n = .sum → l.group.sign = 1) :
    ∃ sign, (n = .primary → sign = l.group.sign) ∧
      (d.tokens.map Token.text).foldlM Ledger.enter l =
        some ⟨⟨l.group.total + l.group.sign * tree.exact,sign⟩,l.outer⟩ := by
  induction d generalizing tree l with
  | number word =>
    obtain ⟨v,read,rfl⟩ := Option.map_eq_some_iff.mp trees
    obtain ⟨integer,spells,fits⟩ := Option.bind_eq_some_iff.mp read
    have entered := Ledger.enter_number (spelled word.1 (by simp [tokens])) word.2 l
    rw [spells,← Value.ofInt_eq_some.mp fits] at entered
    refine ⟨l.group.sign,fun _ => rfl,?_⟩
    rw [tokens,List.map_singleton,List.foldlM_cons,entered]
    rfl
  | group opening inner closing ih =>
    obtain ⟨opens,inside,closes⟩ := forall_tokens_group.mp spelled
    obtain ⟨sign,_,entered⟩ := ih inside trees ⟨{},l.group :: l.outer⟩ fun _ => rfl
    refine ⟨l.group.sign,fun _ => rfl,?_⟩
    rw [tokens,List.map_cons,List.map_append,List.foldlM_cons,opens.opening opening.2]
    change (List.foldlM Ledger.enter ⟨{},l.group :: l.outer⟩ _) = _
    rw [List.foldlM_append,entered,List.map_singleton,closes.closing closing.2]
    simp [Ledger.enter,Tally.add]
  | single operand ih =>
    obtain ⟨sign,_,entered⟩ := ih spelled trees l (by simp)
    exact ⟨sign,by simp,entered⟩
  | chain left operator right ihl ihr =>
    obtain ⟨a,b,hl,hr,rfl⟩ := tree_chain.mp trees
    obtain ⟨before,joins,behind⟩ := forall_tokens_chain.mp spelled
    obtain ⟨pending,_,enteredLeft⟩ := ihl before hl l fresh
    have enteredOperator := Ledger.enter_operator (joins.additive operator.2)
      ⟨⟨l.group.total + l.group.sign * a.exact,pending⟩,l.outer⟩
    obtain ⟨last,_,enteredRight⟩ := ihr behind hr
      ⟨⟨l.group.total + l.group.sign * a.exact,operator.1.sign⟩,l.outer⟩ (by simp)
    refine ⟨last,by simp,?_⟩
    rw [tokens,List.map_append,List.map_cons,List.foldlM_append,enteredLeft,Option.bind_eq_bind,
      Option.bind_some,List.foldlM_cons,enteredOperator,Option.bind_eq_bind,Option.bind_some,
      enteredRight,Tree.join,Tree.exact,fresh rfl]
    simp only [Int.one_mul,Int.add_assoc]

end Derivation

theorem Ledger.total_of_derivation {source : String} {d : Derivation .sum} {tree : Tree}
    (spells : Spells source d.tokens) (trees : d.tree? = some tree) :
    Ledger.total? source = some tree.exact := by
  have texts : (words source).map Word.text = d.tokens.map Token.text := spells.texts
  obtain ⟨sign,_,entered⟩ := Derivation.enter_tokens (fun t => spells.word) trees {} fun _ => rfl
  rw [total?,texts,entered]
  simp [result]

/-- On accepted infix text, calculation agrees with the ledger: wrapping gives its total modulo
2⁶⁴, checked gives the total or an overflow. -/
theorem Calculator.calculate_reckons_total (c : Calculator) (source : String) (tree : Tree)
    (known : c.strategy = .recursiveDescent ∨ c.strategy = .shuntingYard)
    (accepted : (Grammar.parse { c.config with trailingInput := .reject }).on source = .ok tree) :
    ∃ total, Ledger.total? source = some total ∧
      (c.config.overflow = .wrapping →
        ∃ v, c.calculate source = .ok v ∧ v.toInt = total.bmod Int64.size) ∧
      (c.config.overflow = .checked →
        (∃ v, c.calculate source = .ok v ∧ v.toInt = total) ∨
          ∃ left operator right position,
            c.calculate source = .error ⟨.overflow left operator right,position⟩) := by
  obtain ⟨d,spelled,nested,trees⟩ := Grammar.derivation_of_parse rfl accepted
  have additive := Derivation.tree_additive (fun t => spelled.word) trees
  have calculates : c.calculate source = tree.reduce c.config.overflow := by
    have parses : c.parse source = .ok tree :=
      Strategy.parse_of_derivation known spelled nested trees
    rw [Calculator.calculate,parses,ok_bind,Tree.evaluate_eq_reduce]
  refine ⟨tree.exact,Ledger.total_of_derivation spelled trees,fun wrapping => ?_,fun checked => ?_⟩
  · rw [calculates,wrapping]
    exact ⟨_,Tree.reduce_wrapping additive,Value.toInt_wrap _⟩
  · rw [calculates,checked]
    exact Tree.reduce_checked additive

theorem Calculator.calculate_reckons_total_below_least :
    (∃ total, Ledger.total? "-9223372036854775808 - 1" = some total ∧
      ∃ v, (Calculator.mk .shuntingYard ⟨256,.reject,.wrapping⟩).calculate
        "-9223372036854775808 - 1" = .ok v ∧ v.toInt = total.bmod Int64.size) ∧
    ∃ total, Ledger.total? "-9223372036854775808 - 1" = some total ∧
      ((∃ v, (Calculator.mk .recursiveDescent {}).calculate "-9223372036854775808 - 1" = .ok v ∧
        v.toInt = total) ∨
        ∃ left operator right position, (Calculator.mk .recursiveDescent {}).calculate
          "-9223372036854775808 - 1" = .error ⟨.overflow left operator right,position⟩) := by
  let tree : Tree := .operation ⟨.additiveOperator,"-",⟨21,22⟩⟩
    (.literal (-9223372036854775808) ⟨0,20⟩) (.literal 1 ⟨23,24⟩) ⟨0,24⟩
  have accepted : (Grammar.parse {}).on "-9223372036854775808 - 1" = .ok tree := by decide +kernel
  obtain ⟨a,totalWrapping,wrapped,_⟩ := calculate_reckons_total
    ⟨.shuntingYard,⟨256,.reject,.wrapping⟩⟩ "-9223372036854775808 - 1" tree (.inr rfl) accepted
  obtain ⟨b,totalChecked,_,checked⟩ := calculate_reckons_total
    ⟨.recursiveDescent,{}⟩ "-9223372036854775808 - 1" tree (.inl rfl) accepted
  exact ⟨⟨a,totalWrapping,wrapped rfl⟩,b,totalChecked,checked rfl⟩

end Reckoner
