import Reckoner.Proofs.Derivation

/-! Partial derivations. A draft records the complete sums to the left of each open group and
the position inside the innermost one. Each token extends it in at most one way, so a token
sequence has at most one derivation. -/
namespace Reckoner

/-- A position in a sum that requires an operand. -/
inductive Gap where
  | first
  | after (left : Derivation .sum) (operator : TokenOf .additiveOperator)

namespace Gap

def tokens : Gap → List Token
  | first => []
  | after left operator => left.tokens ++ [operator.1]

def fill : Gap → Derivation .primary → Derivation .sum
  | first, operand => .single operand
  | after left operator, operand => .chain left operator operand

@[simp] theorem tokens_fill (gap : Gap) (operand : Derivation .primary) :
    (gap.fill operand).tokens = gap.tokens ++ operand.tokens := by
  cases gap <;> simp [fill,tokens,Derivation.tokens]

@[simp] theorem openGroups_tokens (gap : Gap) : openGroups gap.tokens = 0 := by
  cases gap with
  | first => rfl
  | after left operator => simp [tokens,openGroups_neutral (.inr operator.2)]

end Gap

/-- An unclosed group, with the gap it will fill. -/
structure OpenGroup where
  gap : Gap
  opening : TokenOf .openParen

/-- Tokens up to the innermost parenthesis; the innermost group is the head of the list. -/
def OpenGroup.tokens : List OpenGroup → List Token
  | [] => []
  | group :: outer => tokens outer ++ group.gap.tokens ++ [group.opening.1]

theorem OpenGroup.openGroups_tokens (outer : List OpenGroup) :
    openGroups (tokens outer) = outer.length := by
  induction outer with
  | nil => rfl
  | cons group outer ih => simp [tokens,ih,openGroups_opening group.opening.2]

/-- Open groups, innermost first, with either a gap or a complete sum in the current group. -/
inductive Draft where
  | due (gap : Gap) (outer : List OpenGroup)
  | done (sum : Derivation .sum) (outer : List OpenGroup)

namespace Draft

def start : Draft := due .first []

def groups : Draft → List OpenGroup
  | due _ outer => outer
  | done _ outer => outer

def tokens : Draft → List Token
  | due gap outer => OpenGroup.tokens outer ++ gap.tokens
  | done sum outer => OpenGroup.tokens outer ++ sum.tokens

theorem openGroups_tokens (draft : Draft) : openGroups draft.tokens = draft.groups.length := by
  cases draft <;> simp [tokens,groups,OpenGroup.openGroups_tokens]

/-- One token, with at most `limit` groups open afterwards. -/
inductive Step (limit : Nat) : Draft → Token → Draft → Prop where
  | number (h : t.kind = .number) :
      Step limit (due gap outer) t (done (gap.fill (.number ⟨t,h⟩)) outer)
  | operator (h : t.kind = .additiveOperator) :
      Step limit (done sum outer) t (due (.after sum ⟨t,h⟩) outer)
  | opening (h : t.kind = .openParen) (room : outer.length < limit) :
      Step limit (due gap outer) t (due .first (⟨gap,⟨t,h⟩⟩ :: outer))
  | closing (h : t.kind = .closeParen) :
      Step limit (done sum (group :: outer)) t
        (done (group.gap.fill (.group group.opening sum ⟨t,h⟩)) outer)

inductive Run (limit : Nat) : Draft → List Token → Draft → Prop where
  | nil : Run limit draft [] draft
  | cons : Step limit draft t middle → Run limit middle ts final → Run limit draft (t :: ts) final

variable {limit : Nat} {draft middle final : Draft}

theorem Step.tokens_eq (step : Step limit draft t final) : final.tokens = draft.tokens ++ [t] := by
  cases step <;> simp [tokens,Gap.tokens,OpenGroup.tokens,Derivation.tokens]

theorem Step.groups_le (step : Step limit draft t final) (within : draft.groups.length ≤ limit) :
    final.groups.length ≤ limit := by
  cases step <;> simp only [groups,List.length_cons] at within ⊢ <;> omega

theorem Step.deterministic {other : Draft} (step : Step limit draft t final)
    (again : Step limit draft t other) : final = other := by
  cases step with
  | number h =>
    cases again with
    | number => rfl
    | opening h' => cases h.symm.trans h'
  | operator h =>
    cases again with
    | operator => rfl
    | closing h' => cases h.symm.trans h'
  | opening h =>
    cases again with
    | number h' => cases h.symm.trans h'
    | opening => rfl
  | closing h =>
    cases again with
    | operator h' => cases h.symm.trans h'
    | closing => rfl

theorem Step.mono {higher : Nat} (step : Step limit draft t final) (le : limit ≤ higher) :
    Step higher draft t final := by
  cases step with
  | number h => exact .number h
  | operator h => exact .operator h
  | opening h room => exact .opening h (Nat.lt_of_lt_of_le room le)
  | closing h => exact .closing h

theorem Run.single (step : Step limit draft t final) : Run limit draft [t] final :=
  .cons step .nil

theorem Run.append (first : Run limit draft ts middle) (second : Run limit middle us final) :
    Run limit draft (ts ++ us) final := by
  induction first with
  | nil => exact second
  | cons step _ ih => exact .cons step (ih second)

theorem run_append {ts us : List Token} : Run limit draft (ts ++ us) final ↔
    ∃ middle, Run limit draft ts middle ∧ Run limit middle us final := by
  constructor
  · intro run
    induction ts generalizing draft with
    | nil => exact ⟨draft,.nil,run⟩
    | cons t ts ih =>
      cases run with
      | cons step run =>
        obtain ⟨middle,first,second⟩ := ih run
        exact ⟨middle,.cons step first,second⟩
  · rintro ⟨middle,first,second⟩
    exact first.append second

theorem Run.tokens_eq (run : Run limit draft ts final) : final.tokens = draft.tokens ++ ts := by
  induction run with
  | nil => simp
  | cons step _ ih => rw [ih,step.tokens_eq,List.append_assoc]; rfl

theorem Run.opening_mem {sum : Derivation .sum} {group : OpenGroup} {outer : List OpenGroup}
    (run : Run limit start ts (done sum (group :: outer))) : group.opening.1 ∈ ts := by
  have read : (done sum (group :: outer)).tokens = ts := run.tokens_eq
  rw [← read]
  simp [tokens,OpenGroup.tokens]

theorem Run.deterministic {other : Draft} (run : Run limit draft ts final)
    (again : Run limit draft ts other) : final = other := by
  induction run with
  | nil => cases again; rfl
  | cons step _ ih =>
    cases again with
    | cons step' run' =>
      cases step.deterministic step'
      exact ih run'

theorem Run.mono {higher : Nat} (run : Run limit draft ts final) (le : limit ≤ higher) :
    Run higher draft ts final := by
  induction run with
  | nil => exact .nil
  | cons step _ ih => exact .cons (step.mono le) ih

/-- A run that starts within the limit stays within it, so the tokens read are nested within it. -/
theorem Run.nested (run : Run limit draft ts final) (within : draft.groups.length ≤ limit)
    (nested : NestedWithin limit draft.tokens) : NestedWithin limit final.tokens := by
  induction run with
  | nil => exact nested
  | cons step _ ih =>
    have bound := step.groups_le within
    refine ih bound ?_
    intro front isFront
    rw [step.tokens_eq] at isFront
    rcases List.prefix_concat_iff.mp isFront with whole | isFront
    · rw [whole,← List.concat_eq_append,List.concat_eq_append,← step.tokens_eq,openGroups_tokens]
      omega
    · exact nested front isFront

end Draft

/-- A derivation moves a draft over its tokens: a primary fills the current gap, a sum completes
the current group. -/
def Derivation.Completes (limit : Nat) (outer : List OpenGroup) : {n : Nonterminal} → Derivation n → Prop
  | .primary, d => ∀ gap, Draft.Run limit (.due gap outer) d.tokens (.done (gap.fill d) outer)
  | .sum, d => Draft.Run limit (.due .first outer) d.tokens (.done d outer)

theorem Derivation.completes {limit : Nat} {n : Nonterminal} (d : Derivation n) (outer : List OpenGroup)
    (nested : NestedWithin (limit - outer.length) d.tokens) : d.Completes limit outer := by
  induction d generalizing outer with
  | number word => exact fun gap => .single (.number word.2)
  | group opening inner closing ih =>
    intro gap
    rw [nestedWithin_group] at nested
    have room : (0 : Int) ≤ limit - outer.length - 1 := nested [] List.nil_prefix
    have inside := ih (⟨gap,opening⟩ :: outer) (by simpa [Int.sub_sub] using nested)
    exact .cons (.opening opening.2 (by omega)) (inside.append (.single (.closing closing.2)))
  | single operand ih => exact ih outer nested .first
  | chain left operator right ihl ihr =>
    rw [nestedWithin_chain] at nested
    exact (ihl outer nested.1).append (.cons (.operator operator.2) (ihr outer nested.2 _))

theorem Gap.run {limit : Nat} (gap : Gap) (outer : List OpenGroup)
    (nested : NestedWithin (limit - outer.length) gap.tokens) :
    Draft.Run limit (.due .first outer) gap.tokens (.due gap outer) := by
  cases gap with
  | first => exact .nil
  | after left operator =>
    have complete := left.completes outer (nestedWithin_append.mp nested).1
    exact complete.append (.single (.operator operator.2))

theorem OpenGroup.run {limit : Nat} (outer : List OpenGroup) (nested : NestedWithin limit (tokens outer)) :
    Draft.Run limit .start (tokens outer) (.due .first outer) := by
  induction outer with
  | nil => exact .nil
  | cons group outer ih =>
    have count := nested _ (List.prefix_refl _)
    rw [openGroups_tokens,List.length_cons] at count
    obtain ⟨before,_⟩ := nestedWithin_append.mp nested
    obtain ⟨around,inside⟩ := nestedWithin_append.mp before
    rw [openGroups_tokens] at inside
    have opening : Draft.Step limit (.due group.gap outer) group.opening.1 (.due .first (group :: outer)) :=
      .opening group.opening.2 (by omega)
    exact ((ih around).append (group.gap.run outer inside)).append (.single opening)

theorem Draft.run {limit : Nat} (draft : Draft) (nested : NestedWithin limit draft.tokens) :
    Draft.Run limit .start draft.tokens draft := by
  cases draft with
  | due gap outer =>
    obtain ⟨around,inside⟩ := nestedWithin_append.mp nested
    rw [OpenGroup.openGroups_tokens] at inside
    exact (OpenGroup.run outer around).append (gap.run outer inside)
  | done sum outer =>
    obtain ⟨around,inside⟩ := nestedWithin_append.mp nested
    rw [OpenGroup.openGroups_tokens] at inside
    exact (OpenGroup.run outer around).append (sum.completes outer inside)

namespace Draft

theorem run_done_iff {limit : Nat} {ts : List Token} {d : Derivation .sum} :
    Run limit start ts (done d []) ↔ d.tokens = ts ∧ NestedWithin limit ts := by
  constructor
  · intro run
    have read : d.tokens = ts := run.tokens_eq
    have nested := run.nested (Nat.zero_le _) (nestedWithin_nil.mpr (Int.natCast_nonneg limit))
    exact ⟨read,read ▸ nested⟩
  · rintro ⟨rfl,nested⟩
    exact d.completes [] (by simpa using nested)

end Draft

/-- The grammar is unambiguous. -/
theorem Derivation.tokens_injective {d e : Derivation .sum} (same : d.tokens = e.tokens) : d = e := by
  have nested := nestedWithin_length e.tokens
  have first := Draft.run_done_iff.mpr ⟨same,nested⟩
  have second := Draft.run_done_iff.mpr ⟨rfl,nested⟩
  cases first.deterministic second
  rfl

end Reckoner
