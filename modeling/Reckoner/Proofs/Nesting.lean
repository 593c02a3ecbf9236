import Reckoner.Token

/-! Open groups of a token sequence. The limit bounds the open groups after every initial
segment, and is an integer so that the remaining room can be passed on across any token. -/
namespace Reckoner

/-- Opening minus closing parentheses; may be negative. -/
def openGroups (ts : List Token) : Int :=
  (ts.countP (·.kind == .openParen) : Int) - ts.countP (·.kind == .closeParen)

@[simp] theorem openGroups_nil : openGroups [] = 0 := rfl

@[simp] theorem openGroups_append (front rest : List Token) :
    openGroups (front ++ rest) = openGroups front + openGroups rest := by
  simp only [openGroups,List.countP_append]
  omega

theorem openGroups_cons (t : Token) (ts : List Token) :
    openGroups (t :: ts) = openGroups [t] + openGroups ts :=
  openGroups_append [t] ts

theorem openGroups_opening {t : Token} (h : t.kind = .openParen) : openGroups [t] = 1 := by
  simp [openGroups,h]

theorem openGroups_closing {t : Token} (h : t.kind = .closeParen) : openGroups [t] = -1 := by
  simp [openGroups,h]

theorem openGroups_neutral {t : Token} (h : t.kind = .number ∨ t.kind = .additiveOperator) :
    openGroups [t] = 0 := by
  rcases h with h | h <;> simp [openGroups,h]

/-- No initial segment leaves more groups open than the limit. -/
def NestedWithin (limit : Int) (ts : List Token) : Prop :=
  ∀ front, front <+: ts → openGroups front ≤ limit

theorem NestedWithin.mono {limit higher : Int} {ts : List Token} (nested : NestedWithin limit ts)
    (le : limit ≤ higher) : NestedWithin higher ts :=
  fun front isFront => Int.le_trans (nested front isFront) le

@[simp] theorem nestedWithin_nil {limit : Int} : NestedWithin limit [] ↔ 0 ≤ limit := by
  simp [NestedWithin]

theorem nestedWithin_cons {limit : Int} {t : Token} {ts : List Token} :
    NestedWithin limit (t :: ts) ↔ 0 ≤ limit ∧ NestedWithin (limit - openGroups [t]) ts := by
  constructor
  · intro nested
    refine ⟨nested [] (List.nil_prefix),fun front isFront => ?_⟩
    have bound := nested (t :: front) (List.cons_prefix_cons.mpr ⟨rfl,isFront⟩)
    rw [openGroups_cons] at bound
    omega
  · rintro ⟨positive,nested⟩ front isFront
    rcases List.prefix_cons_iff.mp isFront with rfl | ⟨front,rfl,inner⟩
    · exact positive
    · have bound := nested front inner
      rw [openGroups_cons]
      omega

theorem nestedWithin_append {limit : Int} {front rest : List Token} :
    NestedWithin limit (front ++ rest) ↔
      NestedWithin limit front ∧ NestedWithin (limit - openGroups front) rest := by
  induction front generalizing limit with
  | nil =>
    have start (h : NestedWithin limit rest) : 0 ≤ limit := h [] List.nil_prefix
    simpa using start
  | cons t front ih =>
    have shift : limit - openGroups (t :: front) = limit - openGroups [t] - openGroups front := by
      rw [openGroups_cons]; omega
    rw [List.cons_append,nestedWithin_cons,nestedWithin_cons,ih,shift,and_assoc]

theorem nestedWithin_length (ts : List Token) : NestedWithin ts.length ts := by
  intro front isFront
  have opened : front.countP (·.kind == .openParen) ≤ front.length := List.countP_le_length
  have shorter := isFront.length_le
  simp only [openGroups]
  omega

instance decidableNestedWithin :
    (limit : Int) → (ts : List Token) → Decidable (NestedWithin limit ts)
  | _, [] => decidable_of_iff _ nestedWithin_nil.symm
  | limit, t :: ts =>
    have := decidableNestedWithin (limit - openGroups [t]) ts
    decidable_of_iff _ nestedWithin_cons.symm

example : ¬NestedWithin 0 [⟨.openParen,"(",⟨0,1⟩⟩,⟨.closeParen,")",⟨2,3⟩⟩] := by decide

end Reckoner
