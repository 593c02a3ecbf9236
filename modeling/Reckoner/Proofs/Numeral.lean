import Reckoner.Tree.Basic

/-! Integers denoted by numerals, unbounded, and the values that represent them. -/
namespace Reckoner

namespace Value

/-- Integer denoted by a numeral with at most one sign. -/
def integer? (text : String) : Option Int :=
  match text.toList with
  | '-' :: digits => (natural? digits).map fun n : Nat => -(n : Int)
  | '+' :: digits => (natural? digits).map fun n : Nat => (n : Int)
  | digits => (natural? digits).map fun n : Nat => (n : Int)

theorem ofNumeral_eq (text : String) : ofNumeral? text = (integer? text).bind ofInt? := by
  unfold ofNumeral? integer?
  generalize text.toList = chars
  split
  next => simp only [Option.bind_map]; rfl
  next => simp only [Option.bind_map]; rfl
  next => simp only [Option.bind_map]; rfl

theorem toInt_bounds (v : Value) : least ≤ v.toInt ∧ v.toInt ≤ greatest := by
  have lower := Int64.le_toInt v
  have upper := Int64.toInt_lt v
  simp only [least,greatest]
  omega

theorem toInt_ofInt {n : Int} (lower : least ≤ n) (upper : n ≤ greatest) :
    (Int64.ofInt n).toInt = n := by
  simp only [least,greatest] at lower upper
  exact Int64.toInt_ofInt_of_le (by omega) (by omega)

/-- `ofInt?` is the partial inverse of `toInt`. -/
theorem ofInt_eq_some {n : Int} {v : Value} : ofInt? n = some v ↔ v.toInt = n := by
  unfold ofInt?
  split
  next range =>
    rw [Option.some.injEq]
    constructor
    · rintro rfl
      exact toInt_ofInt range.1 range.2
    · rintro rfl
      exact Int64.ofInt_toInt v
  next outside =>
    refine ⟨nofun,?_⟩
    rintro rfl
    exact absurd (toInt_bounds v) outside

end Value

def Token.InRange (t : Token) : Prop :=
  ∃ n, Value.integer? t.text = some n ∧ Value.least ≤ n ∧ n ≤ Value.greatest

theorem Token.inRange_iff {t : Token} :
    t.InRange ↔ ∃ v, (Value.integer? t.text).bind Value.ofInt? = some v := by
  constructor
  · rintro ⟨n,read,lower,upper⟩
    refine ⟨Int64.ofInt n,?_⟩
    rw [read,Option.bind_some,Value.ofInt_eq_some]
    exact Value.toInt_ofInt lower upper
  · rintro ⟨v,read⟩
    obtain ⟨n,integer,fits⟩ := Option.bind_eq_some_iff.mp read
    have bounds := Value.toInt_bounds v
    rw [Value.ofInt_eq_some.mp fits] at bounds
    exact ⟨n,integer,bounds.1,bounds.2⟩

theorem Tree.ofToken_ok {t : Token} {tree : Tree} : Tree.ofToken t = .ok tree ↔
    t.kind = .number ∧ ∃ v, Value.ofNumeral? t.text = some v ∧ tree = .literal v t.span := by
  unfold Tree.ofToken
  by_cases kind : t.kind = .number
  · rw [if_pos kind]
    cases Value.ofNumeral? t.text <;> simp [kind,eq_comm]
  · rw [if_neg kind]
    simp [kind]

theorem Tree.ofToken_error {t : Token} {e : Error} : Tree.ofToken t = .error e ↔
    (t.kind = .number ∧ ¬t.InRange ∧ e = ⟨.numberParseError t.text,t.span.start⟩) ∨
      t.kind ≠ .number ∧ e = ⟨.invalidNodeType t.kind,t.span.start⟩ := by
  unfold Tree.ofToken
  by_cases kind : t.kind = .number
  · rw [if_pos kind,Token.inRange_iff,← Value.ofNumeral_eq]
    cases Value.ofNumeral? t.text <;> simp [kind,eq_comm]
  · rw [if_neg kind]
    simp [kind,eq_comm]

end Reckoner
