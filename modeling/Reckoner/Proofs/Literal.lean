import Mathlib.Data.Nat.Digits.Defs
import Reckoner.Proofs.Writing
import Reckoner.Proofs.Handover

/-! Number words and their values. Digits denote an unbounded integer in positional notation,
and a numeral is refused iff that integer is out of range. The literal reader also accepts a
plus sign, which no number word has. -/
namespace Reckoner

namespace Text

structure AsciiDigits (digits : List Char) : Prop where
  filled : digits ≠ []
  ascii : ∀ c ∈ digits, '0' ≤ c ∧ c ≤ '9'

/-- Positional value, most significant digit first. -/
def positional (digits : List Char) : Nat :=
  Nat.ofDigits 10 (digits.reverse.map fun c => c.toNat - '0'.toNat)

variable {digits zeros : List Char}

theorem isDigits_iff : isDigits digits = true ↔ AsciiDigits digits := by
  have digit (c : Char) : c.isDigit = true ↔ '0' ≤ c ∧ c ≤ '9' := by
    simp only [Char.isDigit,Bool.and_eq_true,decide_eq_true_eq,Char.le_def]
  simp only [isDigits,Bool.and_eq_true,Bool.not_eq_true',List.isEmpty_eq_false_iff,List.all_eq_true,digit]
  constructor
  · rintro ⟨filled,ascii⟩
    exact ⟨filled,ascii⟩
  · rintro ⟨filled,ascii⟩
    exact ⟨filled,ascii⟩

theorem positional_concat (digits : List Char) (c : Char) :
    positional (digits ++ [c]) = 10 * positional digits + (c.toNat - '0'.toNat) := by
  simp only [positional,List.reverse_append,List.reverse_singleton,List.singleton_append,List.map_cons,
    Nat.ofDigits_cons]
  omega

theorem ofDigits_eq_positional (digits : List Char) : ofDigits digits = positional digits := by
  induction digits using List.reverseRecOn with
  | nil => rfl
  | append_singleton digits c ih =>
    rw [positional_concat,← ih,ofDigits,List.foldl_append]
    rfl

theorem positional_zeros (zero : ∀ c ∈ zeros, c = '0') (digits : List Char) :
    positional (zeros ++ digits) = positional digits := by
  induction digits using List.reverseRecOn with
  | nil =>
    induction zeros using List.reverseRecOn with
    | nil => rfl
    | append_singleton zeros c ih =>
      obtain ⟨front,last⟩ := List.forall_mem_append.mp zero
      rw [List.append_nil] at ih ⊢
      rw [positional_concat,ih front,last c (List.mem_singleton_self c)]
      rfl
  | append_singleton digits c ih => rw [← List.append_assoc,positional_concat,positional_concat,ih]

theorem AsciiDigits.after_zeros (ascii : AsciiDigits digits) (zero : ∀ c ∈ zeros, c = '0') :
    AsciiDigits (zeros ++ digits) where
  filled := List.append_ne_nil_of_right_ne_nil zeros ascii.filled
  ascii := by
    refine List.forall_mem_append.mpr ⟨?_,ascii.ascii⟩
    intro c member
    rw [zero c member]
    decide

theorem AsciiDigits.ne_sign {c : Char} {more : List Char} (ascii : AsciiDigits (c :: more)) :
    c ≠ '+' ∧ c ≠ '-' := by
  have first := ascii.ascii c List.mem_cons_self
  constructor <;> rintro rfl <;> exact absurd first (by decide)

end Text

namespace Value

open Text

/-- Decimal digits with at most one sign, and the integer they denote. -/
inductive Denotes : List Char → Int → Prop where
  | bare (ascii : AsciiDigits digits) : Denotes digits (positional digits)
  | plus (ascii : AsciiDigits digits) : Denotes ('+' :: digits) (positional digits)
  | minus (ascii : AsciiDigits digits) : Denotes ('-' :: digits) (-(positional digits : Int))

variable {digits zeros sign : List Char} {text : String} {n m : Int}

theorem natural_eq_some {k : Nat} :
    natural? digits = some k ↔ AsciiDigits digits ∧ positional digits = k := by
  unfold natural?
  split
  next numeral => simp [← isDigits_iff,numeral,ofDigits_eq_positional]
  next other => simp [← isDigits_iff,other]

theorem integer_eq_some : integer? text = some n ↔ Denotes text.toList n := by
  unfold integer?
  generalize text.toList = chars
  split
  next digits =>
    simp only [Option.map_eq_some_iff,natural_eq_some]
    constructor
    · rintro ⟨k,⟨ascii,rfl⟩,rfl⟩
      exact .minus ascii
    · intro denotes
      cases denotes with
      | bare ascii => exact absurd rfl ascii.ne_sign.2
      | minus ascii => exact ⟨_,⟨ascii,rfl⟩,rfl⟩
  next digits =>
    simp only [Option.map_eq_some_iff,natural_eq_some]
    constructor
    · rintro ⟨k,⟨ascii,rfl⟩,rfl⟩
      exact .plus ascii
    · intro denotes
      cases denotes with
      | bare ascii => exact absurd rfl ascii.ne_sign.1
      | plus ascii => exact ⟨_,⟨ascii,rfl⟩,rfl⟩
  next noMinus noPlus =>
    simp only [Option.map_eq_some_iff,natural_eq_some]
    constructor
    · rintro ⟨k,⟨ascii,rfl⟩,rfl⟩
      exact .bare ascii
    · intro denotes
      cases denotes with
      | bare ascii => exact ⟨_,⟨ascii,rfl⟩,rfl⟩
      | plus ascii => exact absurd rfl (noPlus _)
      | minus ascii => exact absurd rfl (noMinus _)

theorem Denotes.unique {chars : List Char} (first : Denotes chars n) (second : Denotes chars m) : n = m := by
  rw [← String.toList_ofList (l := chars),← integer_eq_some] at first second
  exact Option.some.inj (first.symm.trans second)

theorem Denotes.without_zeros (signed : sign = [] ∨ sign = ['-']) (zero : ∀ c ∈ zeros, c = '0')
    (ascii : AsciiDigits digits) (denotes : Denotes (sign ++ (zeros ++ digits)) n) :
    Denotes (sign ++ digits) n := by
  have padded : AsciiDigits (zeros ++ digits) := ascii.after_zeros zero
  rcases signed with rfl | rfl
  · have value : n = positional (zeros ++ digits) := denotes.unique (.bare padded)
    rw [value,positional_zeros zero]
    exact .bare ascii
  · have value : n = -(positional (zeros ++ digits) : Int) := denotes.unique (.minus padded)
    rw [value,positional_zeros zero]
    exact .minus ascii

end Value

/-- A number word is ASCII digits with an optional minus sign. -/
theorem TokenKind.ofWord_number_iff {text : String} : ofWord? text = some .number ↔
    ∃ digits, Text.AsciiDigits digits ∧ (text.toList = digits ∨ text.toList = '-' :: digits) := by
  constructor
  · intro known
    obtain ⟨digits,numeral,spelled⟩ := ofWord_number known
    exact ⟨digits,Text.isDigits_iff.mp numeral,spelled⟩
  · rintro ⟨digits,ascii,spelled⟩
    exact ofWord_of_digits (Text.isDigits_iff.mpr ascii) spelled

open Value

theorem Token.inRange_iff_denotes {t : Token} :
    t.InRange ↔ ∃ n, Denotes t.text.toList n ∧ least ≤ n ∧ n ≤ greatest := by
  simp only [InRange,integer_eq_some]

/-- Number words are ASCII digits with an optional minus sign. A number token is a literal iff
it denotes an integer in range, and is refused at its span otherwise. Every number word denotes
an integer, independently of leading zeros. -/
theorem number_words_fail_by_range (w : String) (t : Token) (number : t.kind = .number) :
    (TokenKind.ofWord? w = some .number ↔
      ∃ digits, Text.AsciiDigits digits ∧ (w.toList = digits ∨ w.toList = '-' :: digits)) ∧
    (∀ tree, Tree.ofToken t = .ok tree ↔ ∃ (n : Int) (v : Value), Denotes t.text.toList n ∧
      least ≤ n ∧ n ≤ greatest ∧ v.toInt = n ∧ tree = .literal v t.span) ∧
    (∀ e, Tree.ofToken t = .error e ↔
      (¬∃ n, Denotes t.text.toList n ∧ least ≤ n ∧ n ≤ greatest) ∧
        e = ⟨.numberParseError t.text,t.span.start⟩) ∧
    (TokenKind.ofWord? t.text = some .number → ∃ n, Denotes t.text.toList n ∧
      ((∃ e, Tree.ofToken t = .error e) ↔ n < least ∨ greatest < n) ∧
      ∀ sign zeros digits, t.text.toList = sign ++ (zeros ++ digits) → (sign = [] ∨ sign = ['-']) →
        (∀ c ∈ zeros, c = '0') → Text.AsciiDigits digits → Denotes (sign ++ digits) n) := by
  have refused (e : Error) : Tree.ofToken t = .error e ↔
      (¬∃ n, Denotes t.text.toList n ∧ least ≤ n ∧ n ≤ greatest) ∧
        e = ⟨.numberParseError t.text,t.span.start⟩ := by
    rw [Tree.ofToken_error,← Token.inRange_iff_denotes]
    simp [number]
  refine ⟨TokenKind.ofWord_number_iff,fun tree => ?_,refused,fun known => ?_⟩
  · rw [Tree.ofToken_ok]
    constructor
    · rintro ⟨_,v,read,rfl⟩
      rw [ofNumeral_eq] at read
      obtain ⟨n,integer,fits⟩ := Option.bind_eq_some_iff.mp read
      obtain rfl := ofInt_eq_some.mp fits
      exact ⟨_,v,integer_eq_some.mp integer,(toInt_bounds v).1,(toInt_bounds v).2,rfl,rfl⟩
    · rintro ⟨_,v,denotes,_,_,rfl,rfl⟩
      refine ⟨number,v,?_,rfl⟩
      rw [ofNumeral_eq,integer_eq_some.mpr denotes]
      exact ofInt_eq_some.mpr rfl
  · obtain ⟨n,integer⟩ := integer_of_number known
    have denotes := integer_eq_some.mp integer
    refine ⟨n,denotes,?_,?_⟩
    · have only : (∃ m, Denotes t.text.toList m ∧ least ≤ m ∧ m ≤ greatest) ↔
          least ≤ n ∧ n ≤ greatest := by
        constructor
        · rintro ⟨m,same,range⟩
          rwa [denotes.unique same]
        · exact fun range => ⟨n,denotes,range⟩
      simp only [refused,only,exists_and_left,exists_eq,and_true]
      omega
    · intro sign zeros digits split signed zero ascii
      exact Denotes.without_zeros signed zero ascii (split ▸ denotes)

/-- One below the least value, with leading zeros. -/
theorem number_words_fail_by_range_below_least :
    let t : Token := ⟨.number,"-0009223372036854775809",⟨3,26⟩⟩
    t.kind = .number ∧ TokenKind.ofWord? t.text = some .number ∧
      Tree.ofToken t = .error ⟨.numberParseError t.text,3⟩ ∧
      ∃ n, Denotes ("-9223372036854775809".toList) n ∧ (n < least ∨ greatest < n) := by
  intro t
  have failed : Tree.ofToken t = .error ⟨.numberParseError t.text,3⟩ := by decide +kernel
  have known : TokenKind.ofWord? t.text = some .number := by decide +kernel
  obtain ⟨_,_,_,only⟩ := number_words_fail_by_range t.text t rfl
  obtain ⟨n,_,fails,zeros⟩ := only known
  have ascii : Text.AsciiDigits "9223372036854775809".toList := Text.isDigits_iff.mp (by decide +kernel)
  have same := zeros ['-'] ['0','0','0'] "9223372036854775809".toList (by decide +kernel) (.inr rfl)
    (by simp) ascii
  exact ⟨rfl,known,failed,n,same,fails.mp ⟨_,failed⟩⟩

end Reckoner
