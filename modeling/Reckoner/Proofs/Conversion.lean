import Reckoner.Config
import Reckoner.Postfix.Conversion
import Reckoner.Proofs.Draft
import Reckoner.Proofs.Lexing

/-! The yard represents a draft: its output and stack are functions of the derivation read so
far, and it accepts a token iff the draft has a step on it. Conversion therefore outputs the
listing of the derivation. -/
namespace Reckoner

open Postfix

/-! Operators of a group are emitted when the next operator, its closing parenthesis or the end
is read. -/

def Derivation.settled : Derivation .sum → List Token
  | .single operand => operand.listing
  | .chain left _ right => left.listing ++ right.listing

def Derivation.pending : Derivation .sum → List Token
  | .single _ => []
  | .chain _ operator _ => [operator.1]

theorem Derivation.settled_pending (d : Derivation .sum) : d.settled ++ d.pending = d.listing := by
  cases d <;> simp [settled,pending,listing]

def Gap.settled : Gap → List Token
  | first => []
  | after left _ => left.listing

def Gap.pending : Gap → List Token
  | first => []
  | after _ operator => [operator.1]

@[simp] theorem Gap.settled_fill (gap : Gap) (operand : Derivation .primary) :
    (gap.fill operand).settled = gap.settled ++ operand.listing := by
  cases gap <;> simp [fill,settled,Derivation.settled]

@[simp] theorem Gap.pending_fill (gap : Gap) (operand : Derivation .primary) :
    (gap.fill operand).pending = gap.pending := by
  cases gap <;> rfl

def OpenGroup.settled : List OpenGroup → List Token
  | [] => []
  | group :: outer => settled outer ++ group.gap.settled

def OpenGroup.waiting : List OpenGroup → List Token
  | [] => []
  | group :: outer => group.opening.1 :: (group.gap.pending ++ waiting outer)

namespace Draft

def yard : Draft → Yard
  | due gap outer => {
      output := (OpenGroup.settled outer ++ gap.settled).toArray
      waiting := gap.pending ++ OpenGroup.waiting outer
      openGroups := outer.length
      operandDue := true }
  | done sum outer => {
      output := (OpenGroup.settled outer ++ sum.settled).toArray
      waiting := sum.pending ++ OpenGroup.waiting outer
      openGroups := outer.length
      operandDue := false }

variable {limit : Nat} {draft final : Draft} {t : Token}

/-- Above the innermost parenthesis the stack holds only operators of that group. -/
theorem takeWhile_waiting (sum : Derivation .sum) (outer : List OpenGroup) :
    (done sum outer).yard.released = sum.pending := by
  have stops : (OpenGroup.waiting outer).takeWhile (·.kind != .openParen) = [] := by
    cases outer with
    | nil => rfl
    | cons group outer => simp [OpenGroup.waiting,group.opening.2]
  cases sum with
  | single operand => exact stops
  | chain left operator right =>
    simp [yard,Yard.released,Derivation.pending,operator.2,stops]

theorem dropWhile_waiting (sum : Derivation .sum) (outer : List OpenGroup) :
    (done sum outer).yard.kept = OpenGroup.waiting outer := by
  have stops : (OpenGroup.waiting outer).dropWhile (·.kind != .openParen) = OpenGroup.waiting outer := by
    cases outer with
    | nil => rfl
    | cons group outer => simp [OpenGroup.waiting,group.opening.2]
  cases sum with
  | single operand => exact stops
  | chain left operator right =>
    simp [yard,Yard.kept,Derivation.pending,operator.2,stops]

/-- Steps of the draft are simulated by the yard. -/
theorem Step.accept (step : Step limit draft t final) :
    Yard.accept limit draft.yard t = .ok final.yard := by
  cases step with
  | number h => simp [Yard.accept,h,yard,Derivation.listing]
  | @operator _ sum outer h =>
    simp only [Yard.accept,h,takeWhile_waiting,dropWhile_waiting]
    simp [yard,Gap.settled,Gap.pending,Derivation.settled_pending]
  | opening h room =>
    have := Nat.not_le.mpr room
    simp [Yard.accept,h,yard,this,OpenGroup.settled,OpenGroup.waiting,Gap.settled,Gap.pending]
  | @closing _ sum group outer h =>
    simp only [Yard.accept,h,takeWhile_waiting,dropWhile_waiting,OpenGroup.waiting]
    simp [yard,OpenGroup.settled,Derivation.listing,Derivation.settled_pending]

theorem step_of_accept {y : Yard} (accepted : Yard.accept limit draft.yard t = .ok y) :
    ∃ final, Step limit draft t final := by
  cases draft with
  | due gap outer =>
    cases kind : t.kind with
    | number => exact ⟨_,.number kind⟩
    | additiveOperator => simp [Yard.accept,kind,yard] at accepted
    | openParen =>
      have room : outer.length < limit := by
        by_cases full : limit ≤ outer.length
        · simp [Yard.accept,kind,yard,full] at accepted
        · exact Nat.not_le.mp full
      exact ⟨_,.opening kind room⟩
    | closeParen => simp [Yard.accept,kind,yard] at accepted
  | done sum outer =>
    cases kind : t.kind with
    | number => simp [Yard.accept,kind,yard] at accepted
    | additiveOperator => exact ⟨_,.operator kind⟩
    | openParen => simp [Yard.accept,kind,yard] at accepted
    | closeParen =>
      cases outer with
      | nil =>
        simp only [Yard.accept,kind,dropWhile_waiting,OpenGroup.waiting] at accepted
        cases accepted
      | cons group outer => exact ⟨_,.closing kind⟩

theorem foldlM_accept {ts : List Token} {y : Yard} :
    ts.foldlM (Yard.accept limit) draft.yard = .ok y ↔
      ∃ final, Run limit draft ts final ∧ final.yard = y := by
  induction ts generalizing draft with
  | nil =>
    constructor
    · intro same
      cases same
      exact ⟨draft,.nil,rfl⟩
    · rintro ⟨_,run,rfl⟩
      cases run
      rfl
  | cons t ts ih =>
    rw [List.foldlM_cons,except_bind_ok]
    constructor
    · rintro ⟨next,accepted,folded⟩
      obtain ⟨middle,step⟩ := step_of_accept accepted
      cases Except.ok.inj (accepted.symm.trans step.accept)
      obtain ⟨final,run,same⟩ := ih.mp folded
      exact ⟨final,.cons step run,same⟩
    · rintro ⟨final,run,same⟩
      cases run with
      | cons step run => exact ⟨_,step.accept,ih.mpr ⟨final,run,same⟩⟩

theorem finish_yard {stop : Nat} {output : Array Token} :
    draft.yard.finish stop = .ok output ↔
      ∃ sum, draft = done sum [] ∧ output.toList = sum.listing := by
  cases draft with
  | due gap outer =>
    refine ⟨nofun,?_⟩
    rintro ⟨_,impossible,_⟩
    cases impossible
  | done sum outer =>
    simp only [Yard.finish,takeWhile_waiting,dropWhile_waiting]
    cases outer with
    | nil =>
      have order : (done sum []).yard.output ++ sum.pending = sum.listing.toArray := by
        simp [yard,OpenGroup.settled,← sum.settled_pending]
      rw [order]
      constructor
      · intro same
        cases same
        exact ⟨sum,rfl,rfl⟩
      · rintro ⟨_,same,listed⟩
        cases same
        rw [← listed]
        rfl
    | cons group outer =>
      refine ⟨nofun,?_⟩
      rintro ⟨_,impossible,_⟩
      cases impossible

end Draft

theorem Postfix.convert_eq_finish {limit : Nat} {source : String} {output : Array Token} :
    (convert limit).on source = .ok output ↔ ∃ ts y, Spells source ts ∧
      ts.foldlM (Yard.accept limit) {} = .ok y ∧ y.finish source.utf8ByteSize = .ok output := by
  unfold convert
  rw [on_ok]
  constructor
  · rintro ⟨l,ran⟩
    obtain ⟨y,middle,fed,rest⟩ := work_bind_ok.mp ran
    obtain ⟨_,_,got,finished⟩ := work_bind_ok.mp rest
    cases got
    obtain ⟨rfl,ts,spelled,folded⟩ := feed_ok.mp fed
    exact ⟨ts,y,spelled,folded,(ofExcept_ok.mp finished).1⟩
  · rintro ⟨ts,y,spelled,folded,finished⟩
    have fed := feed_ok.mpr ⟨rfl,ts,spelled,folded⟩
    refine ⟨⟨[],source.utf8ByteSize⟩,work_bind_ok.mpr ⟨y,_,fed,?_⟩⟩
    exact work_bind_ok.mpr ⟨_,_,rfl,ofExcept_ok.mpr ⟨finished,rfl⟩⟩

/-- Conversion succeeds iff the text has a derivation nested within the limit, and its output is
the listing. -/
theorem Postfix.convert_ok {limit : Nat} {source : String} {output : Array Token} :
    (convert limit).on source = .ok output ↔ ∃ d : Derivation .sum, Spells source d.tokens ∧
      NestedWithin limit d.tokens ∧ output.toList = d.listing := by
  rw [convert_eq_finish]
  constructor
  · rintro ⟨ts,y,spelled,folded,finished⟩
    have folded : ts.foldlM (Yard.accept limit) Draft.start.yard = .ok y := folded
    obtain ⟨final,run,rfl⟩ := Draft.foldlM_accept.mp folded
    obtain ⟨d,rfl,listed⟩ := Draft.finish_yard.mp finished
    obtain ⟨rfl,nested⟩ := Draft.run_done_iff.mp run
    exact ⟨d,spelled,nested,listed⟩
  · rintro ⟨d,spelled,nested,listed⟩
    have run := Draft.run_done_iff.mpr ⟨rfl,nested⟩
    have folded := Draft.foldlM_accept.mpr ⟨_,run,rfl⟩
    exact ⟨d.tokens,_,spelled,folded,Draft.finish_yard.mpr ⟨d,rfl,listed⟩⟩

/-- Conversion accepts exactly the texts whose words are tokens of a derivation nested within
the limit. The output is its listing: numbers and operators once each, no parentheses, numbers
in source order. -/
theorem Postfix.convert_lists_derivation (config : Config) (source : String) :
    ((∃ output, (convert config.maxDepth).on source = .ok output) ↔ ∃ ts, Spells source ts ∧
      (∃ d : Derivation .sum, d.tokens = ts) ∧ NestedWithin config.maxDepth ts) ∧
    ∀ output, (convert config.maxDepth).on source = .ok output →
      (∃ d : Derivation .sum, Spells source d.tokens ∧ output.toList = d.listing ∧
        ∀ e : Derivation .sum, Spells source e.tokens → e = d) ∧
      ∃ tokens, tokenize source = .ok tokens ∧ tokens.toList.Nodup ∧
        output.toList.Perm
          (tokens.toList.filter fun t => t.kind = .number ∨ t.kind = .additiveOperator) ∧
        output.toList.filter (·.kind = .number) = tokens.toList.filter (·.kind = .number) := by
  refine ⟨⟨?_,?_⟩,?_⟩
  · rintro ⟨output,success⟩
    obtain ⟨d,spelled,nested,_⟩ := convert_ok.mp success
    exact ⟨d.tokens,spelled,⟨d,rfl⟩,nested⟩
  · rintro ⟨_,spelled,⟨d,rfl⟩,nested⟩
    exact ⟨d.listing.toArray,convert_ok.mpr ⟨d,spelled,nested,rfl⟩⟩
  · intro output success
    obtain ⟨d,spelled,_,listed⟩ := convert_ok.mp success
    refine ⟨⟨d,spelled,listed,?_⟩,d.tokens.toArray,tokenize_ok.mpr spelled,spelled.nodup,?_⟩
    · exact fun e again => Derivation.tokens_injective (again.unique spelled)
    · rw [listed]
      exact ⟨d.listing_perm,d.listing_numbers⟩

theorem Postfix.convert_lists_grouped_difference :
    ∃ d : Derivation .sum, Spells "1 - ( 2 + 3 )" d.tokens ∧
      [⟨.number,"1",⟨0,1⟩⟩,⟨.number,"2",⟨6,7⟩⟩,⟨.number,"3",⟨10,11⟩⟩,
        ⟨.additiveOperator,"+",⟨8,9⟩⟩,⟨.additiveOperator,"-",⟨2,3⟩⟩] = d.listing ∧
      ∀ e : Derivation .sum, Spells "1 - ( 2 + 3 )" e.tokens → e = d :=
  ((convert_lists_derivation {} "1 - ( 2 + 3 )").2
    #[⟨.number,"1",⟨0,1⟩⟩,⟨.number,"2",⟨6,7⟩⟩,⟨.number,"3",⟨10,11⟩⟩,
      ⟨.additiveOperator,"+",⟨8,9⟩⟩,⟨.additiveOperator,"-",⟨2,3⟩⟩] (by decide +kernel)).1

end Reckoner
