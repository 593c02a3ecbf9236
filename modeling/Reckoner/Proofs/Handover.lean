import Reckoner.Proofs.Conversion
import Reckoner.Proofs.Ledger
import Reckoner.Proofs.Rejection
import Reckoner.Proofs.Rendering

/-! From conversion to assembly. The converted listing is well formed and nested within the
limit, so assembly fails only on numerals out of range, at the first of them in the text. -/
namespace Reckoner

open Postfix

/-- The text denotes an integer outside the value range. -/
def Value.outOfRange (text : String) : Bool :=
  (integer? text).any fun n => n < least ∨ greatest < n

/-- A numeral word out of range. -/
def Word.unfit (w : Word) : Bool := TokenKind.ofWord? w.text = some .number ∧ Value.outOfRange w.text

def Token.unfit (t : Token) : Bool := t.kind = .number ∧ Value.outOfRange t.text

variable {source : String} {ws : List Word} {ts : List Token} {t : Token}

theorem Word.unfit_of_token {w : Word} (token : w.token = .ok t) : w.unfit = t.unfit := by
  obtain ⟨known,text,_⟩ := Word.token_ok.mp token
  rw [text] at known
  simp only [unfit,Token.unfit,text,known,Option.some.injEq]

theorem Value.integer_of_number {text : String} (known : TokenKind.ofWord? text = some .number) :
    ∃ n, integer? text = some n := by
  obtain ⟨digits,numeral,spelled⟩ := TokenKind.ofWord_number known
  have read : natural? digits = some (Text.ofDigits digits) := if_pos numeral
  unfold integer?
  rcases spelled with spelled | spelled
  · rw [spelled]
    split
    next => simp [Text.isDigits] at numeral
    next => simp [Text.isDigits] at numeral
    next => exact ⟨_,congrArg (Option.map fun n : Nat => (n : Int)) read⟩
  · rw [spelled]
    exact ⟨_,congrArg (Option.map fun n : Nat => -(n : Int)) read⟩

theorem Token.Spelled.unfit_iff (spelled : t.Spelled) :
    t.unfit = true ↔ t.kind = .number ∧ ¬t.InRange := by
  simp only [Token.unfit,decide_eq_true_eq]
  refine and_congr_right fun kind => ?_
  obtain ⟨n,read⟩ := Value.integer_of_number (spelled.trans (congrArg some kind))
  simp only [Value.outOfRange,InRange,read,Option.any_some,decide_eq_true_eq,Option.some.injEq,
    exists_eq_left']
  omega

theorem find_of_token {holds : Word → Bool} {holds' : Token → Bool}
    (same : ∀ {w t}, w.token = .ok t → holds w = holds' t) (tokens : ws.map Word.token = ts.map .ok) :
    (ws.find? holds).map Word.token = (ts.find? holds').map .ok := by
  induction ws generalizing ts with
  | nil => rw [List.map_eq_nil_iff.mp tokens.symm]; rfl
  | cons w ws ih =>
    obtain ⟨t,rest,rfl,head,tail⟩ := map_token_cons.mp tokens
    rw [List.find?_cons,List.find?_cons,same head]
    cases holds' t with
    | true => exact congrArg some head
    | false => exact ih tail

namespace Derivation

variable {d : Derivation .sum} {maxDepth : Nat}

/-- Assembly of a listing refuses the first numeral out of range. -/
theorem build_unfit (spelled : ∀ t ∈ d.tokens, t.Spelled) (nested : NestedWithin maxDepth d.tokens)
    (none : d.tree? = none) : ∃ t, d.tokens.find? Token.unfit = some t ∧
      build maxDepth d.listing = .error ⟨.numberParseError t.text,t.span.start⟩ := by
  obtain ⟨front,t,rest,numbers,fits,unfit,stops⟩ := d.assemble_unfit nested none
  have member {u : Token} (among : u ∈ front ++ t :: rest) : u ∈ d.tokens ∧ u.kind = .number := by
    rw [← numbers,List.mem_filter,decide_eq_true_eq] at among
    exact among
  obtain ⟨among,number⟩ := member (u := t) (by simp)
  have first : (d.tokens.filter (·.kind = .number)).find? Token.unfit = some t := by
    rw [numbers,List.find?_eq_some_iff_append]
    refine ⟨(spelled t among).unfit_iff.mpr ⟨number,unfit⟩,front,rest,rfl,fun u before => ?_⟩
    have fit : ¬u.unfit := fun unfit =>
      ((spelled u (member (by simp [before])).1).unfit_iff.mp unfit).2 (fits u before)
    simpa using fit
  refine ⟨t,?_,by rw [build,stops]; rfl⟩
  rw [List.find?_filter] at first
  rw [← first]
  congr 1
  funext u
  by_cases number : u.kind = .number <;> simp [Token.unfit,number]

theorem find_unfit_of_tree {tree : Tree} (spelled : ∀ t ∈ d.tokens, t.Spelled) (trees : d.tree? = some tree) :
    d.tokens.find? Token.unfit = none := by
  refine List.find?_eq_none.mpr fun t member unfit => ?_
  obtain ⟨number,outside⟩ := (spelled t member).unfit_iff.mp unfit
  exact outside (d.tree_exists_iff.mp ⟨tree,trees⟩ t member number)

end Derivation

namespace Postfix

variable {maxDepth : Nat} {output : Array Token}

theorem build_converted (converted : (convert maxDepth).on source = .ok output) :
    ((words source).find? Word.unfit = none ∧ ∃ tree, build maxDepth output.toList = .ok tree) ∨
    ∃ w, (words source).find? Word.unfit = some w ∧
      build maxDepth output.toList = .error ⟨.numberParseError w.text,w.span.start⟩ := by
  obtain ⟨d,spells,nested,listed⟩ := convert_ok.mp converted
  have spelled : ∀ t ∈ d.tokens, t.Spelled := fun t => spells.word
  have found := find_of_token Word.unfit_of_token spells
  rw [listed]
  cases trees : d.tree? with
  | some tree =>
    rw [Derivation.find_unfit_of_tree spelled trees] at found
    exact .inl ⟨Option.map_eq_none_iff.mp found,tree,(Derivation.build_listing nested).mpr trees⟩
  | none =>
    obtain ⟨t,first,refused⟩ := Derivation.build_unfit spelled nested trees
    rw [first,Option.map_some,Option.map_eq_some_iff] at found
    obtain ⟨w,found,token⟩ := found
    obtain ⟨_,text,span⟩ := Word.token_ok.mp token
    exact .inr ⟨w,found,by rw [refused,text,span]⟩

/-- Converted output assembles under the same limit if every numeral is in range. Otherwise
assembly reports the first numeral out of range. Missing operands, parentheses and nesting
errors do not occur. -/
theorem build_accepts_converted (config : Config) (source : String) (output : Array Token)
    (converted : (convert config.maxDepth).on source = .ok output) :
    ((words source).find? Word.unfit = none → ∃ tree, build config.maxDepth output.toList = .ok tree) ∧
    (∀ w, (words source).find? Word.unfit = some w →
      build config.maxDepth output.toList = .error ⟨.numberParseError w.text,w.span.start⟩) ∧
    ∀ e, build config.maxDepth output.toList = .error e → e.cause ≠ .invalidPostfixExpression ∧
      (∀ kind, e.cause ≠ .invalidNodeType kind) ∧ ∀ limit, e.cause ≠ .nestingTooDeep limit := by
  rcases build_converted converted with ⟨none,tree,built⟩ | ⟨w,first,refused⟩
  · refine ⟨fun _ => ⟨tree,built⟩,fun w some => ?_,fun e failed => ?_⟩
    · cases none.symm.trans some
    · cases built.symm.trans failed
  · refine ⟨fun none => ?_,fun v found => ?_,fun e failed => ?_⟩
    · cases first.symm.trans none
    · cases first.symm.trans found
      exact refused
    · cases refused.symm.trans failed
      exact ⟨nofun,nofun,nofun⟩

theorem build_accepts_converted_unfit :
    let source := "1 - ( 2 + 9223372036854775808 ) - 99999999999999999999"
    ∃ output : Array Token, (convert 1).on source = .ok output ∧
      (words source).find? Word.unfit = some ⟨"9223372036854775808",10,29⟩ ∧
      build 1 output.toList = .error ⟨.numberParseError "9223372036854775808",10⟩ := by
  intro source
  let output : Array Token := #[⟨.number,"1",⟨0,1⟩⟩,⟨.number,"2",⟨6,7⟩⟩,
    ⟨.number,"9223372036854775808",⟨10,29⟩⟩,⟨.additiveOperator,"+",⟨8,9⟩⟩,⟨.additiveOperator,"-",⟨2,3⟩⟩,
    ⟨.number,"99999999999999999999",⟨34,54⟩⟩,⟨.additiveOperator,"-",⟨32,33⟩⟩]
  have converted : (convert 1).on source = .ok output := by decide +kernel
  have first : (words source).find? Word.unfit = some ⟨"9223372036854775808",10,29⟩ := by decide +kernel
  exact ⟨output,converted,first,
    (build_accepts_converted ⟨1,.reject,.checked⟩ source output converted).2.1 _ first⟩

end Postfix

end Reckoner
