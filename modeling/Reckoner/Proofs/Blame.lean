import Reckoner.Proofs.Agreement
import Reckoner.Proofs.Fault

/-! Error positions of the two infix strategies. A fault of the parser at a draft is a refusal
of the yard at the same draft. The positions differ in two cases: at the end of the text with a
group open, where the yard reports the parenthesis, and at the nesting limit, where the parser
has already pulled the word after the parenthesis. -/
namespace Reckoner

def Error.TooDeep (e : Error) : Prop := ∃ limit, e.cause = .nestingTooDeep limit

def Classified (source : String) : Prop := ∀ w ∈ words source, TokenKind.ofWord? w.text ≠ none

/-- Every numeral word is in the value range. -/
def NumeralsFit (source : String) : Prop :=
  ∀ w ∈ words source, TokenKind.ofWord? w.text = some .number → Value.ofNumeral? w.text ≠ none

instance (source : String) : Decidable (Classified source) :=
  inferInstanceAs (Decidable (∀ w ∈ words source, _))

instance (source : String) : Decidable (NumeralsFit source) :=
  inferInstanceAs (Decidable (∀ w ∈ words source, _ → _))

/-- The words read so far end with a complete operand inside this innermost open group. -/
def LeavesOpen (limit : Nat) (source : String) (group : OpenGroup) : Prop :=
  ∃ sum outer, Spells source (Draft.done sum (group :: outer)).tokens ∧
    NestedWithin limit (Draft.done sum (group :: outer)).tokens

variable {limit stop : Nat} {source : String} {e f : Error} {t : Token} {ts : List Token}
  {rest : List (Except Error Token)} {draft final : Draft}

theorem Classified.token (classified : Classified source)
    (read : (words source).map Word.token = ts.map .ok ++ rest) : .error e ∉ rest := by
  intro member
  have member : .error e ∈ (words source).map Word.token := read ▸ List.mem_append_right _ member
  obtain ⟨w,isWord,refused⟩ := List.mem_map.mp member
  exact classified w isWord (Word.token_error.mp refused).1

theorem NumeralsFit.inRange (fit : NumeralsFit source)
    (read : (words source).map Word.token = ts.map .ok ++ rest) (member : .ok t ∈ rest)
    (number : t.kind = .number) : t.InRange := by
  have member : .ok t ∈ (words source).map Word.token := read ▸ List.mem_append_right _ member
  obtain ⟨w,isWord,token⟩ := List.mem_map.mp member
  obtain ⟨known,text,_⟩ := Word.token_ok.mp token
  rw [Token.inRange_iff,← Value.ofNumeral_eq,← text]
  exact Option.ne_none_iff_exists'.mp (fit w isWord (known.trans (congrArg some number)))

namespace Draft

theorem Fault.refused (fault : Fault limit stop draft rest e)
    (fit : ∀ t, .ok t ∈ rest → t.kind = .number → t.InRange) : ∃ f, Refusal limit stop draft rest f := by
  cases fault with
  | operandMissing => exact ⟨_,.operandMissing⟩
  | groupOpen => exact ⟨_,.groupOpen⟩
  | word => exact ⟨_,.word⟩
  | wordInside h full => exact ⟨_,.full h full⟩
  | operandDue h => exact ⟨_,.operandDue h⟩
  | numeral h unfit => exact absurd (fit _ List.mem_cons_self h) unfit
  | full h full => exact ⟨_,.full h full⟩
  | closingDue h => exact ⟨_,.operatorDue h⟩
  | @leftover _ t _ h =>
    cases kind : t.kind with
    | number => exact ⟨_,.operatorDue (.inl kind)⟩
    | additiveOperator => exact absurd kind h
    | openParen => exact ⟨_,.operatorDue (.inr kind)⟩
    | closeParen => exact ⟨_,.unopened kind⟩

theorem Fault.position_eq (fault : Fault limit stop draft rest e) (refusal : Refusal limit stop draft rest f)
    (tokens : f.TooDeep → ∀ g, .error g ∉ rest)
    (closed : ∀ sum group outer, rest = [] → draft ≠ done sum (group :: outer)) :
    e.position = f.position := by
  cases fault with
  | operandMissing | word => cases refusal; rfl
  | groupOpen => exact absurd rfl (closed _ _ _ rfl)
  | wordInside h full =>
    -- The yard is stopped by the depth and has not seen the word.
    cases refusal with
    | operandDue due => rcases due with due | due <;> cases h.symm.trans due
    | full => exact absurd (List.mem_cons_of_mem _ List.mem_cons_self) (tokens ⟨limit,rfl⟩ e)
  | operandDue | numeral | full | closingDue | leftover => cases refusal <;> rfl

theorem Fault.tooDeep_iff (fault : Fault limit stop draft rest e)
    (refusal : Refusal limit stop draft rest f) (tokens : ∀ g, .error g ∉ rest) :
    e.TooDeep ↔ f.TooDeep := by
  have shallow {cause : Cause} {position : Nat} (other : ∀ limit, cause ≠ .nestingTooDeep limit) :
      ¬Error.TooDeep ⟨cause,position⟩ := fun ⟨limit,same⟩ => other limit same
  cases fault with
  | word => exact absurd List.mem_cons_self (tokens e)
  | wordInside => exact absurd (List.mem_cons_of_mem _ List.mem_cons_self) (tokens e)
  | full h full =>
    cases refusal with
    | operandDue due => rcases due with due | due <;> cases h.symm.trans due
    | full => exact Iff.rfl
  | operandDue h | numeral h =>
    cases refusal with
    | operandDue => exact iff_of_false (shallow nofun) (shallow nofun)
    | full opens => simp_all
  | operandMissing | groupOpen | closingDue | leftover =>
    cases refusal <;> exact iff_of_false (shallow nofun) (shallow nofun)

end Draft

theorem LeavesOpen.of_run {sum : Derivation .sum} {group : OpenGroup} {outer : List OpenGroup}
    (read : Spells source ts) (run : Draft.Run limit .start ts (.done sum (group :: outer))) :
    LeavesOpen limit source group := by
  have tokens : (Draft.done sum (group :: outer)).tokens = ts := run.tokens_eq
  have nested := run.nested (Nat.zero_le _) (nestedWithin_nil.mpr (Int.natCast_nonneg limit))
  exact ⟨sum,outer,tokens ▸ read,nested⟩

theorem LeavesOpen.fault {group : OpenGroup} (leaves : LeavesOpen limit source group)
    (fit : NumeralsFit source) (read : (words source).map Word.token = ts.map .ok ++ rest)
    (run : Draft.Run limit .start ts final) (fault : Draft.Fault limit stop final rest e) :
    e = ⟨.unexpectedInput endOfInput,stop⟩ := by
  obtain ⟨sum,outer,spelled,nested⟩ := leaves
  have whole := (Draft.done sum (group :: outer)).run nested
  obtain ⟨us,vs,split,first,second⟩ := List.map_eq_append_iff.mp (spelled.symm.trans read)
  cases List.map_injective_iff.mpr (fun _ _ => Except.ok.inj) first
  rw [split] at whole
  obtain ⟨middle,before,behind⟩ := Draft.run_append.mp whole
  cases before.deterministic run
  -- The text can be read to its end, so a fault before that would be behind a step that is refused.
  cases vs with
  | nil =>
    cases second
    cases behind
    cases fault
    rfl
  | cons v vs =>
    cases second
    obtain ⟨f,refusal⟩ := fault.refused fun t => fit.inRange read
    cases behind with
    | cons step _ => exact absurd step refusal.no_step

namespace Strategy

variable {config : Config}

theorem infix_fails_iff (rejecting : config.trailingInput = .reject) :
    (∃ e, (recursiveDescent.parse config).on source = .error e) ↔
      ∃ f, (shuntingYard.parse config).on source = .error f := by
  have failing (x : Except Error Tree) : (∃ e, x = .error e) ↔ ∀ tree, x ≠ .ok tree := by
    cases x <;> simp
  simp only [failing,ne_eq,recursiveDescent_ok rejecting,shuntingYard_ok]

theorem shuntingYard_error (failed : (Postfix.convert config.maxDepth).on source = .error f) :
    (shuntingYard.parse config).on source = .error f := by
  obtain ⟨l,failed⟩ := on_error.mp failed
  exact on_error.mpr ⟨l,work_bind_error.mpr (.inl failed)⟩

/-- A parser fault is a refusal by the yard at the same draft. -/
theorem refusal_of_fault (fit : NumeralsFit source)
    (failed : (recursiveDescent.parse config).on source = .error e) :
    ∃ ts final rest f, (words source).map Word.token = ts.map .ok ++ rest ∧
      Draft.Run config.maxDepth .start ts final ∧
      Draft.Fault config.maxDepth source.utf8ByteSize final rest e ∧
      Draft.Refusal config.maxDepth source.utf8ByteSize final rest f ∧
      (shuntingYard.parse config).on source = .error f := by
  obtain ⟨ts,final,rest,read,run,fault⟩ := Grammar.fault_of_parse failed
  obtain ⟨f,refusal⟩ := fault.refused fun t => fit.inRange read
  exact ⟨ts,final,rest,f,read,run,fault,refusal,
    shuntingYard_error (Postfix.convert_of_refusal read run refusal)⟩

theorem position_eq (fit : NumeralsFit source)
    (failed : (recursiveDescent.parse config).on source = .error e)
    (again : (shuntingYard.parse config).on source = .error f) (classified : f.TooDeep → Classified source)
    (closed : ∀ group, ¬LeavesOpen config.maxDepth source group) : e.position = f.position := by
  obtain ⟨ts,final,rest,g,read,run,fault,refusal,refused⟩ := refusal_of_fault fit failed
  cases again.symm.trans refused
  refine fault.position_eq refusal (fun deep g => (classified deep).token read) ?_
  rintro sum group outer rfl rfl
  rw [List.append_nil] at read
  exact closed group (.of_run read run)

theorem tooDeep_iff (rejecting : config.trailingInput = .reject) (fit : NumeralsFit source)
    (classified : Classified source) :
    (∃ e, (recursiveDescent.parse config).on source = .error e ∧ e.TooDeep) ↔
      ∃ f, (shuntingYard.parse config).on source = .error f ∧ f.TooDeep := by
  have same {e : Error} (failed : (recursiveDescent.parse config).on source = .error e) :
      ∃ f, (shuntingYard.parse config).on source = .error f ∧ (e.TooDeep ↔ f.TooDeep) := by
    obtain ⟨ts,final,rest,f,read,run,fault,refusal,refused⟩ := refusal_of_fault fit failed
    exact ⟨f,refused,fault.tooDeep_iff refusal fun g => classified.token read⟩
  constructor
  · rintro ⟨e,failed,deep⟩
    obtain ⟨f,again,alike⟩ := same failed
    exact ⟨f,again,alike.mp deep⟩
  · rintro ⟨f,again,deep⟩
    obtain ⟨e,failed⟩ := (infix_fails_iff rejecting).mpr ⟨f,again⟩
    obtain ⟨g,refused,alike⟩ := same failed
    cases again.symm.trans refused
    exact ⟨e,failed,alike.mpr deep⟩

/-- At the end of the text the yard reports the opening parenthesis. -/
theorem shuntingYard_of_leavesOpen {group : OpenGroup} (leaves : LeavesOpen config.maxDepth source group) :
    (shuntingYard.parse config).on source =
      .error ⟨.mismatchedParentheses,group.opening.1.span.start⟩ := by
  obtain ⟨sum,outer,spelled,nested⟩ := leaves
  refine shuntingYard_error (Postfix.convert_of_refusal ?_ (Draft.run _ nested) .groupOpen)
  rw [List.append_nil]
  exact spelled

theorem recursiveDescent_of_leavesOpen {group : OpenGroup} (rejecting : config.trailingInput = .reject)
    (fit : NumeralsFit source) (leaves : LeavesOpen config.maxDepth source group) :
    (recursiveDescent.parse config).on source =
      .error ⟨.unexpectedInput endOfInput,source.utf8ByteSize⟩ := by
  obtain ⟨e,failed⟩ := (infix_fails_iff rejecting).mpr ⟨_,shuntingYard_of_leavesOpen leaves⟩
  obtain ⟨ts,final,rest,read,run,fault⟩ := Grammar.fault_of_parse failed
  rw [failed,leaves.fault fit read run fault]

/-- With trailing input rejected and numerals in range, and with all words classified or no
nesting error, the infix strategies fail on the same texts at the same position. The exception is
a group left open after a complete operand: recursive descent reports the end of the text,
shunting-yard the opening parenthesis. On classified texts nesting errors coincide. -/
theorem infix_strategies_blame_same_place (config : Config) (source : String)
    (rejecting : config.trailingInput = .reject) (fit : NumeralsFit source)
    (scope : Classified source ∨ ∀ e, e.TooDeep →
      (recursiveDescent.parse config).on source ≠ .error e ∧
      (shuntingYard.parse config).on source ≠ .error e) :
    ((∃ e, (recursiveDescent.parse config).on source = .error e) ↔
      ∃ f, (shuntingYard.parse config).on source = .error f) ∧
    ((∀ group, ¬LeavesOpen config.maxDepth source group) →
      ∀ e f, (recursiveDescent.parse config).on source = .error e →
        (shuntingYard.parse config).on source = .error f → e.position = f.position) ∧
    (∀ group, LeavesOpen config.maxDepth source group →
      (recursiveDescent.parse config).on source =
        .error ⟨.unexpectedInput endOfInput,source.utf8ByteSize⟩ ∧
      (shuntingYard.parse config).on source =
        .error ⟨.mismatchedParentheses,group.opening.1.span.start⟩) ∧
    (Classified source →
      ((∃ e, (recursiveDescent.parse config).on source = .error e ∧ e.TooDeep) ↔
        ∃ f, (shuntingYard.parse config).on source = .error f ∧ f.TooDeep)) := by
  refine ⟨infix_fails_iff rejecting,?_,?_,tooDeep_iff rejecting fit⟩
  · intro closed e f failed again
    refine position_eq fit failed again (fun deep => ?_) closed
    rcases scope with classified | shallow
    · exact classified
    · exact absurd again (shallow f deep).2
  · intro group leaves
    exact ⟨recursiveDescent_of_leavesOpen rejecting fit leaves,shuntingYard_of_leavesOpen leaves⟩

theorem infix_strategies_blame_same_place_unclosed :
    (({} : Config).trailingInput = .reject ∧ NumeralsFit "1 - ( 2" ∧ Classified "1 - ( 2" ∧
      ∃ group, LeavesOpen ({} : Config).maxDepth "1 - ( 2" group ∧
        (recursiveDescent.parse {}).on "1 - ( 2" = .error ⟨.unexpectedInput endOfInput,7⟩ ∧
        (shuntingYard.parse {}).on "1 - ( 2" = .error ⟨.mismatchedParentheses,4⟩) ∧
    NumeralsFit "1 ) x" ∧ ¬Classified "1 ) x" ∧
      ∃ e f : Error, (recursiveDescent.parse {}).on "1 ) x" = .error e ∧
        (shuntingYard.parse {}).on "1 ) x" = .error f ∧ e ≠ f ∧ e.position = f.position := by
  constructor
  · let one : Derivation .primary := .number ⟨⟨.number,"1",⟨0,1⟩⟩,rfl⟩
    let two : Derivation .primary := .number ⟨⟨.number,"2",⟨6,7⟩⟩,rfl⟩
    let group : OpenGroup :=
      ⟨.after (.single one) ⟨⟨.additiveOperator,"-",⟨2,3⟩⟩,rfl⟩,⟨⟨.openParen,"(",⟨4,5⟩⟩,rfl⟩⟩
    have leaves : LeavesOpen ({} : Config).maxDepth "1 - ( 2" group :=
      ⟨.single two,[],by rw [Spells]; decide +kernel,by decide +kernel⟩
    have fit : NumeralsFit "1 - ( 2" := by decide +kernel
    have classified : Classified "1 - ( 2" := by decide +kernel
    exact ⟨rfl,fit,classified,group,leaves,
      (infix_strategies_blame_same_place {} _ rfl fit (.inl classified)).2.2.1 group leaves⟩
  · have fit : NumeralsFit "1 ) x" := by decide +kernel
    have first : (recursiveDescent.parse {}).on "1 ) x" = .error ⟨.unexpectedInput ")",2⟩ := by
      decide +kernel
    have second : (shuntingYard.parse {}).on "1 ) x" = .error ⟨.mismatchedParentheses,2⟩ := by
      decide +kernel
    have shallow (e : Error) (deep : e.TooDeep) : (recursiveDescent.parse {}).on "1 ) x" ≠ .error e ∧
        (shuntingYard.parse {}).on "1 ) x" ≠ .error e := by
      obtain ⟨limit,cause⟩ := deep
      rw [first,second]
      constructor <;> rintro ⟨⟩ <;> cases cause
    obtain ⟨_,same,unclosed,_⟩ := infix_strategies_blame_same_place {} _ rfl fit (.inr shallow)
    refine ⟨fit,by decide +kernel,_,_,first,second,by decide,same ?_ _ _ first second⟩
    intro group leaves
    exact absurd (first.symm.trans (unclosed group leaves).1) (by decide)

end Strategy

end Reckoner
