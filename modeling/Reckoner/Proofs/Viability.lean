import Reckoner.Proofs.Refusal
import Reckoner.Proofs.Rendering

/-! Viable inputs. Every draft can be completed, and its steps depend on the word texts only, so
a refused word is refused after the same words in every text. -/
namespace Reckoner

namespace Draft

variable {limit : Nat} {draft other middle final : Draft} {t u : Token} {ts us : List Token}

/-- Whether an operand is due, and the number of open groups. -/
def phase : Draft → Bool × Nat
  | due _ outer => (true,outer.length)
  | done _ outer => (false,outer.length)

theorem Step.alike (step : Step limit draft t final) (same : other.phase = draft.phase)
    (kind : u.kind = t.kind) : ∃ next, Step limit other u next ∧ next.phase = final.phase := by
  cases step with
  | number h =>
    cases other with
    | done => cases same
    | due gap outer => exact ⟨_,.number (kind.trans h),by simpa [phase] using same⟩
  | operator h =>
    cases other with
    | due => cases same
    | done sum outer => exact ⟨_,.operator (kind.trans h),by simpa [phase] using same⟩
  | opening h room =>
    cases other with
    | done => cases same
    | due gap outer =>
      have length := (Prod.mk.inj same).2
      exact ⟨_,.opening (kind.trans h) (length ▸ room),by simpa [phase] using length⟩
  | closing h =>
    cases other with
    | due => cases same
    | done sum outer =>
      have length := (Prod.mk.inj same).2
      cases outer with
      | nil => cases length
      | cons group outer => exact ⟨_,.closing (kind.trans h),by simpa [phase] using length⟩

theorem Run.alike (run : Run limit draft ts final) (same : other.phase = draft.phase)
    (kinds : us.map Token.kind = ts.map Token.kind) :
    ∃ next, Run limit other us next ∧ next.phase = final.phase := by
  induction run generalizing other us with
  | nil =>
    cases List.map_eq_nil_iff.mp kinds
    exact ⟨other,.nil,same⟩
  | cons step _ ih =>
    obtain ⟨u,us,rfl,kind,kinds⟩ := List.map_eq_cons_iff.mp kinds
    obtain ⟨next,first,same⟩ := step.alike same kind
    obtain ⟨last,rest,same⟩ := ih same kinds
    exact ⟨last,.cons first rest,same⟩

def zero : Token := ⟨.number,"0",⟨0,0⟩⟩
def closing : Token := ⟨.closeParen,")",⟨0,0⟩⟩

/-- A completion of the draft: an operand if one is due, then all closing parentheses. -/
def remedy : Draft → List Token
  | due _ outer => zero :: List.replicate outer.length closing
  | done _ outer => List.replicate outer.length closing

theorem remedy_spelled (draft : Draft) : ∀ t ∈ draft.remedy, t.Spelled := by
  have closes (n : Nat) : ∀ t ∈ List.replicate n closing, t.Spelled := by
    intro t member
    rw [List.eq_of_mem_replicate member]
    rfl
  cases draft with
  | due gap outer => exact List.forall_mem_cons.mpr ⟨rfl,closes _⟩
  | done sum outer => exact closes _

theorem run_closing (sum : Derivation .sum) (outer : List OpenGroup) :
    ∃ whole, Run limit (done sum outer) (List.replicate outer.length closing) (done whole []) := by
  induction outer generalizing sum with
  | nil => exact ⟨sum,.nil⟩
  | cons group outer ih =>
    obtain ⟨whole,run⟩ := ih (group.gap.fill (.group group.opening sum ⟨closing,rfl⟩))
    exact ⟨whole,.cons (.closing rfl) run⟩

theorem run_remedy (draft : Draft) : ∃ whole, Run limit draft draft.remedy (done whole []) := by
  cases draft with
  | due gap outer =>
    obtain ⟨whole,run⟩ := run_closing (gap.fill (.number ⟨zero,rfl⟩)) outer
    exact ⟨whole,.cons (.number rfl) run⟩
  | done sum outer => exact run_closing sum outer

theorem phase_done {draft : Draft} {sum : Derivation .sum} (same : draft.phase = (done sum []).phase) :
    ∃ whole, draft = done whole [] := by
  cases draft with
  | due => cases same
  | done whole outer => exact ⟨whole,by rw [List.length_eq_zero_iff.mp (Prod.mk.inj same).2]⟩

end Draft

namespace Postfix

variable {limit : Nat} {source : String} {ts : List Token} {draft : Draft}

theorem convert_append_remedy (read : Spells source ts) (run : Draft.Run limit .start ts draft) :
    ∃ output, (convert limit).on (source ++ (" " ++ render draft.remedy)) = .ok output := by
  obtain ⟨added,split,texts⟩ := words_append_blank source (render draft.remedy)
  rw [texts_render draft.remedy_spelled] at texts
  obtain ⟨us,tokens,alike⟩ := tokens_of_texts draft.remedy_spelled texts
  have kinds : us.map Token.kind = draft.remedy.map Token.kind := by
    have same := congrArg (List.map Token.kind) alike
    simpa only [List.map_map,Function.comp_def,Token.unplaced] using same
  obtain ⟨whole,mended⟩ := draft.run_remedy
  obtain ⟨last,mended,phase⟩ := mended.alike rfl kinds
  obtain ⟨sum,rfl⟩ := Draft.phase_done phase
  obtain ⟨same,nested⟩ := Draft.run_done_iff.mp (run.append mended)
  have spelled : Spells (source ++ (" " ++ render draft.remedy)) sum.tokens := by
    rw [Spells,← String.append_assoc,split,List.map_append,read,tokens,← List.map_append,same]
  exact ⟨_,convert_ok.mpr ⟨sum,spelled,same ▸ nested,List.toList_toArray⟩⟩

theorem kinds_of_texts {us : List Token} (spelled : ∀ t ∈ ts, t.Spelled)
    (again : ∀ u ∈ us, u.Spelled) (texts : us.map Token.text = ts.map Token.text) :
    us.map Token.kind = ts.map Token.kind := by
  have known {ts : List Token} (spelled : ∀ t ∈ ts, t.Spelled) :
      (ts.map Token.kind).map some = (ts.map Token.text).map TokenKind.ofWord? := by
    rw [List.map_map,List.map_map]
    exact List.map_congr_left fun t member => (spelled t member).symm
  apply List.map_injective_iff.mpr fun _ _ => Option.some.inj
  rw [known again,known spelled,texts]

/-- A refused word is refused in every text with the same words up to it. -/
theorem not_accepted_of_refusal {other : String} {w : Word} {rest : List (Except Error Token)}
    {stop : Nat} {e : Error} {output : Array Token} (read : Spells source ts)
    (run : Draft.Run limit .start ts draft)
    (refusal : Draft.Refusal limit stop draft (w.token :: rest) e)
    (begins : (words source ++ [w]).map Word.text <+: (words other).map Word.text) :
    (convert limit).on other ≠ .ok output := by
  intro accepted
  obtain ⟨d,spells,nested,_⟩ := convert_ok.mp accepted
  have whole : Draft.Run limit .start d.tokens (.done d []) := Draft.run_done_iff.mpr ⟨rfl,nested⟩
  -- The tokens of the accepted text have the texts of the refused one, up to the word in question.
  obtain ⟨more,texts⟩ := begins
  rw [spells.texts,List.map_append,List.append_assoc,read.texts] at texts
  obtain ⟨us,behind,split,earlier,later⟩ := List.map_eq_append_iff.mp texts.symm
  obtain ⟨u,vs,rfl,text,_⟩ := List.map_eq_cons_iff.mp later
  have spelled {u : Token} (member : u ∈ d.tokens) : u.Spelled := spells.word member
  rw [split] at whole
  obtain ⟨middle,first,second⟩ := Draft.run_append.mp whole
  have kinds : us.map Token.kind = ts.map Token.kind :=
    kinds_of_texts (fun t => read.word) (fun u member => spelled (by simp [split,member])) earlier
  -- So the draft that is refused is in the same phase as one that goes on.
  obtain ⟨same,again,phase⟩ := first.alike rfl kinds.symm
  cases again.deterministic run
  have known : TokenKind.ofWord? w.text = some u.kind := by
    rw [← text]
    exact spelled (by simp [split])
  have token : w.token = .ok ⟨u.kind,w.text,w.span⟩ := Word.token_ok.mpr ⟨known,rfl,rfl⟩
  rw [token] at refusal
  cases second with
  | cons step _ =>
    obtain ⟨next,step,_⟩ := step.alike (u := ⟨u.kind,w.text,w.span⟩) phase rfl
    exact refusal.no_step step

/-- The error is consistent with truncated input: an operand is missing at the end, or a group
is open. -/
def Unfinished (source : String) (e : Error) : Prop :=
  e.cause = .unexpectedInput endOfInput ∨
    e.cause = .mismatchedParentheses ∧ ∃ w ∈ words source, w.text = "(" ∧ e.position = w.span.start

instance (source : String) (e : Error) : Decidable (Unfinished source e) :=
  inferInstanceAs (Decidable (_ ∨ _ ∧ _))

theorem unfinished_of_end {stop : Nat} {e : Error} (read : Spells source ts)
    (run : Draft.Run limit .start ts draft) (refusal : Draft.Refusal limit stop draft [] e) :
    Unfinished source e := by
  cases refusal with
  | operandMissing => exact .inl rfl
  | @groupOpen sum group outer =>
    obtain ⟨w,isWord,token⟩ := read.exists_word run.opening_mem
    obtain ⟨known,text,span⟩ := Word.token_ok.mp token
    rw [group.opening.2] at known
    exact .inr ⟨rfl,w,isWord,TokenKind.ofWord_opening known,by rw [span]⟩

/-- The refusal of a word is at its start and is never `Unfinished`. -/
theorem refusal_at_word {w : Word} {rest : List (Except Error Token)} {stop : Nat} {e : Error}
    (member : w ∈ words source) (refusal : Draft.Refusal limit stop draft (w.token :: rest) e) :
    e.position = w.span.start ∧ ¬Unfinished source e := by
  cases token : w.token with
  | error f =>
    rw [token] at refusal
    obtain ⟨_,rfl⟩ := Word.token_error.mp token
    cases refusal
    refine ⟨rfl,?_⟩
    rintro (missing | ⟨impossible,_⟩)
    · exact Word.text_ne_endOfInput member (Cause.unexpectedInput.inj missing)
    · cases impossible
  | ok t =>
    rw [token] at refusal
    obtain ⟨known,_,span⟩ := Word.token_ok.mp token
    rw [span]
    cases refusal with
    | operandDue h | operatorDue h | full h =>
      refine ⟨rfl,?_⟩
      rintro (impossible | ⟨impossible,_⟩) <;> cases impossible
    | unopened h =>
      refine ⟨rfl,?_⟩
      rintro (impossible | ⟨_,v,isWord,opens,place⟩)
      · cases impossible
      · cases words_eq_of_start isWord member (by rw [span]; exact place.symm)
        rw [opens,h] at known
        exact absurd known (by decide)

/-- Conversion errors are as early as possible. An unfinished text has an accepted extension.
Otherwise the position is that of a word such that the text before it has an accepted extension,
and no accepted text starts with the words up to and including it. -/
theorem convert_refuses_first_irreparable (config : Config) (source : String) (e : Error)
    (failed : (convert config.maxDepth).on source = .error e) :
    (Unfinished source e →
      ∃ more output, (convert config.maxDepth).on (source ++ more) = .ok output) ∧
    (¬Unfinished source e → ∃ before w after, words source = before ++ w :: after ∧
      e.position = w.span.start ∧
      (∃ front back, source = front ++ back ∧ words front = before ∧
        front.utf8ByteSize = w.span.start ∧
        ∃ more output, (convert config.maxDepth).on (front ++ more) = .ok output) ∧
      ∀ other, (before ++ [w]).map Word.text <+: (words other).map Word.text →
        ∀ output, (convert config.maxDepth).on other ≠ .ok output) := by
  obtain ⟨ts,draft,rest,read,run,refusal⟩ := convert_error.mp failed
  obtain ⟨before,behind,split,spelled,ahead⟩ := List.map_eq_append_iff.mp read
  cases behind with
  | nil =>
    cases ahead
    rw [List.append_nil] at split
    have read : Spells source ts := by rw [Spells,split,spelled]
    refine ⟨fun _ => ?_,fun finished => absurd (unfinished_of_end read run refusal) finished⟩
    exact ⟨_,convert_append_remedy read run⟩
  | cons w after =>
    cases ahead
    obtain ⟨place,finished⟩ := refusal_at_word (split ▸ List.mem_append_cons_self) refusal
    refine ⟨fun unfinished => absurd unfinished finished,fun _ => ?_⟩
    obtain ⟨front,back,same,earlier,start⟩ := words_cut split
    have read : Spells front ts := by rw [Spells,earlier,spelled]
    have mended := convert_append_remedy read run
    refine ⟨before,w,after,split,place,⟨front,back,same,earlier,start.symm,_,mended⟩,?_⟩
    intro other begins output
    rw [← earlier] at begins
    exact not_accepted_of_refusal read run refusal begins

theorem convert_refuses_first_irreparable_unclosed :
    ((convert ({} : Config).maxDepth).on "1 - ( 2" = .error ⟨.mismatchedParentheses,4⟩ ∧
      ∃ more output, (convert ({} : Config).maxDepth).on ("1 - ( 2" ++ more) = .ok output) ∧
    (convert 1).on "( 1 - ( 2" = .error ⟨.nestingTooDeep 1,6⟩ ∧
      ∃ before w after, words "( 1 - ( 2" = before ++ w :: after ∧ w.span.start = 6 ∧
        ∀ other, (before ++ [w]).map Word.text <+: (words other).map Word.text →
          ∀ output, (convert 1).on other ≠ .ok output := by
  constructor
  · have failed : (convert ({} : Config).maxDepth).on "1 - ( 2" = .error ⟨.mismatchedParentheses,4⟩ := by
      decide +kernel
    exact ⟨failed,(convert_refuses_first_irreparable {} _ _ failed).1 (by decide +kernel)⟩
  · have failed : (convert 1).on "( 1 - ( 2" = .error ⟨.nestingTooDeep 1,6⟩ := by decide +kernel
    obtain ⟨before,w,after,split,place,_,never⟩ :=
      (convert_refuses_first_irreparable ⟨1,.reject,.checked⟩ _ _ failed).2 (by decide +kernel)
    exact ⟨failed,before,w,after,split,place.symm,never⟩

end Postfix

end Reckoner
