import Reckoner.Proofs.Conversion

/-! Refusals of the yard. Reading stops where the draft has no step: at the end, at an
unclassified word, or at a token out of place. Conversion fails exactly there. -/
namespace Reckoner

open Postfix

namespace Draft

/-- Reason that a draft has no step on the input ahead, in a text of `stop` bytes. -/
inductive Refusal (limit stop : Nat) : Draft → List (Except Error Token) → Error → Prop where
  | operandMissing : Refusal limit stop (due gap outer) [] ⟨.unexpectedInput endOfInput,stop⟩
  | groupOpen : Refusal limit stop (done sum (group :: outer)) []
      ⟨.mismatchedParentheses,group.opening.1.span.start⟩
  | word : Refusal limit stop draft (.error e :: rest) e
  | operandDue (h : t.kind = .additiveOperator ∨ t.kind = .closeParen) :
      Refusal limit stop (due gap outer) (.ok t :: rest) (outOfTurn t)
  | full (h : t.kind = .openParen) (full : limit ≤ outer.length) :
      Refusal limit stop (due gap outer) (.ok t :: rest) ⟨.nestingTooDeep limit,t.span.start⟩
  | operatorDue (h : t.kind = .number ∨ t.kind = .openParen) :
      Refusal limit stop (done sum outer) (.ok t :: rest) (outOfTurn t)
  | unopened (h : t.kind = .closeParen) :
      Refusal limit stop (done sum []) (.ok t :: rest) ⟨.mismatchedParentheses,t.span.start⟩

variable {limit stop : Nat} {draft final : Draft} {t : Token} {rest : List (Except Error Token)}
  {e : Error}

theorem Refusal.accept (refusal : Refusal limit stop draft (.ok t :: rest) e) :
    Yard.accept limit draft.yard t = .error e := by
  cases refusal with
  | operandDue h => rcases h with h | h <;> simp [Yard.accept,h,yard]
  | full h full => simp [Yard.accept,h,yard,full]
  | operatorDue h => rcases h with h | h <;> simp [Yard.accept,h,yard]
  | unopened h =>
    simp only [Yard.accept,h,dropWhile_waiting,OpenGroup.waiting]
    rfl

theorem Refusal.finish (refusal : Refusal limit stop draft [] e) :
    draft.yard.finish stop = .error e := by
  cases refusal with
  | operandMissing => rfl
  | groupOpen =>
    simp only [Yard.finish,dropWhile_waiting,OpenGroup.waiting]
    rfl

theorem Refusal.no_step (refusal : Refusal limit stop draft (.ok t :: rest) e) {next : Draft} :
    ¬Step limit draft t next := by
  intro step
  cases step.accept.symm.trans refusal.accept

theorem step_or_refusal (limit stop : Nat) (draft : Draft) (t : Token)
    (rest : List (Except Error Token)) : (∃ next, Step limit draft t next) ∨
      ∃ e, Refusal limit stop draft (.ok t :: rest) e := by
  cases draft with
  | due gap outer =>
    cases kind : t.kind with
    | number => exact .inl ⟨_,.number kind⟩
    | additiveOperator => exact .inr ⟨_,.operandDue (.inl kind)⟩
    | openParen =>
      by_cases room : outer.length < limit
      · exact .inl ⟨_,.opening kind room⟩
      · exact .inr ⟨_,.full kind (Nat.not_lt.mp room)⟩
    | closeParen => exact .inr ⟨_,.operandDue (.inr kind)⟩
  | done sum outer =>
    cases kind : t.kind with
    | number => exact .inr ⟨_,.operatorDue (.inl kind)⟩
    | additiveOperator => exact .inl ⟨_,.operator kind⟩
    | openParen => exact .inr ⟨_,.operatorDue (.inr kind)⟩
    | closeParen =>
      cases outer with
      | nil => exact .inr ⟨_,.unopened kind⟩
      | cons group outer => exact .inl ⟨_,.closing kind⟩

theorem completes_or_refused (limit stop : Nat) (draft : Draft) (items : List (Except Error Token)) :
    (∃ ts sum, items = ts.map .ok ∧ Run limit draft ts (done sum [])) ∨
      ∃ ts final rest e, items = ts.map .ok ++ rest ∧ Run limit draft ts final ∧
        Refusal limit stop final rest e := by
  induction items generalizing draft with
  | nil =>
    cases draft with
    | due gap outer => exact .inr ⟨[],_,[],_,rfl,.nil,.operandMissing⟩
    | done sum outer =>
      cases outer with
      | nil => exact .inl ⟨[],sum,rfl,.nil⟩
      | cons group outer => exact .inr ⟨[],_,[],_,rfl,.nil,.groupOpen⟩
  | cons item items ih =>
    cases item with
    | error e => exact .inr ⟨[],_,_,e,rfl,.nil,.word⟩
    | ok t =>
      rcases step_or_refusal limit stop draft t items with ⟨next,step⟩ | ⟨e,refusal⟩
      · rcases ih next with ⟨ts,sum,rfl,run⟩ | ⟨ts,final,rest,e,rfl,run,refusal⟩
        · exact .inl ⟨t :: ts,sum,rfl,.cons step run⟩
        · exact .inr ⟨t :: ts,final,rest,e,rfl,.cons step run,refusal⟩
      · exact .inr ⟨[],draft,_,e,rfl,.nil,refusal⟩

end Draft

namespace Postfix

variable {limit : Nat} {source : String} {e : Error}

theorem convert_of_refusal {ts : List Token} {final : Draft} {rest : List (Except Error Token)}
    (read : (words source).map Word.token = ts.map .ok ++ rest) (run : Draft.Run limit .start ts final)
    (refusal : Draft.Refusal limit source.utf8ByteSize final rest e) :
    (convert limit).on source = .error e := by
  obtain ⟨front,back,split,spelled,ahead⟩ := List.map_eq_append_iff.mp read
  have folded : ts.foldlM (Yard.accept limit) {} = .ok final.yard :=
    Draft.foldlM_accept.mpr ⟨final,run,rfl⟩
  have fed : Lexer.feed (Yard.accept limit) {} (Lexer.ofSource source) =
      Lexer.feedWords (Yard.accept limit) source.utf8ByteSize final.yard back := by
    change Lexer.feedWords _ _ _ (words source) = _
    rw [split,Lexer.feedWords_append spelled folded]
    rfl
  rw [on_error,convert]
  cases back with
  | nil =>
    cases ahead
    refine ⟨⟨[],source.utf8ByteSize⟩,(work_bind_eq fed).trans ?_⟩
    change (MonadExcept.ofExcept (final.yard.finish source.utf8ByteSize) : LexerM (Array Token)) _ = _
    rw [refusal.finish]
    rfl
  | cons w back =>
    cases ahead
    refine ⟨⟨back,source.utf8ByteSize⟩,work_bind_error.mpr (.inl (fed.trans ?_))⟩
    rw [Lexer.feedWords]
    cases token : w.token with
    | error e =>
      rw [List.map_cons,token] at refusal
      cases refusal
      rfl
    | ok t =>
      rw [List.map_cons,token] at refusal
      dsimp only
      rw [refusal.accept]

/-- Conversion errors are exactly the refusals of the draft read from the text. -/
theorem convert_error : (convert limit).on source = .error e ↔ ∃ ts final rest,
    (words source).map Word.token = ts.map .ok ++ rest ∧ Draft.Run limit .start ts final ∧
      Draft.Refusal limit source.utf8ByteSize final rest e := by
  constructor
  · intro failed
    rcases Draft.completes_or_refused limit source.utf8ByteSize .start ((words source).map Word.token)
      with ⟨ts,sum,read,run⟩ | ⟨ts,final,rest,f,read,run,refusal⟩
    · obtain ⟨rfl,nested⟩ := Draft.run_done_iff.mp run
      have converted := convert_ok.mpr ⟨sum,read,nested,List.toList_toArray⟩
      cases failed.symm.trans converted
    · cases failed.symm.trans (convert_of_refusal read run refusal)
      exact ⟨ts,final,rest,read,run,refusal⟩
  · rintro ⟨ts,final,rest,read,run,refusal⟩
    exact convert_of_refusal read run refusal

end Postfix

end Reckoner
