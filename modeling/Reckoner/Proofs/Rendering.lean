import Reckoner.Proofs.Ledger
import Reckoner.Proofs.Scanning

/-! Rendering and re-lexing. Every classified text is a single word, so rendered tokens are read
back with the same kinds and texts at new positions. -/
namespace Reckoner

theorem Text.isBlank_of_isDigit {c : Char} (digit : c.isDigit = true) : isBlank c = false := by
  simp only [Char.isDigit,Bool.and_eq_true,decide_eq_true_eq,ge_iff_le,UInt32.le_iff_toNat_le] at digit
  change 48 ≤ c.toNat ∧ c.toNat ≤ 57 at digit
  simp only [isBlank,Bool.or_eq_false_iff,Bool.and_eq_false_iff,decide_eq_false_iff_not,beq_eq_false_iff_ne]
  omega

namespace TokenKind

theorem ofWord_number {text : String} (known : ofWord? text = some .number) :
    ∃ digits, Text.isDigits digits = true ∧ (text.toList = digits ∨ text.toList = '-' :: digits) := by
  unfold ofWord? at known
  split at known
  next => cases known
  next => cases known
  next => cases known
  next => cases known
  next digits _ spelled =>
    split at known
    next numeral => exact ⟨digits,numeral,.inr spelled⟩
    next => cases known
  next =>
    split at known
    next numeral => exact ⟨_,numeral,.inl rfl⟩
    next => cases known

theorem solid {text : String} {kind : TokenKind} (known : ofWord? text = some kind) :
    Text.Solid text := by
  cases kind with
  | number =>
    obtain ⟨digits,numeral,spelled⟩ := ofWord_number known
    simp only [Text.isDigits,Bool.and_eq_true,Bool.not_eq_true',List.isEmpty_eq_false_iff,
      List.all_eq_true] at numeral
    have unbroken : ∀ c ∈ digits, Text.isBlank c = false := fun c member =>
      Text.isBlank_of_isDigit (numeral.2 c member)
    rcases spelled with spelled | spelled
    · exact ⟨fun none => numeral.1 (by simpa [none] using spelled.symm),spelled ▸ unbroken⟩
    · refine ⟨fun none => by simp [none] at spelled,?_⟩
      rw [spelled]
      exact List.forall_mem_cons.mpr ⟨rfl,unbroken⟩
  | additiveOperator =>
    rcases ofWord_operator known with rfl | rfl <;>
      exact ⟨by decide,List.forall_mem_singleton.mpr rfl⟩
  | openParen =>
    rw [ofWord_opening known]
    exact ⟨by decide,List.forall_mem_singleton.mpr rfl⟩
  | closeParen =>
    rw [ofWord_closing known]
    exact ⟨by decide,List.forall_mem_singleton.mpr rfl⟩

end TokenKind

/-- The marker for missing input contains blanks, so no word equals it. -/
theorem Word.text_ne_endOfInput {source : String} {w : Word} (member : w ∈ words source) :
    w.text ≠ endOfInput := by
  intro same
  have broken := (Word.solid member).unbroken ' '
  rw [same] at broken
  exact absurd (broken (by decide)) (by decide)

/-- The token with its span erased. -/
def Token.unplaced (t : Token) : Token := { t with span := ⟨0,0⟩ }

theorem Token.unplaced_eq {t u : Token} :
    t.unplaced = u.unplaced ↔ t.kind = u.kind ∧ t.text = u.text := by
  simp [unplaced]

theorem tokens_of_texts {ws : List Word} {ts : List Token} (spelled : ∀ t ∈ ts, t.Spelled)
    (texts : ws.map Word.text = ts.map Token.text) : ∃ us : List Token,
      ws.map Word.token = us.map .ok ∧ us.map Token.unplaced = ts.map Token.unplaced := by
  induction ts generalizing ws with
  | nil =>
    rw [List.map_eq_nil_iff.mp texts]
    exact ⟨[],rfl,rfl⟩
  | cons t ts ih =>
    obtain ⟨known,spelled⟩ := List.forall_mem_cons.mp spelled
    obtain ⟨w,ws,rfl,text,texts⟩ := List.map_eq_cons_iff.mp texts
    obtain ⟨us,rest,same⟩ := ih spelled texts
    have first : w.token = .ok ⟨t.kind,t.text,w.span⟩ := by
      rw [Word.token_ok,text]
      exact ⟨known,rfl,rfl⟩
    refine ⟨⟨t.kind,t.text,w.span⟩ :: us,?_,?_⟩
    · rw [List.map_cons,List.map_cons,first,rest]
    · rw [List.map_cons,List.map_cons,same]
      rfl

theorem words_render {ts : List Token} (spelled : ∀ t ∈ ts, t.Spelled) :
    words (Postfix.render ts) = Text.inRow 0 (ts.map Token.text) := by
  refine words_intercalate fun text listed => ?_
  obtain ⟨t,member,rfl⟩ := List.mem_map.mp listed
  exact TokenKind.solid (spelled t member)

theorem texts_render {ts : List Token} (spelled : ∀ t ∈ ts, t.Spelled) :
    (words (Postfix.render ts)).map Word.text = ts.map Token.text := by
  rw [words_render spelled,Text.inRow_texts]

/-- Rendered tokens lex to the same kinds and texts. The first starts at zero, each span has the
length of its text, and neighbours are one byte apart, independently of the original spans. -/
theorem tokenize_render (ts : List Token) (spelled : ∀ t ∈ ts, t.Spelled) :
    ∃ tokens, tokenize (Postfix.render ts) = .ok tokens ∧
      tokens.toList.map Token.kind = ts.map Token.kind ∧
      tokens.toList.map Token.text = ts.map Token.text ∧
      (∀ t ∈ tokens.toList.head?, t.span.start = 0) ∧
      (∀ t ∈ tokens, t.span.stop = t.span.start + t.text.utf8ByteSize) ∧
      tokens.toList.IsChain fun t u => u.span.start = t.span.stop + 1 := by
  obtain ⟨us,readBack,same⟩ := tokens_of_texts spelled (texts_render spelled)
  have spells : Spells (Postfix.render ts) us := readBack
  have row := words_render spelled
  have spans : (Text.inRow 0 (ts.map Token.text)).map Word.span = us.map Token.span := row ▸ spells.spans
  refine ⟨us.toArray,tokenize_ok.mpr spells,?_,?_,?_,?_,?_⟩
  · simpa [Function.comp_def,Token.unplaced] using congrArg (List.map Token.kind) same
  · simpa [Function.comp_def,Token.unplaced] using congrArg (List.map Token.text) same
  · intro t first
    have first : t.span ∈ (us.map Token.span).head? := by
      rw [List.head?_map]
      exact Option.mem_map_of_mem _ first
    rw [← spans,List.head?_map] at first
    obtain ⟨w,head,span⟩ := Option.map_eq_some_iff.mp first
    rw [← span]
    exact Text.inRow_head 0 _ w head
  · intro t member
    obtain ⟨w,isWord,token⟩ := spells.exists_word (by simpa using member)
    obtain ⟨_,text,span⟩ := Word.token_ok.mp token
    rw [← text,← span]
    exact Text.inRow_size 0 _ w (row ▸ isWord)
  · have chain : (us.map Token.span).IsChain fun s s' => s'.start = s.stop + 1 := by
      rw [← spans,List.isChain_map]
      exact Text.inRow_chain 0 _
    rwa [List.isChain_map] at chain

theorem tokenize_render_signs :
    let ts : List Token := [⟨.additiveOperator,"-",⟨7,7⟩⟩,⟨.number,"-5",⟨0,9⟩⟩,⟨.closeParen,")",⟨3,1⟩⟩,
      ⟨.additiveOperator,"+",⟨0,0⟩⟩,⟨.number,"099999999999999999999",⟨4,5⟩⟩]
    (∀ t ∈ ts, t.Spelled) ∧ Postfix.render ts = "- -5 ) + 099999999999999999999" ∧
      ∃ tokens, tokenize (Postfix.render ts) = .ok tokens ∧
        tokens.toList.map Token.text = ["-","-5",")","+","099999999999999999999"] ∧
        tokens.toList.IsChain fun t u => u.span.start = t.span.stop + 1 := by
  intro ts
  have spelled : ∀ t ∈ ts, t.Spelled := by
    unfold Token.Spelled
    decide +kernel
  obtain ⟨tokens,readBack,_,texts,_,_,chain⟩ := tokenize_render ts spelled
  exact ⟨spelled,by decide +kernel,tokens,readBack,texts,chain⟩

end Reckoner
