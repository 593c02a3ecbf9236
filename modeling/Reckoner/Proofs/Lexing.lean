import Reckoner.Lexer
import Reckoner.Proofs.Partition
import Reckoner.Proofs.Work

/-! Folds over the words of a text. Feeding succeeds only if every word is classified, and is
then the fold over the tokens. -/
namespace Reckoner

variable {ε σ α β : Type}

theorem on_ok {work : LexerM α} {source : String} {a : α} :
    work.on source = .ok a ↔ ∃ l, work (Lexer.ofSource source) = .ok a l := by
  unfold LexerM.on
  cases work (Lexer.ofSource source) <;> simp

theorem on_error {work : LexerM α} {source : String} {e : Error} :
    work.on source = .error e ↔ ∃ l, work (Lexer.ofSource source) = .error e l := by
  unfold LexerM.on
  cases work (Lexer.ofSource source) <;> simp

/-- Every word is classified, and these are the tokens in order. -/
def Spells (source : String) (ts : List Token) : Prop := (words source).map Word.token = ts.map .ok

theorem Word.token_ok {w : Word} {t : Token} :
    w.token = .ok t ↔ TokenKind.ofWord? w.text = some t.kind ∧ w.text = t.text ∧ w.span = t.span := by
  unfold Word.token
  cases TokenKind.ofWord? w.text with
  | none => simp
  | some kind => cases t; simp

theorem Word.token_error {w : Word} {e : Error} : w.token = .error e ↔
    TokenKind.ofWord? w.text = none ∧ e = ⟨.unexpectedInput w.text,w.span.start⟩ := by
  unfold Word.token
  cases TokenKind.ofWord? w.text <;> simp [eq_comm]

theorem map_token_cons {w : Word} {ws : List Word} {ts : List Token} :
    (w :: ws).map Word.token = ts.map .ok ↔
      ∃ t rest, ts = t :: rest ∧ w.token = .ok t ∧ ws.map Word.token = rest.map .ok := by
  cases ts <;> simp [and_assoc]

theorem map_of_token {ofWord : Word → α} {ofToken : Token → α} {ws : List Word} {ts : List Token}
    (same : ∀ {w t}, w.token = .ok t → ofWord w = ofToken t) (tokens : ws.map Word.token = ts.map .ok) :
    ws.map ofWord = ts.map ofToken := by
  induction ws generalizing ts with
  | nil => rw [List.map_eq_nil_iff.mp tokens.symm]; rfl
  | cons w ws ih =>
    obtain ⟨t,rest,rfl,head,tail⟩ := map_token_cons.mp tokens
    rw [List.map_cons,List.map_cons,ih tail,same head]

namespace Spells

variable {source : String} {ts : List Token}

theorem unique {us : List Token} (spelled : Spells source ts) (again : Spells source us) : ts = us :=
  List.map_injective_iff.mpr (fun _ _ => Except.ok.inj) (spelled.symm.trans again)

theorem word (spelled : Spells source ts) {t : Token} (member : t ∈ ts) :
    TokenKind.ofWord? t.text = some t.kind := by
  have member : .ok t ∈ (words source).map Word.token := spelled ▸ List.mem_map_of_mem member
  obtain ⟨w,_,isToken⟩ := List.mem_map.mp member
  obtain ⟨known,text,_⟩ := Word.token_ok.mp isToken
  rw [← text,known]

theorem exists_word (spelled : Spells source ts) {t : Token} (member : t ∈ ts) :
    ∃ w ∈ words source, w.token = .ok t :=
  List.mem_map.mp (spelled ▸ List.mem_map_of_mem member)

theorem map {ofWord : Word → α} {ofToken : Token → α}
    (same : ∀ {w t}, w.token = .ok t → ofWord w = ofToken t) (spelled : Spells source ts) :
    (words source).map ofWord = ts.map ofToken :=
  map_of_token same spelled

theorem texts (spelled : Spells source ts) : (words source).map Word.text = ts.map Token.text :=
  spelled.map fun isToken => (Word.token_ok.mp isToken).2.1

theorem spans (spelled : Spells source ts) : (words source).map Word.span = ts.map Token.span :=
  spelled.map fun isToken => (Word.token_ok.mp isToken).2.2

theorem covered_iff (spelled : Spells source ts) {byte : Nat} :
    (∃ t ∈ ts, t.span.Covers byte) ↔ ∃ w ∈ words source, w.span.Covers byte := by
  have same : (∃ s ∈ ts.map Token.span, s.Covers byte) ↔
      ∃ s ∈ (words source).map Word.span, s.Covers byte := by rw [spelled.spans]
  simpa using same

end Spells

theorem fold_token_cons {step : σ → Token → Except Error σ} {s final : σ} {w : Word}
    {ws : List Word} : (∃ ts : List Token, (w :: ws).map Word.token = ts.map .ok ∧
      ts.foldlM step s = .ok final) ↔ ∃ t next, w.token = .ok t ∧ step s t = .ok next ∧
        ∃ ts : List Token, ws.map Word.token = ts.map .ok ∧ ts.foldlM step next = .ok final := by
  constructor
  · rintro ⟨ts,spelled,folded⟩
    obtain ⟨t,rest,rfl,head,tail⟩ := map_token_cons.mp spelled
    rw [List.foldlM_cons] at folded
    obtain ⟨next,stepped,folded⟩ := except_bind_ok.mp folded
    exact ⟨t,next,head,stepped,rest,tail,folded⟩
  · rintro ⟨t,next,head,stepped,rest,tail,folded⟩
    refine ⟨t :: rest,map_token_cons.mpr ⟨t,rest,rfl,head,tail⟩,?_⟩
    rw [List.foldlM_cons]
    exact except_bind_ok.mpr ⟨next,stepped,folded⟩

/-- Successful feeding is the fold over the tokens and leaves no word unread. -/
theorem Lexer.feedWords_ok {step : σ → Token → Except Error σ} {stop : Nat} {s final : σ}
    {ws : List Word} {l : Lexer} :
    feedWords step stop s ws = .ok final l ↔ l = ⟨[],stop⟩ ∧
      ∃ ts : List Token, ws.map Word.token = ts.map .ok ∧ ts.foldlM step s = .ok final := by
  induction ws generalizing s with
  | nil =>
    constructor
    · intro fed
      cases fed
      exact ⟨rfl,[],rfl,rfl⟩
    · rintro ⟨rfl,ts,spelled,folded⟩
      cases List.map_eq_nil_iff.mp spelled.symm
      cases folded
      rfl
  | cons w ws ih =>
    rw [fold_token_cons]
    unfold feedWords
    cases w.token with
    | error e =>
      refine ⟨nofun,?_⟩
      rintro ⟨_,t,next,impossible,_⟩
      cases impossible
    | ok t =>
      dsimp only
      cases stepped : step s t with
      | error e =>
        refine ⟨nofun,?_⟩
        rintro ⟨_,t,next,same,other,_⟩
        cases same
        cases stepped.symm.trans other
      | ok next =>
        simp only [ih]
        constructor
        · rintro ⟨atEnd,ts⟩
          exact ⟨atEnd,t,next,rfl,stepped,ts⟩
        · rintro ⟨atEnd,t,next,same,other,ts⟩
          cases same
          cases stepped.symm.trans other
          exact ⟨atEnd,ts⟩

theorem Lexer.feedWords_error {step : σ → Token → Except Error σ} {stop : Nat} {s : σ} {ws : List Word}
    {l : Lexer} {e : Error} (failed : feedWords step stop s ws = .error e l) :
    ∃ w ∈ ws, w.token = .error e ∨ ∃ t before, w.token = .ok t ∧ step before t = .error e := by
  induction ws generalizing s with
  | nil => cases failed
  | cons w ws ih =>
    unfold feedWords at failed
    cases token : w.token with
    | error f =>
      simp only [token] at failed
      cases failed
      exact ⟨w,List.mem_cons_self,.inl token⟩
    | ok t =>
      simp only [token] at failed
      cases stepped : step s t with
      | error f =>
        simp only [stepped] at failed
        cases failed
        exact ⟨w,List.mem_cons_self,.inr ⟨t,s,token,stepped⟩⟩
      | ok next =>
        simp only [stepped] at failed
        obtain ⟨v,member,cause⟩ := ih failed
        exact ⟨v,List.mem_cons_of_mem _ member,cause⟩

theorem Lexer.feedWords_append {step : σ → Token → Except Error σ} {stop : Nat} {s middle : σ}
    {front back : List Word} {ts : List Token} (spelled : front.map Word.token = ts.map .ok)
    (folded : ts.foldlM step s = .ok middle) :
    feedWords step stop s (front ++ back) = feedWords step stop middle back := by
  induction front generalizing s ts with
  | nil =>
    cases List.map_eq_nil_iff.mp spelled.symm
    cases folded
    rfl
  | cons w front ih =>
    obtain ⟨t,rest,rfl,head,tail⟩ := map_token_cons.mp spelled
    rw [List.foldlM_cons,except_bind_ok] at folded
    obtain ⟨next,stepped,folded⟩ := folded
    rw [List.cons_append,feedWords,head]
    dsimp only
    rw [stepped]
    exact ih tail folded

theorem feed_ok {step : σ → Token → Except Error σ} {source : String} {s final : σ}
    {l : Lexer} : Lexer.feed step s (Lexer.ofSource source) = .ok final l ↔
      l = ⟨[],source.utf8ByteSize⟩ ∧ ∃ ts, Spells source ts ∧ ts.foldlM step s = .ok final :=
  Lexer.feedWords_ok

theorem collected (ts : List Token) (front : Array Token) :
    ts.foldlM (fun tokens t => (.ok (tokens.push t) : Except Error (Array Token))) front =
      .ok (front ++ ts) := by
  induction ts generalizing front with
  | nil => simp; rfl
  | cons t ts ih =>
    change ts.foldlM _ (front.push t) = _
    rw [ih]
    simp

theorem tokenize_ok {source : String} {tokens : Array Token} :
    tokenize source = .ok tokens ↔ Spells source tokens.toList := by
  unfold tokenize Lexer.rest
  simp only [on_ok,feed_ok,collected]
  constructor
  · rintro ⟨_,rfl,ts,spelled,folded⟩
    cases folded
    simpa using spelled
  · intro spelled
    exact ⟨_,rfl,_,spelled,by simp⟩

/-- Any sublist of the tokens is in source order. -/
theorem tokens_ordered {source : String} {ts : List Token}
    (among : (ts.map Except.ok).Sublist ((words source).map Word.token)) :
    ts.Pairwise fun t u => t.span.start < u.span.start := by
  obtain ⟨ws,among,tokens⟩ := List.sublist_map_iff.mp among
  have ordered : (ws.map Word.span).Pairwise (fun a b => a.start < b.start) :=
    List.pairwise_map.mpr ((words_ordered source).sublist among)
  rwa [map_of_token (fun isToken => (Word.token_ok.mp isToken).2.2) tokens.symm,List.pairwise_map] at ordered

theorem Spells.nodup {source : String} {ts : List Token} (spelled : Spells source ts) : ts.Nodup := by
  have among : (ts.map Except.ok).Sublist ((words source).map Word.token) :=
    spelled ▸ List.Sublist.refl _
  refine (tokens_ordered among).imp ?_
  rintro t _ before rfl
  exact Nat.lt_irrefl _ before

/-- Either every word is classified or there is a first one that is not. -/
theorem tokens_or_refused (ws : List Word) : (∃ ts : List Token, ws.map Word.token = ts.map .ok) ∨
    ∃ before w after, ∃ ts : List Token, ws = before ++ w :: after ∧ before.map Word.token = ts.map .ok ∧
      TokenKind.ofWord? w.text = none := by
  induction ws with
  | nil => exact .inl ⟨[],rfl⟩
  | cons w ws ih =>
    cases token : w.token with
    | error e => exact .inr ⟨[],w,ws,[],rfl,rfl,(Word.token_error.mp token).1⟩
    | ok t =>
      rcases ih with ⟨ts,rest⟩ | ⟨before,v,after,ts,rfl,rest,refused⟩
      · exact .inl ⟨t :: ts,map_token_cons.mpr ⟨t,ts,rfl,token,rest⟩⟩
      · exact .inr ⟨w :: before,v,after,t :: ts,rfl,map_token_cons.mpr ⟨t,ts,rfl,token,rest⟩,refused⟩

theorem exists_tokens_iff {ws : List Word} : (∃ ts : List Token, ws.map Word.token = ts.map .ok) ↔
    ∀ w ∈ ws, TokenKind.ofWord? w.text ≠ none := by
  constructor
  · rintro ⟨ts,tokens⟩ w member refused
    obtain ⟨t,_,token⟩ := List.mem_map.mp (tokens ▸ List.mem_map_of_mem member)
    cases token.trans (Word.token_error.mpr ⟨refused,rfl⟩)
  · intro known
    rcases tokens_or_refused ws with tokens | ⟨before,w,after,_,rfl,_,refused⟩
    · exact tokens
    · exact absurd refused (known w (by simp))

variable {source : String}

theorem tokenize_refused {before after : List Word} {w : Word} {ts : List Token}
    (found : words source = before ++ w :: after) (tokens : before.map Word.token = ts.map .ok)
    (refused : TokenKind.ofWord? w.text = none) :
    tokenize source = .error ⟨.unexpectedInput w.text,w.span.start⟩ := by
  have token := Word.token_error.mpr ⟨refused,rfl⟩
  refine on_error.mpr ⟨⟨after,source.utf8ByteSize⟩,?_⟩
  change Lexer.feedWords _ source.utf8ByteSize #[] (words source) = _
  rw [found,Lexer.feedWords_append tokens (collected ts #[]),Lexer.feedWords,token]

theorem tokenize_error {e : Error} : tokenize source = .error e ↔ ∃ w ∈ words source,
    TokenKind.ofWord? w.text = none ∧ e = ⟨.unexpectedInput w.text,w.span.start⟩ ∧
      ∀ v ∈ words source, v.span.start < w.span.start → TokenKind.ofWord? v.text ≠ none := by
  constructor
  · intro failed
    rcases tokens_or_refused (words source) with ⟨ts,spelled⟩ | ⟨before,w,after,ts,found,tokens,refused⟩
    · have read : tokenize source = .ok ts.toArray := tokenize_ok.mpr spelled
      cases failed.symm.trans read
    · cases failed.symm.trans (tokenize_refused found tokens refused)
      refine ⟨w,by simp [found],refused,rfl,fun v member earlier => ?_⟩
      have ordered := words_ordered source
      rw [found] at member ordered
      rcases List.mem_append.mp member with member | member
      · exact exists_tokens_iff.mp ⟨ts,tokens⟩ v member
      · have notLater := (List.pairwise_append.mp ordered).2.1
        rcases List.mem_cons.mp member with rfl | member
        · exact absurd earlier (Nat.lt_irrefl _)
        · have later := List.rel_of_pairwise_cons notLater member
          omega
  · rintro ⟨w,member,refused,rfl,earlier⟩
    obtain ⟨before,after,found⟩ := List.append_of_mem member
    have ordered := words_ordered source
    rw [found] at ordered earlier
    have known : ∀ v ∈ before, TokenKind.ofWord? v.text ≠ none := fun v member =>
      earlier v (List.mem_append_left _ member)
        ((List.pairwise_append.mp ordered).2.2 v member w List.mem_cons_self)
    obtain ⟨ts,tokens⟩ := exists_tokens_iff.mpr known
    exact tokenize_refused found tokens refused

/-- On success the tokens are disjoint and in order, each has the bytes of its span and the kind
of its text, and they cover exactly the bytes of non-blank characters. Failure is at the first
maximal non-blank run that is unclassified. -/
theorem tokens_partition_text (source : String) :
    (∀ tokens, tokenize source = .ok tokens →
      (∀ t ∈ tokens, t.span.start < t.span.stop ∧
        source.toByteArray.extract t.span.start t.span.stop = t.text.toByteArray ∧
        TokenKind.ofWord? t.text = some t.kind) ∧
      tokens.toList.Pairwise (fun t u => t.span.stop < u.span.start) ∧
      ∀ front c back byte, source.toList = front ++ c :: back →
        Text.byteSize front ≤ byte → byte < Text.byteSize (front ++ [c]) →
        ((∃ t ∈ tokens, t.span.Covers byte) ↔ Text.isBlank c = false)) ∧
    (∀ e, tokenize source = .error e ↔ ∃ w, Text.Maximal 0 source.toList w ∧
      TokenKind.ofWord? w.text = none ∧ e = ⟨.unexpectedInput w.text,w.span.start⟩ ∧
      ∀ v, Text.Maximal 0 source.toList v → v.span.start < w.span.start →
        TokenKind.ofWord? v.text ≠ none) ∧
    ((∃ tokens, tokenize source = .ok tokens) ↔
      ∀ w, Text.Maximal 0 source.toList w → TokenKind.ofWord? w.text ≠ none) := by
  simp only [← mem_words_iff]
  refine ⟨fun tokens read => ?_,fun e => tokenize_error,?_⟩
  · have spelled := tokenize_ok.mp read
    refine ⟨fun t member => ?_,?_,fun front c back byte split lower upper => ?_⟩
    · obtain ⟨w,isWord,token⟩ := spelled.exists_word (Array.mem_toList_iff.mpr member)
      obtain ⟨known,text,span⟩ := Word.token_ok.mp token
      have maximal := mem_words_iff.mp isWord
      rw [← span,← text]
      exact ⟨maximal.nonempty,maximal.bytes,known⟩
    · have apart : ((words source).map Word.span).Pairwise fun s s' => s.stop < s'.start :=
        List.pairwise_map.mpr (words_apart source)
      rwa [spelled.spans,List.pairwise_map] at apart
    · rw [← (Text.laid_words source).covers split ((Nat.zero_add _).trans_le lower)
        (upper.trans_eq (Nat.zero_add _).symm),← spelled.covered_iff]
      simp only [Array.mem_toList_iff]
  · rw [← exists_tokens_iff]
    constructor
    · rintro ⟨tokens,read⟩
      exact ⟨tokens.toList,tokenize_ok.mp read⟩
    · rintro ⟨ts,spelled⟩
      exact ⟨ts.toArray,tokenize_ok.mpr spelled⟩

theorem tokens_partition_text_wide_blanks :
    let source := "\u3000-5 \t\u00a0( 007"
    let tokens := #[⟨.number,"-5",⟨3,5⟩⟩,⟨.openParen,"(",⟨9,10⟩⟩,⟨.number,"007",⟨11,14⟩⟩]
    (tokenize source = .ok tokens ∧ source.toByteArray.extract 11 14 = "007".toByteArray ∧
      ¬∃ t ∈ tokens, Span.Covers t.span 8) ∧
    tokenize "1\u2003é +x" = .error ⟨.unexpectedInput "é",4⟩ ∧
    (∃ w, Text.Maximal 0 "1\u2003é +x".toList w ∧ w.text = "é") ∧
    ¬∀ w, Text.Maximal 0 "1\u2003é +x".toList w → TokenKind.ofWord? w.text ≠ none := by
  intro source tokens
  have read : tokenize source = .ok tokens := by decide +kernel
  have failed : tokenize "1\u2003é +x" = .error ⟨.unexpectedInput "é",4⟩ := by decide +kernel
  obtain ⟨each,_,cover⟩ := (tokens_partition_text source).1 tokens read
  obtain ⟨_,refused,accepted⟩ := tokens_partition_text "1\u2003é +x"
  refine ⟨⟨read,(each ⟨.number,"007",⟨11,14⟩⟩ (by decide +kernel)).2.1,?_⟩,failed,?_,?_⟩
  · have blank := cover "\u3000-5 \t".toList '\u00a0' "( 007".toList 8 (by decide) (by decide) (by decide)
    exact fun covered => absurd (blank.mp covered) (by decide)
  · obtain ⟨w,maximal,_,same,_⟩ := (refused _).mp failed
    exact ⟨w,maximal,(Cause.unexpectedInput.inj (Error.mk.inj same).1).symm⟩
  · intro all
    obtain ⟨tokens,read⟩ := accepted.mpr all
    cases failed.symm.trans read

end Reckoner
