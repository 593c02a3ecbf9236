import Reckoner.Proofs.Lexing

/-! Lexers under arbitrary interleavings of `next`, iteration and collection, continued after
errors and with clones taken on the way. A lexer delivers the words of its text once and in
order, independently of its clones. -/
namespace Reckoner.Lexer

/-- The three ways to pull words: one token, one item of an iteration, or all that remain. -/
inductive Request where
  | next
  | item
  | rest
  deriving DecidableEq, Repr

inductive Answer where
  | next (result : Except Error (Option Token))
  | item (result : Option (Except Error Token))
  | rest (result : Except Error (Array Token))
  deriving DecidableEq

def settle {α : Type} (work : LexerM α) (l : Lexer) : Except Error α × Lexer :=
  match work l with
  | .ok a l => (.ok a,l)
  | .error e l => (.error e,l)

/-- An iteration yields errors as items and stops when there is no token. -/
def asItem : Except Error (Option Token) → Option (Except Error Token)
  | .ok none => none
  | .ok (some t) => some (.ok t)
  | .error e => some (.error e)

def Request.perform (l : Lexer) : Request → Answer × Lexer
  | next => (settle Lexer.next l).map .next id
  | item => (settle Lexer.next l).map (fun result => .item (asItem result)) id
  | rest => (settle Lexer.rest l).map .rest id

structure Call where
  request : Request
  answer : Answer
  more : Bool
  deriving DecidableEq

def call (l : Lexer) (request : Request) : Call × Lexer :=
  let (answer,l) := request.perform l
  (⟨request,answer,l.hasMore⟩,l)

def alone (l : Lexer) : List Request → List Call × Lexer
  | [] => ([],l)
  | request :: requests =>
    let (call,l) := l.call request
    let (calls,l) := l.alone requests
    (call :: calls,l)

/-- Lexers are numbered. A clone takes the next free number. -/
inductive Deed where
  | ask (number : Nat) (request : Request)
  | copy (number : Nat)
  deriving DecidableEq, Repr

/-- Calls in execution order, each with its lexer, and the final lexers. Requests to unused
numbers have no effect. -/
def drive (lexers : List Lexer) : List Deed → List (Nat × Call) × List Lexer
  | [] => ([],lexers)
  | .copy number :: deeds => drive (lexers ++ lexers[number]?.toList) deeds
  | .ask number request :: deeds =>
    match lexers[number]? with
    | none => drive lexers deeds
    | some l =>
      let (call,l) := l.call request
      let (log,lexers) := drive (lexers.set number l) deeds
      ((number,call) :: log,lexers)

def Deed.requestOf? (number : Nat) : Deed → Option Request
  | ask other request => if other = number then some request else none
  | copy _ => none

def requestsOf (number : Nat) (deeds : List Deed) : List Request := deeds.filterMap (Deed.requestOf? number)

def callsOf (number : Nat) (log : List (Nat × Call)) : List Call :=
  (log.filter (·.1 = number)).map Prod.snd

/-- The answer owed for a word: its token, or an error at its span. -/
inductive Told (w : Word) : Except Error Token → Prop where
  | token (known : TokenKind.ofWord? w.text = some kind) : Told w (.ok ⟨kind,w.text,w.span⟩)
  | refusal (unknown : TokenKind.ofWord? w.text = none) :
    Told w (.error ⟨.unexpectedInput w.text,w.span.start⟩)

/-- Words pulled by a request, words left unread, and the answer. -/
inductive Pulls : Request → List Word → List Word → Answer → Prop where
  | next (told : Told w result) : Pulls .next [w] left (.next (result.map some))
  | noNext : Pulls .next [] [] (.next (.ok none))
  | item (told : Told w result) : Pulls .item [w] left (.item (some result))
  | noItem : Pulls .item [] [] (.item none)
  | rest (told : List.Forall₂ (fun w t => Told w (.ok t)) pulled ts) :
    Pulls .rest pulled [] (.rest (.ok ts.toArray))
  | refused (told : List.Forall₂ (fun w t => Told w (.ok t)) before ts) (refused : Told w (.error e)) :
    Pulls .rest (before ++ [w]) left (.rest (.error e))

/-- A sequence of calls splits the words into consecutive blocks, one for each call, and a
remainder. -/
inductive Delivers : List Word → List Call → List (List Word) → List Word → Prop where
  | done : Delivers left [] [] left
  | call (pulls : Pulls c.request pulled waiting c.answer) (more : c.more = true ↔ waiting ≠ [])
      (later : Delivers waiting calls blocks left) :
    Delivers (pulled ++ waiting) (c :: calls) (pulled :: blocks) left

def Answer.nothing : Request → Answer
  | .next => next (.ok none)
  | .item => item none
  | .rest => rest (.ok #[])

section

variable {w : Word} {ws : List Word} {ts : List Token} {result : Except Error Token} {l : Lexer}
  {request : Request} {waiting left : List Word} {calls : List Call} {blocks : List (List Word)}

theorem told_token (w : Word) : Told w w.token := by
  cases token : w.token with
  | ok t =>
    obtain ⟨known,text,span⟩ := Word.token_ok.mp token
    have same : t = ⟨t.kind,w.text,w.span⟩ := by rw [text,span]
    rw [same]
    exact .token known
  | error e =>
    obtain ⟨unknown,rfl⟩ := Word.token_error.mp token
    exact .refusal unknown

theorem told_of_token (token : w.token = result) : Told w result :=
  token ▸ told_token w

theorem told_tokens (tokens : ws.map Word.token = ts.map .ok) :
    List.Forall₂ (fun w t => Told w (.ok t)) ws ts := by
  induction ws generalizing ts with
  | nil =>
    cases List.map_eq_nil_iff.mp tokens.symm
    exact .nil
  | cons w ws ih =>
    obtain ⟨t,rest,rfl,head,tail⟩ := map_token_cons.mp tokens
    exact .cons (told_of_token head) (ih tail)

theorem hasMore_iff (l : Lexer) : l.hasMore = true ↔ l.unread ≠ [] := by
  simp [hasMore]

theorem settle_next_cons (w : Word) (waiting : List Word) (stop : Nat) :
    settle next ⟨w :: waiting,stop⟩ = (w.token.map some,⟨waiting,stop⟩) := by
  unfold settle next
  dsimp only
  cases w.token <;> rfl

theorem rest_tokens (tokens : l.unread.map Word.token = ts.map .ok) :
    rest l = .ok ts.toArray ⟨[],l.stop⟩ :=
  feedWords_ok.mpr ⟨rfl,ts,tokens,by simpa using collected ts #[]⟩

theorem rest_refused {before : List Word} {e : Error} (split : l.unread = before ++ w :: left)
    (tokens : before.map Word.token = ts.map .ok) (token : w.token = .error e) :
    rest l = .error e ⟨left,l.stop⟩ := by
  rw [rest,feed,split,feedWords_append tokens (collected ts #[]),feedWords,token]

/-- Every request pulls a block from the front of the unread words. -/
theorem perform_pulls (l : Lexer) (request : Request) : ∃ pulled left answer,
    request.perform l = (answer,⟨left,l.stop⟩) ∧ l.unread = pulled ++ left ∧
      Pulls request pulled left answer := by
  cases request with
  | next =>
    cases l with | mk unread stop =>
    cases unread with
    | nil => exact ⟨[],[],_,rfl,rfl,.noNext⟩
    | cons w left =>
      refine ⟨[w],left,_,?_,rfl,.next (told_token w)⟩
      simp [Request.perform,settle_next_cons]
  | item =>
    cases l with | mk unread stop =>
    cases unread with
    | nil => exact ⟨[],[],_,rfl,rfl,.noItem⟩
    | cons w left =>
      refine ⟨[w],left,_,?_,rfl,.item (told_token w)⟩
      rw [Request.perform,settle_next_cons]
      cases w.token <;> rfl
  | rest =>
    rcases tokens_or_refused l.unread with ⟨ts,tokens⟩ | ⟨before,w,left,ts,split,tokens,unknown⟩
    · refine ⟨l.unread,[],_,?_,by simp,.rest (told_tokens tokens)⟩
      rw [Request.perform,settle,rest_tokens tokens]
      rfl
    · have token := Word.token_error.mpr ⟨unknown,rfl⟩
      refine ⟨before ++ [w],left,_,?_,by simp [split],.refused (told_tokens tokens) (told_of_token token)⟩
      rw [Request.perform,settle,rest_refused split tokens token]
      rfl

theorem alone_delivers (l : Lexer) (requests : List Request) : ∃ calls blocks left,
    l.alone requests = (calls,⟨left,l.stop⟩) ∧ calls.map Call.request = requests ∧
      Delivers l.unread calls blocks left := by
  induction requests generalizing l with
  | nil => exact ⟨[],[],l.unread,rfl,rfl,.done⟩
  | cons request requests ih =>
    obtain ⟨pulled,waiting,answer,performed,split,pulls⟩ := perform_pulls l request
    obtain ⟨calls,blocks,left,goneOn,asked,delivers⟩ := ih ⟨waiting,l.stop⟩
    refine ⟨⟨request,answer,hasMore ⟨waiting,l.stop⟩⟩ :: calls,pulled :: blocks,left,?_,by simp [asked],?_⟩
    · simp [alone,call,performed,goneOn]
    · rw [split]
      exact .call pulls (hasMore_iff _) delivers

theorem Delivers.words (delivers : Delivers waiting calls blocks left) : waiting = blocks.flatten ++ left := by
  induction delivers with
  | done => rfl
  | call _ _ _ ih => rw [ih,List.flatten_cons,List.append_assoc]

theorem Pulls.nothing {answer : Answer} (pulls : Pulls request [] [] answer) : answer = .nothing request := by
  generalize none : [] = pulled at pulls
  cases pulls with
  | noNext | noItem => rfl
  | next | item => cases none
  | rest told =>
    cases none
    cases told
    rfl
  | refused => simp at none

theorem Delivers.nothing (delivers : Delivers [] calls blocks left) :
    ∀ c ∈ calls, c.answer = .nothing c.request ∧ c.more = false := by
  generalize none : [] = waiting at delivers
  induction delivers with
  | done => simp
  | call pulls more _ ih =>
    obtain ⟨rfl,rfl⟩ := List.append_eq_nil_iff.mp none.symm
    refine List.forall_mem_cons.mpr ⟨⟨pulls.nothing,?_⟩,ih rfl⟩
    simpa using more

theorem alone_append (l : Lexer) (requests later : List Request) : l.alone (requests ++ later) =
    ((l.alone requests).1 ++ ((l.alone requests).2.alone later).1,((l.alone requests).2.alone later).2) := by
  induction requests generalizing l with
  | nil => rfl
  | cons request requests ih => simp [alone,ih]

end

theorem drive_alone {lexers : List Lexer} {number : Nat} {l : Lexer} (there : lexers[number]? = some l)
    (deeds : List Deed) : callsOf number (drive lexers deeds).1 = (l.alone (requestsOf number deeds)).1 ∧
      (drive lexers deeds).2[number]? = some (l.alone (requestsOf number deeds)).2 := by
  induction deeds generalizing lexers l with
  | nil => exact ⟨rfl,there⟩
  | cons deed deeds ih =>
    cases deed with
    | copy other =>
      apply ih
      obtain ⟨inside,_⟩ := List.getElem?_eq_some_iff.mp there
      rw [List.getElem?_append_left inside,there]
    | ask other request =>
      by_cases same : other = number
      · subst other
        have kept : (lexers.set number (l.call request).2)[number]? = some (l.call request).2 := by
          obtain ⟨inside,_⟩ := List.getElem?_eq_some_iff.mp there
          exact List.getElem?_set_self inside
        obtain ⟨calls,final⟩ := ih kept
        simp only [drive,there]
        refine ⟨?_,?_⟩
        · simpa [callsOf,requestsOf,Deed.requestOf?,alone] using calls
        · simpa [requestsOf,Deed.requestOf?,alone] using final
      · -- Whatever becomes of the other lexer, this one is as it was.
        have skipped : requestsOf number (.ask other request :: deeds) = requestsOf number deeds := by
          simp [requestsOf,Deed.requestOf?,same]
        rw [skipped]
        cases found : lexers[other]? with
        | none =>
          simp only [drive,found]
          exact ih there
        | some m =>
          have kept : (lexers.set other (m.call request).2)[number]? = some l := by
            rw [List.getElem?_set_ne same,there]
          obtain ⟨calls,final⟩ := ih kept
          simp only [drive,found]
          exact ⟨by simpa [callsOf,same] using calls,final⟩

/-- Under any interleaving, the original lexer answers its own requests from consecutive blocks
of the words, in order and without repetition. It has more words iff some are unpulled, and
answers nothing afterwards. Requests to clones have no effect on it. -/
theorem words_delivered_once (source : String) (deeds later : List Deed) :
    let lexers := [ofSource source]
    let calls := callsOf 0 (drive lexers deeds).1
    ∃ (blocks : List (List Word)) (left : List Word) (l : Lexer),
      words source = blocks.flatten ++ left ∧ Delivers (words source) calls blocks left ∧
      calls.map Call.request = requestsOf 0 deeds ∧
      calls = ((ofSource source).alone (requestsOf 0 deeds)).1 ∧
      (drive lexers deeds).2[0]? = some l ∧ l.unread = left ∧ (l.hasMore = true ↔ left ≠ []) ∧
      ∃ further, callsOf 0 (drive lexers (deeds ++ later)).1 = calls ++ further ∧
        further.map Call.request = requestsOf 0 later ∧
        (left = [] → ∀ c ∈ further, c.answer = .nothing c.request ∧ c.more = false) := by
  intro lexers calls
  have there : lexers[0]? = some (ofSource source) := rfl
  obtain ⟨own,final⟩ := drive_alone there deeds
  obtain ⟨both,_⟩ := drive_alone there (deeds ++ later)
  obtain ⟨first,blocks,left,asked,requests,delivers⟩ := alone_delivers (ofSource source) (requestsOf 0 deeds)
  obtain ⟨further,_,_,goneOn,others,after⟩ := alone_delivers ⟨left,source.utf8ByteSize⟩ (requestsOf 0 later)
  change (ofSource source).alone (requestsOf 0 deeds) = (first,⟨left,source.utf8ByteSize⟩) at asked
  have same : calls = first := by rw [show calls = _ from own,asked]
  refine ⟨blocks,left,⟨left,source.utf8ByteSize⟩,delivers.words,same ▸ delivers,same ▸ requests,own,?_,rfl,
    hasMore_iff _,further,?_,others,?_⟩
  · rw [final,asked]
  · have split : requestsOf 0 (deeds ++ later) = requestsOf 0 deeds ++ requestsOf 0 later :=
      List.filterMap_append
    rw [both,split,alone_append,asked,goneOn,same]
  · rintro rfl
    exact after.nothing

/-- A collection ends at its first unclassified word; a drained clone does not affect the
original. -/
theorem words_delivered_once_bad_words :
    let source := "1 ? ( x"
    let deeds := [.copy 0,.ask 1 .rest,.ask 1 .rest,.ask 0 .rest,.ask 0 .item,.copy 0,.ask 2 .next,.ask 0 .rest]
    let later := [.ask 0 .next,.ask 2 .rest,.copy 2,.ask 0 .rest]
    let calls : List Call := [⟨.rest,.rest (.error ⟨.unexpectedInput "?",2⟩),true⟩,
      ⟨.item,.item (some (.ok ⟨.openParen,"(",⟨4,5⟩⟩)),true⟩,
      ⟨.rest,.rest (.error ⟨.unexpectedInput "x",6⟩),false⟩]
    callsOf 0 (drive [ofSource source] deeds).1 = calls ∧
    callsOf 1 (drive [ofSource source] deeds).1 = [⟨.rest,.rest (.error ⟨.unexpectedInput "?",2⟩),true⟩,
      ⟨.rest,.rest (.error ⟨.unexpectedInput "x",6⟩),false⟩] ∧
    ∃ further, callsOf 0 (drive [ofSource source] (deeds ++ later)).1 = calls ++ further ∧
      further.map Call.request = [.next,.rest] ∧
      ∀ c ∈ further, c.answer = .nothing c.request ∧ c.more = false := by
  intro source deeds later calls
  have made : callsOf 0 (drive [ofSource source] deeds).1 = calls := by decide +kernel
  have final : (drive [ofSource source] deeds).2[0]? = some ⟨[],7⟩ := by decide +kernel
  obtain ⟨_,_,l,_,_,_,_,found,rfl,_,further,goneOn,asked,nothing⟩ := words_delivered_once source deeds later
  cases final.symm.trans found
  exact ⟨made,by decide +kernel,further,made ▸ goneOn,asked,nothing rfl⟩

end Reckoner.Lexer
