import Reckoner.Proofs.Fault
import Reckoner.Proofs.Movement
import Reckoner.Proofs.Scanning

/-! Parser sessions: arbitrary sequences of public requests, continued after errors. Sessions
are monotone in the text, and a parser without a lookahead stays at the end. -/
namespace Reckoner

namespace Parser

inductive Request where
  | expect (kind : TokenKind)
  | enterGroup (position : Nat)
  | exitGroup
  | finish (trailing : TrailingInput)
  | sum
  | primary
  | group
  | number
  deriving DecidableEq, Repr

inductive Answer where
  | token (t : Token)
  | tree (tree : Tree)
  | done
  deriving DecidableEq, Repr

namespace Request

def perform : Request → ParserM Answer
  | expect kind => do return .token (← Parser.expect kind)
  | enterGroup position => do Parser.enterGroup position; return .done
  | exitGroup => do Parser.exitGroup; return .done
  | finish trailing => do Parser.finish trailing; return .done
  | sum => do return .tree (← Grammar.sum)
  | primary => do return .tree (← Grammar.primary)
  | group => do return .tree (← Grammar.group)
  | number => do return .tree (← Grammar.number)

/-- A group can be left only while one is open. -/
def Allowed (p : Parser) : Request → Prop
  | exitGroup => 0 < p.depth
  | _ => True

def Reads : Request → Prop
  | expect _ | sum | primary | group | number => True
  | enterGroup _ | exitGroup | finish _ => False

end Request

abbrev Log := List (Request × Except Error Answer)

def Answer.tokens : Answer → List Token
  | token t => [t]
  | tree _ | done => []

/-- Tokens returned by the session, in order. -/
def Log.tokens : Log → List Token
  | [] => []
  | (_,.ok answer) :: log => answer.tokens ++ Log.tokens log
  | (_,.error _) :: log => Log.tokens log

inductive Session : Parser → Log → Parser → Prop where
  | nil : Session p [] p
  | done (allowed : request.Allowed p) (success : request.perform p = .ok answer q) :
      Session q log r → Session p ((request,.ok answer) :: log) r
  | failed (allowed : request.Allowed p) (failure : request.perform p = .error e q) :
      Session q log r → Session p ((request,.error e) :: log) r

variable {p q r start : Parser} {ts : List Token} {request : Request} {answer : Answer} {e : Error}
  {log early late : Log} {source : String} {maxDepth : Nat}

theorem finish_steady (trailing : TrailingInput) : Steady (Parser.finish trailing) := by
  refine .of_same (fun success => (finish_ok.mp success).1) ?_
  intro p q e failed
  unfold finish at failed
  split at failed
  · cases failed
    rfl
  · cases failed

theorem Steady.answering {α : Type} {work : ParserM α} (steady : Steady work) (f : α → Answer) :
    Steady (do return f (← work) : ParserM Answer) :=
  steady.bind fun _ => .of_same (fun success => (EStateM.Result.ok.inj success).2.symm) nofun

theorem Request.success_moves (allowed : request.Allowed p) (success : request.perform p = .ok answer q) :
    ∃ ts, Moves p ts q ∧ answer.tokens.Sublist ts := by
  have parsed {work : ParserM Tree} (steady : Steady work)
      (success : (do return .tree (← work) : ParserM Answer) p = .ok answer q) :
      ∃ ts, Moves p ts q ∧ answer.tokens.Sublist ts := by
    obtain ⟨tree,middle,ran,rest⟩ := work_bind_ok.mp success
    obtain ⟨rfl,rfl⟩ := EStateM.Result.ok.inj rest
    obtain ⟨⟨ts,moves⟩,_⟩ := steady.success ran
    exact ⟨ts,moves,List.nil_sublist _⟩
  cases request with
  | expect kind =>
    obtain ⟨t,middle,expected,rest⟩ := work_bind_ok.mp success
    obtain ⟨rfl,rfl⟩ := EStateM.Result.ok.inj rest
    exact ⟨[t],(expect_move expected).1.moves,List.Sublist.refl _⟩
  | enterGroup position =>
    obtain ⟨_,middle,entered,rest⟩ := work_bind_ok.mp success
    obtain ⟨rfl,rfl⟩ := EStateM.Result.ok.inj rest
    obtain ⟨room,rfl⟩ := enterGroup_ok.mp entered
    exact ⟨[],(Move.enter room).moves,List.nil_sublist _⟩
  | exitGroup =>
    cases success
    exact ⟨[],(Move.leave allowed).moves,List.nil_sublist _⟩
  | finish trailing =>
    obtain ⟨_,middle,finished,rest⟩ := work_bind_ok.mp success
    obtain ⟨rfl,rfl⟩ := EStateM.Result.ok.inj rest
    obtain ⟨⟨ts,moves⟩,_⟩ := (finish_steady trailing).success finished
    exact ⟨ts,moves,List.nil_sublist _⟩
  | sum => exact parsed Grammar.sum_steady success
  | primary => exact parsed Grammar.primary_steady success
  | group => exact parsed Grammar.group_steady success
  | number => exact parsed Grammar.number_steady success

theorem Request.failure_moves (failure : request.perform p = .error e q) : ∃ ts, Moves p ts q := by
  cases request with
  | expect kind => exact ((expect_steady kind).answering _).failure failure
  | enterGroup position =>
    rcases work_bind_error.mp failure with failed | ⟨_,_,_,impossible⟩
    · unfold Parser.enterGroup at failed
      split at failed
      · cases failed
        exact ⟨[],.nil⟩
      · cases failed
    · cases impossible
  | exitGroup => cases failure
  | finish trailing => exact ((finish_steady trailing).bind fun _ => .of_same
      (fun success => (EStateM.Result.ok.inj success).2.symm) nofun).failure failure
  | sum => exact (Grammar.sum_steady.answering _).failure failure
  | primary => exact (Grammar.primary_steady.answering _).failure failure
  | group => exact (Grammar.group_steady.answering _).failure failure
  | number => exact (Grammar.number_steady.answering _).failure failure

theorem Session.moves (session : Session p log q) : ∃ ts, Moves p ts q ∧ log.tokens.Sublist ts := by
  induction session with
  | nil => exact ⟨[],.nil,List.Sublist.refl _⟩
  | done allowed success _ ih =>
    obtain ⟨ts,first,handed⟩ := Request.success_moves allowed success
    obtain ⟨us,rest,later⟩ := ih
    exact ⟨ts ++ us,first.append rest,handed.append later⟩
  | failed _ failure _ ih =>
    obtain ⟨ts,first⟩ := Request.failure_moves failure
    obtain ⟨us,rest,later⟩ := ih
    exact ⟨ts ++ us,first.append rest,later.trans (List.sublist_append_right ts us)⟩

/-- The lookahead and the unread words are final words of the text; the words before them were
consumed or lost. -/
structure Placed (source : String) (p : Parser) : Prop where
  split : ∃ read look, words source = read ++ look ++ p.lexer.unread ∧
    look.map Word.token = p.lookahead.toList.map .ok
  stop : p.lexer.stop = source.utf8ByteSize

theorem Placed.look (placed : Placed source p) {t : Token} (look : p.lookahead = some t) :
    ∃ read w, words source = read ++ w :: p.lexer.unread ∧ t.span = w.span := by
  obtain ⟨read,look',split,same⟩ := placed.split
  rw [look] at same
  obtain ⟨w,_,rfl,token,none⟩ := List.map_eq_cons_iff.mp same
  obtain rfl := List.map_eq_nil_iff.mp none
  exact ⟨read,w,by simpa using split,(Word.token_ok.mp token).2.2.symm⟩

theorem Placed.position_le (placed : Placed source p) : p.position ≤ source.utf8ByteSize := by
  unfold position
  cases look : p.lookahead with
  | none => exact Nat.le_of_eq placed.stop
  | some t =>
    obtain ⟨read,w,split,span⟩ := placed.look look
    have member : w ∈ words source := by simp [split]
    have := words_start_lt member
    simp only [span]
    omega

theorem Placed.move (placed : Placed source p) (move : Move p ts q) :
    Placed source q ∧ p.position ≤ q.position := by
  -- Where the lookahead is gone, the position is the end.
  have atEnd {q : Parser} (gone : q.lookahead = none) (stop : q.lexer.stop = p.lexer.stop) :
      p.position ≤ q.position := by
    have := placed.position_le
    simp only [position,gone,stop,placed.stop] at this ⊢
    exact this
  cases move with
  | last look unread =>
    obtain ⟨read,w,split,_⟩ := placed.look look
    exact ⟨⟨⟨read ++ [w],[],by simpa using split,rfl⟩,placed.stop⟩,atEnd rfl rfl⟩
  | @next _ v ws _ u look unread token =>
    obtain ⟨read,w,split,span⟩ := placed.look look
    rw [unread] at split
    refine ⟨⟨⟨read ++ [w],[v],by simpa using split,by simp [token]⟩,placed.stop⟩,?_⟩
    have ordered := words_ordered source
    rw [split,List.pairwise_append,List.pairwise_cons] at ordered
    have before : w.span.start < v.span.start := ordered.2.1.1 v (by simp)
    simp only [position,look,span,← (Word.token_ok.mp token).2.2]
    omega
  | @lose _ v ws _ _ look unread refused =>
    obtain ⟨read,w,split,_⟩ := placed.look look
    rw [unread] at split
    exact ⟨⟨⟨read ++ [w,v],[],by simpa using split,rfl⟩,placed.stop⟩,atEnd rfl rfl⟩
  | enter room => exact ⟨⟨placed.split,placed.stop⟩,Nat.le_refl _⟩
  | leave inside => exact ⟨⟨placed.split,placed.stop⟩,Nat.le_refl _⟩

theorem Placed.moves (placed : Placed source p) (moves : Moves p ts q) :
    Placed source q ∧ p.position ≤ q.position := by
  induction moves with
  | nil => exact ⟨placed,Nat.le_refl _⟩
  | cons move _ ih =>
    obtain ⟨middle,first⟩ := placed.move move
    obtain ⟨final,rest⟩ := ih middle
    exact ⟨final,Nat.le_trans first rest⟩

theorem placed_ofSource (started : ofSource source maxDepth = .ok start) : Placed source start := by
  obtain ⟨l,started⟩ := on_ok.mp started
  refine ⟨?_,Grammar.start_stop started⟩
  unfold Parser.start Lexer.next at started
  cases unread : (Lexer.ofSource source).unread with
  | nil =>
    simp only [unread] at started
    cases started
    exact ⟨[],[],rfl,rfl⟩
  | cons w ws =>
    cases token : w.token with
    | error e => simp [unread,token] at started
    | ok t =>
      simp only [unread,token] at started
      cases started
      exact ⟨[],[w],unread,by simp [token]⟩

theorem Request.ended (reads : request.Reads) (ended : p.lookahead = none) :
    request.perform p = .error ⟨.unexpectedInput endOfInput,p.lexer.stop⟩ p := by
  cases request with
  | expect kind => exact work_bind_error.mpr (.inl (expect_ended ended kind))
  | sum => exact work_bind_error.mpr (.inl (work_bind_error.mpr (.inl (Grammar.primaryWithin_ended ended _))))
  | primary => exact work_bind_error.mpr (.inl (Grammar.primaryWithin_ended ended _))
  | group => exact work_bind_error.mpr (.inl (Grammar.groupOf_ended ended _))
  | number => exact work_bind_error.mpr (.inl (Grammar.number_ended ended))
  | enterGroup | exitGroup | finish => exact absurd reads id

theorem Session.ended (session : Session p log q) (ended : p.lookahead = none) :
    ∀ entry ∈ log, entry.1.Reads → entry.2 = .error ⟨.unexpectedInput endOfInput,p.lexer.stop⟩ := by
  induction session with
  | nil => exact nofun
  | done allowed success _ ih =>
    obtain ⟨ts,moves,_⟩ := Request.success_moves allowed success
    obtain ⟨_,stays,lexer⟩ := moves.keeps.ended ended
    rw [lexer] at ih
    refine List.forall_mem_cons.mpr ⟨fun reads => ?_,ih stays⟩
    cases success.symm.trans (Request.ended reads ended)
  | failed _ failure _ ih =>
    obtain ⟨ts,moves⟩ := Request.failure_moves failure
    obtain ⟨_,stays,lexer⟩ := moves.keeps.ended ended
    rw [lexer] at ih
    refine List.forall_mem_cons.mpr ⟨fun reads => ?_,ih stays⟩
    cases failure.symm.trans (Request.ended reads ended)
    rfl

/-- Over any session, the depth is within the limit, words are pulled from the front and never
returned, tokens are handed out in source order without repetition, and the position does not
decrease. Once the lookahead is absent the parser remains at the end of the text, pulls no word,
and refuses every request for a token. -/
theorem sessions_go_forward (source : String) (maxDepth : Nat) (start p q : Parser) (early late : Log)
    (started : ofSource source maxDepth = .ok start) (before : Session start early p)
    (after : Session p late q) :
    p.depth ≤ maxDepth ∧
    (∃ pulled more, words source = pulled ++ p.lexer.unread ∧ p.lexer.unread = more ++ q.lexer.unread) ∧
    (∃ handed, Moves start handed q ∧ (early.tokens ++ late.tokens).Sublist handed ∧
      (handed.map Except.ok).Sublist ((words source).map Word.token) ∧
      handed.Pairwise fun t u => t.span.start < u.span.start) ∧
    p.position ≤ q.position ∧
    (p.lookahead = none → q.lookahead = none ∧ q.position = source.utf8ByteSize ∧ q.lexer = p.lexer ∧
      ∀ entry ∈ late, entry.1.Reads →
        entry.2 = .error ⟨.unexpectedInput endOfInput,source.utf8ByteSize⟩) := by
  obtain ⟨l,run⟩ := on_ok.mp started
  obtain ⟨sane,ahead,depth,limit⟩ := Grammar.start_ahead run
  obtain ⟨ts,toP,first⟩ := before.moves
  obtain ⟨us,toQ,second⟩ := after.moves
  obtain ⟨placed,_⟩ := (placed_ofSource started).moves toP
  have whole := toP.append toQ
  have among : ((ts ++ us).map Except.ok).Sublist ((words source).map Word.token) := by
    have tokens := (List.sublist_append_left _ _).trans whole.keeps.ahead
    rwa [ahead] at tokens
  refine ⟨?_,?_,⟨ts ++ us,whole,first.append second,among,tokens_ordered among⟩,(placed.moves toQ).2,?_⟩
  · rw [← limit,← toP.keeps.maxDepth]
    exact toP.keeps.within sane.within
  · obtain ⟨read,look,split,_⟩ := placed.split
    obtain ⟨more,unread⟩ := toQ.keeps.unread
    exact ⟨read ++ look,more,split,unread.symm⟩
  · intro ended
    obtain ⟨_,stays,lexer⟩ := toQ.keeps.ended ended
    refine ⟨stays,?_,lexer,?_⟩
    · simp only [position,stays,lexer,placed.stop]
    · rw [← placed.stop]
      exact after.ended ended

/-- An unclassified word leaves the second number of the text unread for the rest of the session. -/
theorem sessions_go_forward_lost_word :
    let opening : Token := ⟨.openParen,"(",⟨0,1⟩⟩
    let start : Parser := ⟨⟨[⟨"1",2,3⟩,⟨"x",4,5⟩,⟨"2",6,7⟩],7⟩,some opening,0,1⟩
    let p : Parser := ⟨⟨[⟨"2",6,7⟩],7⟩,none,1,1⟩
    let q : Parser := ⟨⟨[⟨"2",6,7⟩],7⟩,none,0,1⟩
    let atEnd : Error := ⟨.unexpectedInput endOfInput,7⟩
    let early : Log := [(.expect .number,.error ⟨.unexpectedTokenType .number .openParen "(",0⟩),
      (.expect .openParen,.ok (.token opening)),(.enterGroup 0,.ok .done),
      (.enterGroup 0,.error ⟨.nestingTooDeep 1,0⟩),(.sum,.error ⟨.unexpectedInput "x",4⟩)]
    let late : Log := [(.exitGroup,.ok .done),(.expect .number,.error atEnd),(.group,.error atEnd)]
    ofSource "( 1 x 2" 1 = .ok start ∧ Session start early p ∧ Session p late q ∧
      p.depth ≤ 1 ∧ p.position ≤ q.position ∧ q.position = "( 1 x 2".utf8ByteSize ∧
      ∃ handed, Moves start handed q ∧ [opening].Sublist handed := by
  intro opening start p q atEnd early late
  have started : ofSource "( 1 x 2" 1 = .ok start := by decide +kernel
  have before : Session start early p :=
    .failed trivial rfl (.done trivial rfl (.done trivial rfl (.failed trivial rfl
      (.failed trivial rfl .nil))))
  have after : Session p late q :=
    .done Nat.one_pos rfl (.failed trivial rfl (.failed trivial rfl .nil))
  obtain ⟨depth,_,⟨handed,moves,among,_⟩,forward,ended⟩ :=
    sessions_go_forward "( 1 x 2" 1 start p q early late started before after
  exact ⟨started,before,after,depth,forward,(ended rfl).2.1,handed,moves,among⟩

end Parser

end Reckoner
