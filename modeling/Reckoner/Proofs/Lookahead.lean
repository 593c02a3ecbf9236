import Reckoner.Proofs.Session

/-! Refusals by `expect`. An absent token or one of another kind is left in place. A token of
the requested kind is taken before the next word is pulled, so if that word is unclassified both
are lost and the parser remains at the end of the text. -/
namespace Reckoner.Parser

/-- The lookahead has the requested kind and the next word is unclassified. -/
def Overreaches (kind : TokenKind) (p : Parser) : Prop :=
  p.kind? = some kind ∧ ∃ w rest e, p.lexer.unread = w :: rest ∧ w.token = .error e

variable {p q : Parser} {t : Token} {e : Error} {kind : TokenKind} {source : String}

/-- A refusal changes nothing or loses two words. -/
theorem expect_refused (failed : expect kind p = .error e q) :
    (q = p ∧ p.kind? ≠ some kind) ∨ ∃ t w rest, p.lookahead = some t ∧ t.kind = kind ∧
      p.lexer.unread = w :: rest ∧ w.token = .error e ∧
        q = { p with lexer := ⟨rest,p.lexer.stop⟩, lookahead := none } := by
  have result := expects kind p
  rw [failed] at result
  cases result with
  | ended look => exact .inl ⟨rfl,by simp [kind?,look]⟩
  | other look other => exact .inl ⟨rfl,by simpa [kind?,look] using other⟩
  | lost look same unread refused => exact .inr ⟨_,_,_,look,same,unread,refused,rfl⟩

theorem expect_lookahead (look : p.lookahead = some t) :
    (∃ q, expect t.kind p = .ok t q) ∨ p.Overreaches t.kind := by
  cases attempt : expect t.kind p with
  | ok u q =>
    have result := expects t.kind p
    rw [attempt] at result
    cases result with
    | last found same | next found same =>
      obtain rfl := Option.some.inj (found.symm.trans look)
      exact .inl ⟨_,rfl⟩
  | error e q =>
    have here : p.kind? = some t.kind := by rw [kind?,look]; rfl
    rcases expect_refused attempt with ⟨_,other⟩ | ⟨_,w,rest,_,_,unread,refused,_⟩
    · exact absurd here other
    · exact .inr ⟨here,w,rest,e,unread,refused⟩

/-- In every session state, a refused `expect` leaves the parser unchanged iff it does not
overreach, and the lookahead is then still available. If it overreaches, the lookahead and the
next word are lost, the depth is kept, the position jumps to the end, and every later request
for a token is refused there. -/
theorem refusal_consumes_only_overreaching (source : String) (maxDepth : Nat) (start p q : Parser) (log : Log)
    (kind : TokenKind) (e : Error) (started : ofSource source maxDepth = .ok start)
    (session : Session start log p) (failed : expect kind p = .error e q) :
    (q = p ↔ ¬p.Overreaches kind) ∧
    (¬p.Overreaches kind → ∀ t, p.lookahead = some t →
      (∃ r, expect t.kind q = .ok t r) ∨ q.Overreaches t.kind) ∧
    (p.Overreaches kind → q.lookahead = none ∧ q.depth = p.depth ∧
      p.position < source.utf8ByteSize ∧ q.position = source.utf8ByteSize ∧
      (∃ w, p.lexer.unread = w :: q.lexer.unread ∧ w.token = .error e) ∧
      ∀ later r, Session q later r → ∀ entry ∈ later, entry.1.Reads →
        entry.2 = .error ⟨.unexpectedInput endOfInput,source.utf8ByteSize⟩) := by
  obtain ⟨_,moves,_⟩ := session.moves
  obtain ⟨placed,_⟩ := (placed_ofSource started).moves moves
  rcases expect_refused failed with ⟨rfl,other⟩ | ⟨t,w,rest,look,same,unread,refused,rfl⟩
  · have stays : ¬q.Overreaches kind := fun overreaches => other overreaches.1
    exact ⟨iff_of_true rfl stays,fun _ t => expect_lookahead,fun overreaches => absurd overreaches stays⟩
  · have overreaches : p.Overreaches kind := ⟨by rw [kind?,look,Option.map_some,same],w,rest,e,unread,refused⟩
    refine ⟨iff_of_false ?_ (not_not_intro overreaches),absurd overreaches,fun _ => ⟨rfl,rfl,?_,placed.stop,
      ⟨w,unread,refused⟩,?_⟩⟩
    · intro unchanged
      cases look.symm.trans (congrArg lookahead unchanged).symm
    · obtain ⟨read,word,split,span⟩ := placed.look look
      have member : word ∈ words source := by simp [split]
      simpa only [position,look,span] using words_start_lt member
    · intro later r after
      rw [← placed.stop]
      exact after.ended rfl

theorem refusal_consumes_only_overreaching_sign :
    let opening : Token := ⟨.openParen,"(",⟨0,1⟩⟩
    let one : Token := ⟨.number,"1",⟨2,3⟩⟩
    let sign : Token := ⟨.additiveOperator,"+",⟨4,5⟩⟩
    let start : Parser := ⟨⟨[⟨"1",2,3⟩,⟨"+",4,5⟩,⟨"x",6,7⟩,⟨")",8,9⟩],9⟩,some opening,0,1⟩
    let p : Parser := ⟨⟨[⟨"x",6,7⟩,⟨")",8,9⟩],9⟩,some sign,1,1⟩
    let q : Parser := ⟨⟨[⟨")",8,9⟩],9⟩,none,1,1⟩
    let e : Error := ⟨.unexpectedInput "x",6⟩
    let log : Log := [(.expect .number,.error ⟨.unexpectedTokenType .number .openParen "(",0⟩),
      (.expect .openParen,.ok (.token opening)),(.enterGroup 0,.ok .done),(.expect .number,.ok (.token one))]
    ofSource "( 1 + x )" 1 = .ok start ∧ Session start log p ∧ expect .additiveOperator p = .error e q ∧
      p.Overreaches .additiveOperator ∧ q ≠ p ∧ q.position = 9 := by
  intro opening one sign start p q e log
  have started : ofSource "( 1 + x )" 1 = .ok start := by decide +kernel
  have session : Session start log p :=
    .failed trivial rfl (.done trivial rfl (.done trivial rfl (.done trivial rfl .nil)))
  have failed : expect .additiveOperator p = .error e q := rfl
  have overreaches : p.Overreaches .additiveOperator := ⟨rfl,_,_,e,rfl,rfl⟩
  obtain ⟨same,_,lost⟩ :=
    refusal_consumes_only_overreaching "( 1 + x )" 1 start p q log .additiveOperator e started session failed
  exact ⟨started,session,failed,overreaches,mt same.mp (not_not_intro overreaches),(lost overreaches).2.2.2.1⟩

/-- The parenthesis is the lookahead before the refusal and is lost after it. -/
theorem refused_parenthesis_lost :
    let opening : Token := ⟨.openParen,"(",⟨0,1⟩⟩
    ∃ start q : Parser, ∃ e, ofSource "( x" 8 = .ok start ∧ start.lookahead = some opening ∧
      start.position = 0 ∧ start.lexer.unread = [⟨"x",2,3⟩] ∧ expect .openParen start = .error e q ∧
      q.lookahead = none ∧ q.position = 3 ∧ q.lexer.unread = [] :=
  ⟨⟨⟨[⟨"x",2,3⟩],3⟩,some ⟨.openParen,"(",⟨0,1⟩⟩,0,8⟩,⟨⟨[],3⟩,none,0,8⟩,⟨.unexpectedInput "x",2⟩,
    by decide +kernel,rfl,rfl,rfl,rfl,rfl,rfl,rfl⟩

end Reckoner.Parser
