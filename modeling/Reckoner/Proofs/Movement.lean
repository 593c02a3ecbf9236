import Reckoner.Proofs.Parsing

/-! Transitions of the parser. Public operations and productions are compositions of five moves,
on success and on failure and from any reachable state, so an invariant of the moves is an
invariant of every session. -/
namespace Reckoner

namespace Parser

/-- One move, with the tokens it hands out. -/
inductive Move : Parser → List Token → Parser → Prop where
  | last (look : p.lookahead = some t) (unread : p.lexer.unread = []) :
      Move p [t] { p with lookahead := none }
  | next (look : p.lookahead = some t) (unread : p.lexer.unread = w :: ws) (token : w.token = .ok u) :
      Move p [t] { p with lexer := ⟨ws,p.lexer.stop⟩, lookahead := some u }
  /-- The next word is unclassified, so the lookahead is lost as well. -/
  | lose (look : p.lookahead = some t) (unread : p.lexer.unread = w :: ws) (refused : w.token = .error e) :
      Move p [] { p with lexer := ⟨ws,p.lexer.stop⟩, lookahead := none }
  | enter (room : p.depth < p.maxDepth) : Move p [] { p with depth := p.depth + 1 }
  | leave (inside : 0 < p.depth) : Move p [] { p with depth := p.depth - 1 }

inductive Moves : Parser → List Token → Parser → Prop where
  | nil : Moves p [] p
  | cons : Move p ts q → Moves q us r → Moves p (ts ++ us) r

variable {p q r : Parser} {t : Token} {ts us : List Token} {e : Error} {α β : Type}

theorem Move.moves (move : Move p ts q) : Moves p ts q := by
  have whole := Moves.cons move .nil
  rwa [List.append_nil] at whole

theorem Moves.append (first : Moves p ts q) (second : Moves q us r) : Moves p (ts ++ us) r := by
  induction first with
  | nil => exact second
  | cons move _ ih =>
    rw [List.append_assoc]
    exact .cons move (ih second)

/-- Relation preserved from one parser to a later one, with the tokens handed out in between. -/
structure Keeps (p : Parser) (ts : List Token) (q : Parser) : Prop where
  maxDepth : q.maxDepth = p.maxDepth
  within : p.depth ≤ p.maxDepth → q.depth ≤ q.maxDepth
  unread : q.lexer.unread <:+ p.lexer.unread
  stop : q.lexer.stop = p.lexer.stop
  ahead : (ts.map Except.ok ++ q.ahead).Sublist p.ahead
  ended : p.lookahead = none → ts = [] ∧ q.lookahead = none ∧ q.lexer = p.lexer

theorem Keeps.trans (first : p.Keeps ts q) (second : q.Keeps us r) : p.Keeps (ts ++ us) r where
  maxDepth := second.maxDepth.trans first.maxDepth
  within := fun within => second.within (first.within within)
  unread := second.unread.trans first.unread
  stop := second.stop.trans first.stop
  ahead := by
    rw [List.map_append,List.append_assoc]
    exact (List.Sublist.append_left second.ahead _).trans first.ahead
  ended := by
    intro ended
    obtain ⟨rfl,ended,lexer⟩ := first.ended ended
    obtain ⟨rfl,ended,same⟩ := second.ended ended
    exact ⟨rfl,ended,same.trans lexer⟩

theorem Move.keeps (move : Move p ts q) : p.Keeps ts q := by
  cases move with
  | last look unread =>
    refine ⟨rfl,id,List.suffix_refl _,rfl,?_,?_⟩
    · simp [ahead,look,unread]
    · simp [look]
  | next look unread token =>
    refine ⟨rfl,id,by simp [unread],rfl,?_,?_⟩
    · simp [ahead,look,unread,token]
    · simp [look]
  | lose look unread refused =>
    refine ⟨rfl,id,by simp [unread],rfl,?_,?_⟩
    · simp [ahead,look,unread]
    · simp [look]
  | enter room => exact ⟨rfl,fun _ => room,List.suffix_refl _,rfl,List.Sublist.refl _,fun h => ⟨rfl,h,rfl⟩⟩
  | leave inside =>
    refine ⟨rfl,fun within => ?_,List.suffix_refl _,rfl,List.Sublist.refl _,fun h => ⟨rfl,h,rfl⟩⟩
    change p.depth - 1 ≤ p.maxDepth
    omega

theorem Moves.keeps (moves : Moves p ts q) : p.Keeps ts q := by
  induction moves with
  | nil => exact ⟨rfl,id,List.suffix_refl _,rfl,List.Sublist.refl _,fun h => ⟨rfl,h,rfl⟩⟩
  | cons move _ ih => exact move.keeps.trans ih

/-- The work is a sequence of moves, and restores the depth on success. -/
structure Steady (work : ParserM α) : Prop where
  success : ∀ {p q : Parser} {a : α}, work p = .ok a q → (∃ ts, Moves p ts q) ∧ q.depth = p.depth
  failure : ∀ {p q : Parser} {e : Error}, work p = .error e q → ∃ ts, Moves p ts q

theorem Steady.bind {work : ParserM α} {after : α → ParserM β} (first : Steady work)
    (second : ∀ a, Steady (after a)) : Steady (work >>= after) where
  success := by
    intro p q b success
    obtain ⟨a,middle,ran,rest⟩ := work_bind_ok.mp success
    obtain ⟨⟨ts,moves⟩,depth⟩ := first.success ran
    obtain ⟨⟨us,further⟩,same⟩ := (second a).success rest
    exact ⟨⟨_,moves.append further⟩,same.trans depth⟩
  failure := by
    intro p q e failed
    rcases work_bind_error.mp failed with failed | ⟨a,middle,ran,failed⟩
    · exact first.failure failed
    · obtain ⟨⟨ts,moves⟩,_⟩ := first.success ran
      obtain ⟨us,further⟩ := (second a).failure failed
      exact ⟨_,moves.append further⟩

theorem Steady.of_same {work : ParserM α} (success : ∀ {p q : Parser} {a : α}, work p = .ok a q → q = p)
    (failure : ∀ {p q : Parser} {e : Error}, work p = .error e q → q = p) : Steady work where
  success := by
    intro p q a ran
    obtain rfl := success ran
    exact ⟨⟨[],.nil⟩,rfl⟩
  failure := by
    intro p q e failed
    obtain rfl := failure failed
    exact ⟨[],.nil⟩

theorem expect_move {kind : TokenKind} (success : expect kind p = .ok t q) :
    Move p [t] q ∧ q.depth = p.depth := by
  have result := expects kind p
  rw [success] at result
  cases result with
  | last look _ unread => exact ⟨.last look unread,rfl⟩
  | next look _ unread token => exact ⟨.next look unread token,rfl⟩

theorem expect_move_error {kind : TokenKind} (failed : expect kind p = .error e q) :
    q = p ∨ Move p [] q := by
  have result := expects kind p
  rw [failed] at result
  cases result with
  | ended | other => exact .inl rfl
  | lost look _ unread refused => exact .inr (.lose look unread refused)

theorem expect_steady (kind : TokenKind) : Steady (expect kind) where
  success := by
    intro p q t success
    obtain ⟨move,depth⟩ := expect_move success
    exact ⟨⟨_,move.moves⟩,depth⟩
  failure := by
    intro p q e failed
    rcases expect_move_error failed with rfl | move
    · exact ⟨[],.nil⟩
    · exact ⟨[],move.moves⟩

theorem expect_ended (ended : p.lookahead = none) (kind : TokenKind) :
    expect kind p = .error ⟨.unexpectedInput endOfInput,p.lexer.stop⟩ p := by
  simp only [expect,ended]

end Parser

namespace Grammar

open Reckoner.Parser

variable {p : Parser}

theorem number_steady : Steady number := by
  refine (expect_steady .number).bind fun t => .of_same ?_ ?_
  · intro p q tree success
    exact (ofExcept_ok.mp success).2
  · intro p q e failed
    exact (ofExcept_error.mp failed).2

theorem groupOf_steady {inside : ParserM Tree} (inner : Steady inside) : Steady (groupOf inside) := by
  refine (expect_steady .openParen).bind fun opening => ⟨?_,?_⟩
  · intro p q tree success
    obtain ⟨_,_,entered,rest⟩ := work_bind_ok.mp success
    obtain ⟨room,rfl⟩ := enterGroup_ok.mp entered
    obtain ⟨_,second,summed,rest⟩ := work_bind_ok.mp rest
    obtain ⟨closing,last,closed,rest⟩ := work_bind_ok.mp rest
    obtain ⟨rfl,rfl⟩ := EStateM.Result.ok.inj rest
    obtain ⟨⟨ts,moves⟩,depth⟩ := inner.success summed
    obtain ⟨move,same⟩ := expect_move closed
    have raised : last.depth = p.depth + 1 := same.trans depth
    have leaves : Move last [] { last with depth := last.depth - 1 } := .leave (by omega)
    refine ⟨⟨_,(Move.enter room).moves.append (moves.append (.cons move leaves.moves))⟩,?_⟩
    change last.depth - 1 = p.depth
    omega
  · intro p q e failed
    rcases work_bind_error.mp failed with failed | ⟨_,_,entered,failed⟩
    · unfold enterGroup at failed
      split at failed
      next =>
        cases failed
        exact ⟨[],.nil⟩
      next => cases failed
    · obtain ⟨room,rfl⟩ := enterGroup_ok.mp entered
      have enters := (Move.enter room).moves
      rcases work_bind_error.mp failed with failed | ⟨_,second,summed,failed⟩
      · obtain ⟨ts,moves⟩ := inner.failure failed
        exact ⟨_,enters.append moves⟩
      · obtain ⟨⟨ts,moves⟩,_⟩ := inner.success summed
        rcases work_bind_error.mp failed with failed | ⟨_,last,_,failed⟩
        · obtain ⟨us,further⟩ := (expect_steady .closeParen).failure failed
          exact ⟨_,enters.append (moves.append further)⟩
        · cases failed

theorem productions_steady (fuel : Nat) :
    Steady (primaryWithin fuel) ∧ ∀ left, Steady (chainWithin fuel left) := by
  induction fuel with
  | zero =>
    refine ⟨number_steady,fun left => .of_same ?_ nofun⟩
    intro p q tree success
    exact (EStateM.Result.ok.inj success).2.symm
  | succ fuel ih =>
    obtain ⟨primary,chain⟩ := ih
    have group := groupOf_steady (primary.bind chain)
    have further (left : Tree) := (expect_steady .additiveOperator).bind fun operator =>
      primary.bind fun right => chain (Tree.join operator left right)
    refine ⟨⟨?_,?_⟩,fun left => ⟨?_,?_⟩⟩
    · intro p q tree success
      rw [primaryWithin_succ] at success
      split at success
      · exact group.success success
      · exact number_steady.success success
    · intro p q e failed
      rw [primaryWithin_succ] at failed
      split at failed
      · exact group.failure failed
      · exact number_steady.failure failed
    · intro p q tree success
      rw [chainWithin_succ] at success
      split at success
      · exact (further left).success success
      · obtain ⟨_,rfl⟩ := EStateM.Result.ok.inj success
        exact ⟨⟨[],.nil⟩,rfl⟩
    · intro p q e failed
      rw [chainWithin_succ] at failed
      split at failed
      · exact (further left).failure failed
      · cases failed

theorem sumWithin_steady (fuel : Nat) : Steady (sumWithin fuel) :=
  (productions_steady fuel).1.bind (productions_steady fuel).2

theorem primary_steady : Steady primary :=
  ⟨fun success => (productions_steady _).1.success success,
    fun failed => (productions_steady _).1.failure failed⟩

theorem sum_steady : Steady sum :=
  ⟨fun success => (sumWithin_steady _).success success,fun failed => (sumWithin_steady _).failure failed⟩

theorem group_steady : Steady group :=
  ⟨fun success => (groupOf_steady (sumWithin_steady _)).success success,
    fun failed => (groupOf_steady (sumWithin_steady _)).failure failed⟩

theorem number_ended (ended : p.lookahead = none) :
    number p = .error ⟨.unexpectedInput endOfInput,p.lexer.stop⟩ p :=
  work_bind_error.mpr (.inl (expect_ended ended _))

theorem groupOf_ended (ended : p.lookahead = none) (inside : ParserM Tree) :
    groupOf inside p = .error ⟨.unexpectedInput endOfInput,p.lexer.stop⟩ p :=
  work_bind_error.mpr (.inl (expect_ended ended _))

theorem primaryWithin_ended (ended : p.lookahead = none) (fuel : Nat) :
    primaryWithin fuel p = .error ⟨.unexpectedInput endOfInput,p.lexer.stop⟩ p := by
  cases fuel with
  | zero => exact number_ended ended
  | succ fuel =>
    rw [primaryWithin_succ,if_neg (by simp [kind?,ended])]
    exact number_ended ended

end Grammar

namespace Parser

variable {p q : Parser} {ts : List Token} {t : Token}

theorem Keeps.remaining (keeps : p.Keeps ts q) : q.remaining + ts.length ≤ p.remaining := by
  have shorter := keeps.ahead.length_le
  simp only [List.length_append,List.length_map,ahead_length] at shorter
  omega

theorem expect_remaining {kind : TokenKind} (success : expect kind p = .ok t q) :
    q.remaining < p.remaining := by
  have further := (expect_move success).1.keeps.remaining
  simp only [List.length_singleton] at further
  omega

theorem Steady.remaining {α : Type} {p q : Parser} {work : ParserM α} {a : α} (steady : Steady work)
    (success : work p = .ok a q) : q.remaining ≤ p.remaining := by
  obtain ⟨⟨ts,moves⟩,_⟩ := steady.success success
  have further := moves.keeps.remaining
  omega

end Parser

namespace Grammar

open Reckoner.Parser

variable {p q : Parser} {tree : Tree} {fuel : Nat}

theorem number_remaining (success : number p = .ok tree q) : q.remaining < p.remaining := by
  obtain ⟨t,middle,expected,converted⟩ := work_bind_ok.mp success
  obtain ⟨_,rfl⟩ := ofExcept_ok.mp converted
  exact expect_remaining expected

theorem groupOf_remaining {inner : ParserM Tree} (steady : Steady inner)
    (success : groupOf inner p = .ok tree q) : q.remaining < p.remaining := by
  obtain ⟨opening,first,opened,rest⟩ := work_bind_ok.mp success
  obtain ⟨_,_,entered,rest⟩ := work_bind_ok.mp rest
  obtain ⟨_,rfl⟩ := enterGroup_ok.mp entered
  obtain ⟨_,second,summed,rest⟩ := work_bind_ok.mp rest
  obtain ⟨closing,last,closed,rest⟩ := work_bind_ok.mp rest
  obtain ⟨rfl,rfl⟩ := EStateM.Result.ok.inj rest
  have before := expect_remaining opened
  have inside := steady.remaining summed
  change second.remaining ≤ first.remaining at inside
  have after := expect_remaining closed
  change last.remaining < p.remaining
  omega

theorem primaryWithin_remaining (success : primaryWithin fuel p = .ok tree q) :
    q.remaining < p.remaining := by
  cases fuel with
  | zero => exact number_remaining success
  | succ fuel =>
    rw [primaryWithin_succ] at success
    split at success
    · exact groupOf_remaining (sumWithin_steady fuel) success
    · exact number_remaining success

theorem sumWithin_remaining (success : sumWithin fuel p = .ok tree q) : q.remaining < p.remaining := by
  obtain ⟨left,middle,first,rest⟩ := work_bind_ok.mp success
  have operand := primaryWithin_remaining first
  have further := ((productions_steady fuel).2 left).remaining rest
  omega

end Grammar

end Reckoner
