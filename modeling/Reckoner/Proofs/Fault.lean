import Reckoner.Proofs.Parsing
import Reckoner.Proofs.Refusal

/-! Faults of the parser. A failing production has consumed tokens that extend a draft up to a
fault. An unclassified word is found when the token before it is consumed, so it takes
precedence over any fault of that token. -/
namespace Reckoner

/-- Reason to give up on a draft with these words ahead, in a text of `stop` bytes. -/
inductive Draft.Fault (limit stop : Nat) : Draft → List (Except Error Token) → Error → Prop where
  | operandMissing : Fault limit stop (due gap outer) [] ⟨.unexpectedInput endOfInput,stop⟩
  | groupOpen : Fault limit stop (done sum (group :: outer)) [] ⟨.unexpectedInput endOfInput,stop⟩
  | word : Fault limit stop draft (.error e :: rest) e
  | wordInside (h : t.kind = .openParen) (full : limit ≤ outer.length) :
      Fault limit stop (due gap outer) (.ok t :: .error e :: rest) e
  | operandDue (h : t.kind = .additiveOperator ∨ t.kind = .closeParen) :
      Fault limit stop (due gap outer) (.ok t :: rest)
        ⟨.unexpectedTokenType .number t.kind t.text,t.span.start⟩
  | numeral (h : t.kind = .number) (unfit : ¬t.InRange) (looked : Parser.Clear rest) :
      Fault limit stop (due gap outer) (.ok t :: rest) ⟨.numberParseError t.text,t.span.start⟩
  | full (h : t.kind = .openParen) (full : limit ≤ outer.length) (looked : Parser.Clear rest) :
      Fault limit stop (due gap outer) (.ok t :: rest) ⟨.nestingTooDeep limit,t.span.start⟩
  | closingDue (h : t.kind = .number ∨ t.kind = .openParen) :
      Fault limit stop (done sum (group :: outer)) (.ok t :: rest)
        ⟨.unexpectedTokenType .closeParen t.kind t.text,t.span.start⟩
  | leftover (h : t.kind ≠ .additiveOperator) :
      Fault limit stop (done sum []) (.ok t :: rest) ⟨.unexpectedInput t.text,t.span.start⟩

namespace Parser

variable {p q : Parser} {ts : List Token} {t : Token} {e : Error} {draft middle next : Draft}
  {gap : Gap} {outer : List OpenGroup}

theorem Sane.clear (sane : p.Sane) : Clear p.ahead := by
  intro e refused
  unfold Parser.ahead at refused
  cases look : p.lookahead with
  | none => simp [look,sane.live look] at refused
  | some t => simp [look] at refused

theorem expect_error {kind : TokenKind} (sane : p.Sane) (failed : expect kind p = .error e q) :
    (p.ahead = [] ∧ e = ⟨.unexpectedInput endOfInput,p.lexer.stop⟩) ∨
    (∃ t rest, p.ahead = .ok t :: rest ∧ t.kind ≠ kind ∧
      e = ⟨.unexpectedTokenType kind t.kind t.text,t.span.start⟩) ∨
    ∃ t rest, p.ahead = .ok t :: .error e :: rest ∧ t.kind = kind := by
  have result := expects kind p
  rw [failed] at result
  cases result with
  | ended look => exact .inl ⟨sane.ahead_eq_nil.mpr look,rfl⟩
  | other look other => exact .inr (.inl ⟨_,p.lexer.unread.map Word.token,by simp [ahead,look],other,rfl⟩)
  | @lost _ _ ws _ look same unread refused =>
    exact .inr (.inr ⟨_,ws.map Word.token,by simp [ahead,look,unread,refused],same⟩)

theorem expect_error_of_kind {kind : TokenKind} (sane : p.Sane) (known : p.kind? = some kind)
    (failed : expect kind p = .error e q) :
    ∃ t rest, p.ahead = .ok t :: .error e :: rest ∧ t.kind = kind := by
  rcases expect_error sane failed with ⟨atEnd,_⟩ | ⟨t,rest,ahead,other,_⟩ | lost
  · rw [kind?,sane.ahead_eq_nil.mp atEnd] at known
    cases known
  · rw [sane.kind_of_ahead ahead] at known
    exact absurd (Option.some.inj known) other
  · exact lost

/-- The tokens consumed by the parser extend the draft to one with a fault. -/
def Fails (p : Parser) (draft : Draft) (e : Error) : Prop :=
  ∃ ts final rest, p.ahead = ts.map .ok ++ rest ∧ Draft.Run p.maxDepth draft ts final ∧
    Draft.Fault p.maxDepth p.lexer.stop final rest e

theorem Fails.here (fault : Draft.Fault p.maxDepth p.lexer.stop draft p.ahead e) : p.Fails draft e :=
  ⟨[],draft,_,rfl,.nil,fault⟩

theorem Fails.lost {rest : List (Except Error Token)} (ahead : p.ahead = .ok t :: .error e :: rest)
    (step : Draft.Step p.maxDepth draft t next) : p.Fails draft e :=
  ⟨[t],next,_,ahead,.single step,.word⟩

theorem Fails.after (consumed : p.Consumes ts q) (run : Draft.Run p.maxDepth draft ts middle)
    (fails : q.Fails middle e) : p.Fails draft e := by
  obtain ⟨us,final,rest,ahead,more,fault⟩ := fails
  rw [consumed.maxDepth] at more fault
  rw [consumed.stop] at fault
  refine ⟨ts ++ us,final,rest,?_,run.append more,fault⟩
  rw [consumed.ahead,ahead,List.map_append,List.append_assoc]

theorem Reads.completes {n : Nonterminal} {d : Derivation n} {tree : Tree} (read : p.Reads d tree q)
    (counted : outer.length = p.depth) : d.Completes p.maxDepth outer :=
  d.completes outer (by rw [counted]; exact read.nested)

end Parser

namespace Grammar

open Reckoner.Parser

variable {p q : Parser} {e : Error} {tree : Tree} {gap : Gap} {outer : List OpenGroup} {fuel : Nat}

theorem number_fails (sane : p.Sane) (notGroup : p.kind? ≠ some .openParen)
    (failed : number p = .error e q) : p.Fails (.due gap outer) e := by
  rcases work_bind_error.mp failed with failed | ⟨t,middle,expected,failed⟩
  · rcases expect_error sane failed with ⟨ahead,rfl⟩ | ⟨t,rest,ahead,other,rfl⟩ | ⟨t,rest,ahead,kind⟩
    · exact .here (ahead ▸ .operandMissing)
    · rw [sane.kind_of_ahead ahead] at notGroup
      have due : t.kind = .additiveOperator ∨ t.kind = .closeParen := by
        cases kind : t.kind <;> simp_all
      exact .here (ahead ▸ .operandDue due)
    · exact .lost ahead (.number kind)
  · obtain ⟨kind,consumed⟩ := expect_consumes sane expected
    obtain ⟨refused,rfl⟩ := ofExcept_error.mp failed
    obtain ⟨_,unfit,rfl⟩ := (Tree.ofToken_error.mp refused).resolve_right (fun h => h.1 kind)
    have ahead : p.ahead = .ok t :: q.ahead := consumed.ahead
    exact .here (ahead ▸ .numeral kind unfit consumed.sane.clear)

/-- With fuel for the remaining words a chain ends only at a non-operator. -/
theorem chainWithin_ends {left : Tree} (sane : p.Sane) (enough : p.remaining ≤ fuel)
    (success : chainWithin fuel left p = .ok tree q) : q.kind? ≠ some .additiveOperator := by
  induction fuel generalizing p left with
  | zero =>
    obtain ⟨rfl,rfl⟩ := EStateM.Result.ok.inj success
    have atEnd : p.ahead = [] := List.length_eq_zero_iff.mp (by rw [ahead_length]; omega)
    rw [kind?,sane.ahead_eq_nil.mp atEnd]
    exact (Option.some_ne_none _).symm
  | succ fuel ih =>
    rw [chainWithin_succ] at success
    split at success
    next =>
      obtain ⟨operator,second,expected,rest⟩ := work_bind_ok.mp success
      obtain ⟨right,last,operand,rest⟩ := work_bind_ok.mp rest
      obtain ⟨_,joins⟩ := expect_consumes sane expected
      obtain ⟨d,read⟩ := (productions_read fuel).1 joins.sane operand
      have shorter : p.remaining = 1 + second.remaining := joins.remaining
      have further := read.consumes.remaining
      exact ih read.consumes.sane (by omega) rest
    next other =>
      obtain ⟨rfl,rfl⟩ := EStateM.Result.ok.inj success
      exact other

theorem sumWithin_ends (sane : p.Sane) (enough : p.remaining ≤ fuel)
    (success : sumWithin fuel p = .ok tree q) : q.kind? ≠ some .additiveOperator := by
  obtain ⟨left,middle,first,rest⟩ := work_bind_ok.mp success
  obtain ⟨d,read⟩ := (productions_read fuel).1 sane first
  have further := read.consumes.remaining
  exact chainWithin_ends read.consumes.sane (by omega) rest

/-- Faults of the two productions with this much fuel. -/
structure FailWithin (fuel : Nat) : Prop where
  primary : ∀ {p q : Parser} {e : Error} {gap : Gap} {outer : List OpenGroup}, p.Sane →
    p.remaining ≤ fuel → outer.length = p.depth → primaryWithin fuel p = .error e q →
    p.Fails (.due gap outer) e
  chain : ∀ {p q : Parser} {e : Error} {left : Tree} {sum : Derivation .sum} {outer : List OpenGroup},
    p.Sane → p.remaining ≤ fuel → outer.length = p.depth → chainWithin fuel left p = .error e q →
    p.Fails (.done sum outer) e

theorem FailWithin.sum (fail : FailWithin fuel) (sane : p.Sane) (enough : p.remaining ≤ fuel)
    (counted : outer.length = p.depth) (failed : sumWithin fuel p = .error e q) :
    p.Fails (.due .first outer) e := by
  rcases work_bind_error.mp failed with failed | ⟨left,middle,first,failed⟩
  · exact fail.primary sane enough counted failed
  · obtain ⟨d,read⟩ := (productions_read fuel).1 sane first
    have further := read.consumes.remaining
    have counts : outer.length = middle.depth := counted.trans read.consumes.depth.symm
    exact .after read.consumes (read.single.completes counted)
      (fail.chain read.consumes.sane (by omega) counts failed)

theorem FailWithin.group (fail : FailWithin fuel) (sane : p.Sane) (enough : p.remaining ≤ fuel + 1)
    (counted : outer.length = p.depth) (opens : p.kind? = some .openParen)
    (failed : groupOf (sumWithin fuel) p = .error e q) : p.Fails (.due gap outer) e := by
  rcases work_bind_error.mp failed with failed | ⟨opening,first,opened,failed⟩
  · obtain ⟨t,rest,ahead,kind⟩ := expect_error_of_kind sane opens failed
    by_cases room : outer.length < p.maxDepth
    · exact .lost ahead (.opening kind room)
    · exact .here (ahead ▸ .wordInside kind (Nat.not_lt.mp room))
  obtain ⟨kind,consumed⟩ := expect_consumes sane opened
  have shorter : p.remaining = 1 + first.remaining := consumed.remaining
  have depth : first.depth = p.depth := consumed.depth
  have maxDepth : first.maxDepth = p.maxDepth := consumed.maxDepth
  rcases work_bind_error.mp failed with failed | ⟨_,inside,entered,failed⟩
  · have ahead : p.ahead = .ok opening :: first.ahead := consumed.ahead
    unfold enterGroup at failed
    split at failed
    next full =>
      cases failed
      rw [maxDepth] at full ⊢
      exact .here (ahead ▸ .full kind (by omega) consumed.sane.clear)
    next => cases failed
  obtain ⟨room,rfl⟩ := enterGroup_ok.mp entered
  have step : Draft.Step p.maxDepth (.due gap outer) opening
      (.due .first (⟨gap,⟨opening,kind⟩⟩ :: outer)) := .opening kind (by omega)
  -- Whatever fails from here on fails behind the parenthesis.
  refine .after consumed (.single step) ?_
  change Fails { first with depth := first.depth + 1 } _ e
  have ready : Sane { first with depth := first.depth + 1 } := ⟨consumed.sane.live,room⟩
  have counts : (⟨gap,⟨opening,kind⟩⟩ :: outer : List OpenGroup).length = first.depth + 1 := by
    rw [List.length_cons,counted,depth]
  rcases work_bind_error.mp failed with failed | ⟨_,second,inner,failed⟩
  · exact fail.sum ready (by change first.remaining ≤ fuel; omega) counts failed
  obtain ⟨d,read⟩ := sumWithin_reads ready inner
  have ends := sumWithin_ends ready (by change first.remaining ≤ fuel; omega) inner
  refine .after read.consumes (read.completes counts) ?_
  rcases work_bind_error.mp failed with failed | ⟨closing,last,_,failed⟩
  · rcases expect_error read.consumes.sane failed with ⟨ahead,rfl⟩ | ⟨u,rest,ahead,other,rfl⟩ |
      ⟨u,rest,ahead,closes⟩
    · exact .here (ahead ▸ .groupOpen)
    · rw [read.consumes.sane.kind_of_ahead ahead] at ends
      have due : u.kind = .number ∨ u.kind = .openParen := by
        cases kind : u.kind <;> simp_all
      exact .here (ahead ▸ .closingDue due)
    · exact .lost ahead (.closing closes)
  · cases failed

theorem productions_fail (fuel : Nat) : FailWithin fuel := by
  -- Both productions call each other with one step less, and each step has a token to consume.
  induction fuel with
  | zero =>
    constructor
    · intro p q e gap outer sane enough counted failed
      have atEnd : p.ahead = [] := List.length_eq_zero_iff.mp (by rw [ahead_length]; omega)
      refine number_fails sane ?_ failed
      rw [kind?,sane.ahead_eq_nil.mp atEnd]
      exact (Option.some_ne_none _).symm
    · intro p q e left sum outer sane enough counted failed
      cases failed
  | succ fuel ih =>
    constructor
    · intro p q e gap outer sane enough counted failed
      rw [primaryWithin_succ] at failed
      split at failed
      next opens => exact ih.group sane enough counted opens failed
      next notGroup => exact number_fails sane notGroup failed
    · intro p q e left sum outer sane enough counted failed
      rw [chainWithin_succ] at failed
      split at failed
      next continues =>
        rcases work_bind_error.mp failed with failed | ⟨operator,second,expected,failed⟩
        · obtain ⟨t,rest,ahead,kind⟩ := expect_error_of_kind sane continues failed
          exact .lost ahead (.operator kind)
        obtain ⟨kind,joins⟩ := expect_consumes sane expected
        have shorter : p.remaining = 1 + second.remaining := joins.remaining
        have counts : outer.length = second.depth := counted.trans joins.depth.symm
        refine .after joins (.single (.operator kind)) ?_
        rcases work_bind_error.mp failed with failed | ⟨right,last,operand,failed⟩
        · exact ih.primary joins.sane (by omega) counts failed
        obtain ⟨d,read⟩ := (productions_read fuel).1 joins.sane operand
        have further := read.consumes.remaining
        have countsLast : outer.length = last.depth := counts.trans read.consumes.depth.symm
        refine .after read.consumes (read.completes counts _) ?_
        exact ih.chain read.consumes.sane (by omega) countsLast failed
      next => cases failed

theorem start_stop {maxDepth : Nat} {l rest : Lexer} (started : start maxDepth l = .ok p rest) :
    p.lexer.stop = l.stop := by
  unfold start Lexer.next at started
  split at started
  next next =>
    split at next
    next => cases next; cases started; rfl
    next =>
      split at next
      next => cases next; cases started; rfl
      next => cases next
  next => cases started

theorem start_error {maxDepth : Nat} {l rest : Lexer} (failed : start maxDepth l = .error e rest) :
    ∃ w ws, l.unread = w :: ws ∧ w.token = .error e := by
  unfold start Lexer.next at failed
  cases unread : l.unread with
  | nil => simp [unread] at failed
  | cons w ws =>
    cases token : w.token with
    | ok t => simp [unread,token] at failed
    | error f =>
      simp only [unread,token] at failed
      cases failed
      exact ⟨w,ws,rfl,token⟩

theorem parse_error {config : Config} {source : String} (failed : (parse config).on source = .error e) :
    (∃ l, start config.maxDepth (Lexer.ofSource source) = .error e l) ∨
    ∃ p l q, start config.maxDepth (Lexer.ofSource source) = .ok p l ∧ (sum p = .error e q ∨
      ∃ tree middle, sum p = .ok tree middle ∧ finish config.trailingInput middle = .error e q) := by
  obtain ⟨final,failed⟩ := on_error.mp failed
  unfold parse at failed
  cases started : start config.maxDepth (Lexer.ofSource source) with
  | error f l =>
    simp only [started] at failed
    cases failed
    exact .inl ⟨_,rfl⟩
  | ok p l =>
    simp only [started] at failed
    split at failed
    next => cases failed
    next f q ran =>
      cases failed
      refine .inr ⟨p,l,q,rfl,?_⟩
      rcases work_bind_error.mp ran with summed | ⟨tree,middle,summed,ran⟩
      · exact .inl summed
      · rcases work_bind_error.mp ran with finished | ⟨_,_,_,impossible⟩
        · exact .inr ⟨tree,middle,summed,finished⟩
        · cases impossible

theorem finish_error {trailing : TrailingInput} (failed : finish trailing p = .error e q) :
    ∃ t, p.lookahead = some t ∧ e = ⟨.unexpectedInput t.text,t.span.start⟩ := by
  unfold finish at failed
  split at failed
  next t look =>
    cases failed
    exact ⟨t,look,rfl⟩
  next => cases failed

/-- Every parse error is a fault of some draft of the text. -/
theorem fault_of_parse {config : Config} {source : String} (failed : (parse config).on source = .error e) :
    ∃ ts final rest, (words source).map Word.token = ts.map .ok ++ rest ∧
      Draft.Run config.maxDepth .start ts final ∧
      Draft.Fault config.maxDepth source.utf8ByteSize final rest e := by
  rcases parse_error failed with ⟨l,failed⟩ | ⟨p,l,q,started,failed⟩
  · obtain ⟨w,ws,unread,token⟩ := start_error failed
    have unread : words source = w :: ws := unread
    refine ⟨[],.start,_,rfl,.nil,?_⟩
    rw [unread,List.map_cons,token]
    exact .word
  obtain ⟨sane,ahead,depth,maxDepth⟩ := start_ahead started
  have stop : p.lexer.stop = source.utf8ByteSize := start_stop started
  have ahead : p.ahead = (words source).map Word.token := ahead
  rw [← ahead,← stop,← maxDepth]
  have counted : ([] : List OpenGroup).length = p.depth := depth.symm
  rcases failed with failed | ⟨tree,middle,summed,failed⟩
  · exact (productions_fail _).sum sane (Nat.le_refl _) counted failed
  · obtain ⟨d,read⟩ := sumWithin_reads sane summed
    have ends := sumWithin_ends sane (Nat.le_refl _) summed
    obtain ⟨t,look,rfl⟩ := finish_error failed
    rw [kind?,look] at ends
    have leftover : middle.ahead = .ok t :: middle.lexer.unread.map Word.token := by
      simp [Parser.ahead,look]
    refine Fails.after read.consumes (read.completes counted) (.here ?_)
    rw [leftover]
    exact .leftover fun operator => ends (congrArg some operator)

end Grammar

end Reckoner
