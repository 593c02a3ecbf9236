import Reckoner.Proofs.Movement

/-! The grammar with instrumentation: a budget for nested calls of `sum`, a log of the moments
at which a production begins, and a log of the groups visited. `Follows` relates it to the plain
productions, and derives the call count and the unclosed groups from the parser depth. -/
namespace Reckoner

namespace Descent

open Reckoner.Parser

inductive Production where
  | sum
  | primary
  | group
  | number
  deriving DecidableEq, Repr

/-- A production about to read, with the number of active calls of `sum`. -/
structure Moment where
  production : Production
  parser : Parser
  calls : Nat
  deriving DecidableEq, Repr

inductive Halt where
  /-- Neither a call for a group nor an iteration for an operator is left in the budget. -/
  | exhausted
  | refused (e : Error)
  deriving DecidableEq, Repr

inductive Ending where
  /-- The contents failed, so the closing parenthesis was never requested. -/
  | abandoned
  /-- The closing parenthesis was requested and refused. -/
  | refused (halt : Halt)
  /-- The closing parenthesis was consumed, and this is the depth afterwards. -/
  | left (depth : Nat)
  deriving DecidableEq, Repr

structure Visit where
  opening : Token
  ending : Ending
  deriving DecidableEq, Repr

def Visit.isUnclosed (v : Visit) : Bool :=
  match v.ending with
  | .abandoned | .refused _ => true
  | .left _ => false

/-- Both logs are newest first. -/
structure Watched where
  parser : Parser
  calls : Nat
  moments : List Moment
  visits : List Visit

abbrev WatchedM := EStateM Halt Watched

variable {α β : Type}

def attempt (work : ParserM α) : WatchedM α := fun s =>
  match work s.parser with
  | .ok a p => .ok a { s with parser := p }
  | .error e p => .error (.refused e) { s with parser := p }

def begins (production : Production) : WatchedM Unit := fun s =>
  .ok () { s with moments := ⟨production,s.parser,s.calls⟩ :: s.moments }

def note (visit : Visit) : WatchedM Unit := fun s => .ok () { s with visits := visit :: s.visits }

/-- Logs a visit only when `work` fails. -/
def endsVisit (opening : Token) (ending : Halt → Ending) (work : WatchedM α) : WatchedM α := fun s =>
  match work s with
  | .ok a t => .ok a t
  | .error halt t => .error halt { t with visits := ⟨opening,ending halt⟩ :: t.visits }

def number : WatchedM Tree := do
  begins .number
  attempt Grammar.number

def inGroup (opening : Token) (inner : WatchedM Tree) : WatchedM Tree := do
  attempt (enterGroup opening.span.start)
  let tree ← endsVisit opening (fun _ => .abandoned) inner
  let _ ← endsVisit opening .refused (attempt (expect .closeParen))
  note ⟨opening,.left (← get).parser.depth⟩
  attempt exitGroup
  return tree

def group (inner : WatchedM Tree) : WatchedM Tree := do
  begins .group
  let opening ← attempt (expect .openParen)
  inGroup opening inner

def primary (inner : WatchedM Tree) : WatchedM Tree := do
  begins .primary
  if (← get).parser.kind? = some .openParen then group inner else number

/-- At most so many iterations, one for each operator. -/
def chain (operand : WatchedM Tree) : Nat → Tree → WatchedM Tree
  | 0, left => do
    if (← get).parser.kind? = some .additiveOperator then throw .exhausted else return left
  | rounds + 1, left => do
    if (← get).parser.kind? = some .additiveOperator then
      let operator ← attempt (expect .additiveOperator)
      let right ← operand
      chain operand rounds (Tree.join operator left right)
    else return left

def summands (inner : WatchedM Tree) : WatchedM Tree := do
  let first ← primary inner
  chain (primary inner) (← get).parser.remaining first

/-- At most so many nested calls. -/
def sum : Nat → WatchedM Tree
  | 0 => throw .exhausted
  | budget + 1 => do
    modify fun s => { s with calls := s.calls + 1 }
    begins .sum
    let tree ← summands (sum budget)
    modify fun s => { s with calls := s.calls - 1 }
    return tree

def parse (config : Config) (budget : Nat) (source : String) : Except Halt Tree × List Moment :=
  match ofSource source config.maxDepth with
  | .error e => (.error (.refused e),[])
  | .ok p =>
    let whole : WatchedM Tree := do
      let tree ← sum budget
      attempt (finish config.trailingInput)
      return tree
    match whole ⟨p,0,[],[]⟩ with
    | .ok tree s => (.ok tree,s.moments)
    | .error halt s => (.error halt,s.moments)

variable {s t : Watched} {opening : Token}

theorem attempt_ok {work : ParserM α} {a : α} {q : Parser} (ran : work s.parser = .ok a q) :
    attempt work s = .ok a { s with parser := q } := by
  rw [attempt,ran]

theorem attempt_error {work : ParserM α} {e : Error} {q : Parser} (ran : work s.parser = .error e q) :
    attempt work s = .error (.refused e) { s with parser := q } := by
  rw [attempt,ran]

theorem endsVisit_ok {work : WatchedM α} {ending : Halt → Ending} {a : α} (ran : work s = .ok a t) :
    endsVisit opening ending work s = .ok a t := by
  rw [endsVisit,ran]

theorem endsVisit_error {work : WatchedM α} {ending : Halt → Ending} {halt : Halt}
    (ran : work s = .error halt t) : endsVisit opening ending work s =
      .error halt { t with visits := ⟨opening,ending halt⟩ :: t.visits } := by
  rw [endsVisit,ran]

theorem primary_eq (inner : WatchedM Tree) (s : Watched) : primary inner s =
    (if s.parser.kind? = some .openParen then group inner else number)
      { s with moments := ⟨.primary,s.parser,s.calls⟩ :: s.moments } := rfl

theorem chain_zero (operand : WatchedM Tree) (left : Tree) (s : Watched) : chain operand 0 left s =
    if s.parser.kind? = some .additiveOperator then .error .exhausted s else .ok left s := by
  rw [chain]
  change (if s.parser.kind? = some .additiveOperator then _ else _ : WatchedM Tree) s = _
  split <;> rfl

theorem chain_succ (operand : WatchedM Tree) (rounds : Nat) (left : Tree) (s : Watched) :
    chain operand (rounds + 1) left s = if s.parser.kind? = some .additiveOperator then
      (do
        let operator ← attempt (expect .additiveOperator)
        let right ← operand
        chain operand rounds (Tree.join operator left right) : WatchedM Tree) s
    else .ok left s := by
  rw [chain]
  change (if s.parser.kind? = some .additiveOperator then _ else _ : WatchedM Tree) s = _
  split <;> rfl

theorem chain_stop {operand : WatchedM Tree} {left : Tree} (rounds : Nat)
    (stop : s.parser.kind? ≠ some .additiveOperator) : chain operand rounds left s = .ok left s := by
  cases rounds with
  | zero => rw [chain_zero,if_neg stop]
  | succ rounds => rw [chain_succ,if_neg stop]

theorem sum_succ (budget : Nat) (s : Watched) : sum (budget + 1) s =
    (do
      let tree ← summands (sum budget)
      modify fun s => { s with calls := s.calls - 1 }
      return tree : WatchedM Tree)
    { s with calls := s.calls + 1, moments := ⟨.sum,s.parser,s.calls + 1⟩ :: s.moments } := rfl

variable {limit fuel budget : Nat} {u v w : Watched} {new later : List Visit} {a : α}

def Moment.Counted (limit : Nat) (m : Moment) : Prop :=
  m.calls = m.parser.depth + 1 ∧ m.calls ≤ limit + 1

/-- Visits logged between two states. Every closed group was left above the depth of the first
state, and every unclosed one has raised the depth by one. -/
structure Since (limit : Nat) (s : Watched) (new : List Visit) (t : Watched) : Prop where
  counted : ∀ m ∈ t.moments, m.Counted limit
  visits : t.visits = new ++ s.visits
  above : ∀ v ∈ new, ∀ depth, v.ending = .left depth → s.parser.depth < depth
  depth : t.parser.depth = s.parser.depth + new.countP Visit.isUnclosed

theorem Since.level (counted : ∀ m ∈ t.moments, m.Counted limit) (visits : t.visits = s.visits)
    (same : t.parser.depth = s.parser.depth) : Since limit s [] t :=
  ⟨counted,visits,nofun,same⟩

theorem Since.trans (first : Since limit s new t) (second : Since limit t later u) :
    Since limit s (later ++ new) u where
  counted := second.counted
  visits := by rw [second.visits,first.visits,List.append_assoc]
  above := by
    have raised := first.depth
    refine List.forall_mem_append.mpr ⟨fun v member depth left => ?_,first.above⟩
    have := second.above v member depth left
    omega
  depth := by
    rw [List.countP_append,second.depth,first.depth]
    omega

/-- A group contributes its own visit after those inside it, and one level of depth unless it is
closed. -/
theorem Since.around {visit : Visit} (inside : Since limit u new v)
    (entered : u.parser.depth = s.parser.depth + 1) (same : u.visits = s.visits)
    (counted : ∀ m ∈ w.moments, m.Counted limit) (noted : w.visits = visit :: v.visits)
    (above : ∀ depth, visit.ending = .left depth → s.parser.depth < depth)
    (depth : w.parser.depth + 1 = v.parser.depth + if visit.isUnclosed then 1 else 0) :
    Since limit s (visit :: new) w where
  counted := counted
  visits := by rw [noted,inside.visits,same,List.cons_append]
  above := by
    refine List.forall_mem_cons.mpr ⟨above,fun v member depth left => ?_⟩
    have := inside.above v member depth left
    omega
  depth := by
    have raised := inside.depth
    rw [List.countP_cons]
    omega

/-- An instrumented run against the plain one. On success the active calls are restored and no
group remains unclosed. -/
inductive Follows (limit : Nat) (s : Watched) :
    EStateM.Result Error Parser α → EStateM.Result Halt Watched α → Prop where
  | ok {a : α} {t : Watched} {new : List Visit} (since : Since limit s new t) (calls : t.calls = s.calls)
      (closed : new.countP Visit.isUnclosed = 0) : Follows limit s (.ok a t.parser) (.ok a t)
  | error {e : Error} {t : Watched} {new : List Visit} (since : Since limit s new t) :
      Follows limit s (.error e t.parser) (.error (.refused e) t)

theorem Follows.bind {work : ParserM α} {watched : WatchedM α} {f : α → ParserM β} {g : α → WatchedM β}
    (first : Follows limit s (work s.parser) (watched s))
    (after : ∀ a t, work s.parser = .ok a t.parser → (∀ m ∈ t.moments, m.Counted limit) →
      t.calls = s.calls → Follows limit t (f a t.parser) (g a t)) :
    Follows limit s ((work >>= f) s.parser) ((watched >>= g) s) := by
  change Follows limit s (EStateM.bind work f s.parser) (EStateM.bind watched g s)
  unfold EStateM.bind
  generalize plain : work s.parser = done at first
  generalize watched s = seen at first ⊢
  cases first with
  | error since => exact .error since
  | @ok a t _ since calls closed =>
    have goes := after a t plain since.counted calls
    dsimp only
    generalize f a t.parser = plain at goes ⊢
    generalize g a t = seen at goes ⊢
    cases goes with
    | error further => exact .error (since.trans further)
    | ok further same shut =>
      refine .ok (since.trans further) (same.trans calls) ?_
      rw [List.countP_append,shut,closed]

theorem Follows.begun {m : Moment} {plain : EStateM.Result Error Parser α}
    {seen : EStateM.Result Halt Watched α}
    (follows : Follows limit { s with moments := m :: s.moments } plain seen) : Follows limit s plain seen := by
  cases follows with
  | ok since calls closed => exact .ok ⟨since.counted,since.visits,since.above,since.depth⟩ calls closed
  | error since => exact .error ⟨since.counted,since.visits,since.above,since.depth⟩

theorem Follows.returned {watched : WatchedM α} {plain : EStateM.Result Error Parser α}
    (follows : Follows limit { s with calls := s.calls + 1 } plain (watched t)) :
    Follows limit s plain ((do
      let a ← watched
      modify fun s => { s with calls := s.calls - 1 }
      return a : WatchedM α) t) := by
  change Follows limit s plain (EStateM.bind watched _ t)
  unfold EStateM.bind
  generalize watched t = seen at follows ⊢
  cases follows with
  | error since => exact .error ⟨since.counted,since.visits,since.above,since.depth⟩
  | @ok a t _ since calls closed =>
    refine @Follows.ok _ limit s a { t with calls := t.calls - 1 } _
      ⟨since.counted,since.visits,since.above,since.depth⟩ ?_ closed
    change t.calls - 1 = s.calls
    rw [calls]
    rfl

/-- The depth is unchanged, also on failure. -/
structure Level (work : ParserM α) : Prop where
  success : ∀ {p q : Parser} {a : α}, work p = .ok a q → q.depth = p.depth
  failure : ∀ {p q : Parser} {e : Error}, work p = .error e q → q.depth = p.depth

theorem expect_level (kind : TokenKind) : Level (expect kind) where
  success success := (expect_move success).2
  failure := by
    intro p q e failed
    have result := expects kind p
    rw [failed] at result
    cases result <;> rfl

theorem number_level : Level Grammar.number where
  success success := (Grammar.number_steady.success success).2
  failure := by
    intro p q e failed
    rcases work_bind_error.mp failed with failed | ⟨t,middle,expected,failed⟩
    · exact (expect_level .number).failure failed
    · obtain ⟨_,rfl⟩ := ofExcept_error.mp failed
      exact (expect_level .number).success expected

theorem finish_level (trailing : TrailingInput) : Level (finish trailing) := by
  constructor <;> intro p q _ done <;> unfold finish at done <;> split at done <;> cases done <;> rfl

theorem follows_attempt {work : ParserM α} (level : Level work) (counted : ∀ m ∈ s.moments, m.Counted limit) :
    Follows limit s (work s.parser) (attempt work s) := by
  cases ran : work s.parser with
  | ok a p =>
    rw [attempt_ok ran]
    exact @Follows.ok _ limit s a { s with parser := p } [] (.level counted rfl (level.success ran)) rfl rfl
  | error e p =>
    rw [attempt_error ran]
    exact @Follows.error _ limit s e { s with parser := p } [] (.level counted rfl (level.failure ran))

/-- Between productions the active calls are `depth + 1`, and the depth is within the limit. -/
structure Ready (limit : Nat) (s : Watched) : Prop where
  counted : ∀ m ∈ s.moments, m.Counted limit
  calls : s.calls = s.parser.depth + 1
  maxDepth : s.parser.maxDepth = limit
  within : s.parser.depth ≤ limit

theorem Ready.begins (ready : Ready limit s) (production : Production) :
    Ready limit { s with moments := ⟨production,s.parser,s.calls⟩ :: s.moments } where
  counted := by
    have within := ready.within
    have calls := ready.calls
    exact List.forall_mem_cons.mpr ⟨⟨calls,by change s.calls ≤ limit + 1; omega⟩,ready.counted⟩
  calls := ready.calls
  maxDepth := ready.maxDepth
  within := ready.within

theorem Ready.after {work : ParserM α} (ready : Ready limit s) (steady : Steady work)
    (success : work s.parser = .ok a t.parser) (counted : ∀ m ∈ t.moments, m.Counted limit)
    (same : t.calls = s.calls) : Ready limit t := by
  obtain ⟨⟨ts,moves⟩,depth⟩ := steady.success success
  refine ⟨counted,?_,moves.keeps.maxDepth.trans ready.maxDepth,?_⟩
  · rw [same,depth,ready.calls]
  · rw [depth]
    exact ready.within

theorem follows_number (ready : Ready limit s) :
    Follows limit s (Grammar.number s.parser) (number s) :=
  (follows_attempt number_level (ready.begins .number).counted).begun

theorem follows_closing {tree : Tree} (inside : Since limit u new t)
    (entered : u.parser.depth = s.parser.depth + 1) (same : u.visits = s.visits) (calls : t.calls = s.calls)
    (closed : new.countP Visit.isUnclosed = 0) : Follows limit s
      ((do
        let _ ← expect .closeParen
        exitGroup
        return tree : ParserM Tree) t.parser)
      ((do
        let _ ← endsVisit opening .refused (attempt (expect .closeParen))
        note ⟨opening,.left (← get).parser.depth⟩
        attempt exitGroup
        return tree : WatchedM Tree) t) := by
  have raised : t.parser.depth = s.parser.depth + 1 := by rw [inside.depth,closed,entered]
  cases closes : expect .closeParen t.parser with
  | error e q =>
    have level := (expect_level .closeParen).failure closes
    rw [work_bind_error.mpr (.inl closes),
      work_bind_error.mpr (.inl (endsVisit_error (attempt_error closes)))]
    let visit : Visit := ⟨opening,.refused (.refused e)⟩
    exact @Follows.error _ limit s e ⟨q,t.calls,t.moments,visit :: t.visits⟩ (visit :: new)
      (inside.around entered same inside.counted rfl nofun (congrArg (· + 1) level))
  | ok closing q =>
    have level := (expect_level .closeParen).success closes
    rw [work_bind_eq closes,work_bind_eq (endsVisit_ok (attempt_ok closes))]
    let visit : Visit := ⟨opening,.left q.depth⟩
    refine @Follows.ok _ limit s tree ⟨{ q with depth := q.depth - 1 },t.calls,t.moments,visit :: t.visits⟩
      (visit :: new) (inside.around entered same inside.counted rfl ?_ ?_) calls closed
    · rintro _ ⟨⟩
      omega
    · change q.depth - 1 + 1 = t.parser.depth
      omega

/-- `Follows` for primaries and chains, where the plain productions have this much fuel. -/
structure FollowWithin (limit fuel : Nat) : Prop where
  primary : ∀ {s : Watched} {budget : Nat}, Ready limit s → s.parser.remaining ≤ fuel →
    limit ≤ s.parser.depth + budget →
    Follows limit s (Grammar.primaryWithin fuel s.parser) (Descent.primary (sum budget) s)
  chain : ∀ {s : Watched} {budget rounds : Nat} {left : Tree}, Ready limit s → s.parser.remaining ≤ fuel →
    s.parser.remaining ≤ rounds → limit ≤ s.parser.depth + budget →
    Follows limit s (Grammar.chainWithin fuel left s.parser)
      (chain (Descent.primary (sum budget)) rounds left s)

theorem FollowWithin.summands (follow : FollowWithin limit fuel) (ready : Ready limit s)
    (enough : s.parser.remaining ≤ fuel) (room : limit ≤ s.parser.depth + budget) :
    Follows limit s (Grammar.sumWithin fuel s.parser) (Descent.summands (Descent.sum budget) s) := by
  refine Follows.bind (follow.primary ready enough room) ?_
  intro left t read counted same
  have steady := (Grammar.productions_steady fuel).1
  have further := steady.remaining read
  have depth := (steady.success read).2
  exact follow.chain (ready.after steady read counted same) (by omega) (Nat.le_refl _) (by omega)

theorem FollowWithin.sum (follow : FollowWithin limit fuel) (counted : ∀ m ∈ s.moments, m.Counted limit)
    (calls : s.calls = s.parser.depth) (maxDepth : s.parser.maxDepth = limit)
    (within : s.parser.depth ≤ limit) (enough : s.parser.remaining ≤ fuel)
    (room : limit < s.parser.depth + budget) :
    Follows limit s (Grammar.sumWithin fuel s.parser) (Descent.sum budget s) := by
  cases budget with
  | zero => omega
  | succ budget =>
    have ready : Ready limit { s with calls := s.calls + 1 } :=
      ⟨counted,congrArg (· + 1) calls,maxDepth,within⟩
    rw [sum_succ]
    exact (follow.summands (ready.begins .sum) enough (Nat.le_of_lt_succ room)).begun.returned

theorem FollowWithin.inGroup (follow : FollowWithin limit fuel) (ready : Ready limit s)
    (enough : s.parser.remaining ≤ fuel) (room : limit ≤ s.parser.depth + budget) : Follows limit s
      ((do
        enterGroup opening.span.start
        let tree ← Grammar.sumWithin fuel
        let _ ← expect .closeParen
        exitGroup
        return tree : ParserM Tree) s.parser)
      (inGroup opening (Descent.sum budget) s) := by
  unfold Descent.inGroup
  by_cases full : s.parser.maxDepth ≤ s.parser.depth
  · let e : Error := ⟨.nestingTooDeep s.parser.maxDepth,opening.span.start⟩
    have refused : enterGroup opening.span.start s.parser = .error e s.parser := if_pos full
    rw [work_bind_error.mpr (.inl refused),work_bind_error.mpr (.inl (attempt_error refused))]
    exact @Follows.error _ limit s e s [] (.level ready.counted rfl rfl)
  · let raised : Watched := { s with parser := { s.parser with depth := s.parser.depth + 1 } }
    have entered : enterGroup opening.span.start s.parser = .ok () raised.parser :=
      enterGroup_ok.mpr ⟨Nat.not_le.mp full,rfl⟩
    have within : raised.parser.depth ≤ limit := ready.maxDepth ▸ Nat.not_le.mp full
    have inside : Follows limit raised (Grammar.sumWithin fuel raised.parser) (Descent.sum budget raised) :=
      follow.sum ready.counted ready.calls ready.maxDepth within enough (by
        change limit < s.parser.depth + 1 + budget
        omega)
    rw [work_bind_eq entered,work_bind_eq (attempt_ok entered)]
    generalize plain : Grammar.sumWithin fuel raised.parser = done at inside
    generalize seen : Descent.sum budget raised = told at inside
    cases inside with
    | @error e t new since =>
      let visit : Visit := ⟨opening,.abandoned⟩
      rw [work_bind_error.mpr (.inl plain),work_bind_error.mpr (.inl (endsVisit_error seen))]
      exact @Follows.error _ limit s e { t with visits := visit :: t.visits } (visit :: new)
        (since.around rfl rfl since.counted rfl nofun rfl)
    | ok since calls closed =>
      rw [work_bind_eq plain,work_bind_eq (endsVisit_ok seen)]
      exact follows_closing since rfl rfl calls closed

theorem FollowWithin.group (follow : FollowWithin limit fuel) (ready : Ready limit s)
    (enough : s.parser.remaining ≤ fuel + 1) (room : limit ≤ s.parser.depth + budget) :
    Follows limit s (Grammar.groupOf (Grammar.sumWithin fuel) s.parser)
      (Descent.group (Descent.sum budget) s) := by
  have begun := ready.begins .group
  refine Follows.begun (Follows.bind (follows_attempt (expect_level .openParen) begun.counted) ?_)
  intro opening t opened counted same
  have shorter : t.parser.remaining < s.parser.remaining := expect_remaining opened
  have depth : t.parser.depth = s.parser.depth := (expect_level .openParen).success opened
  exact follow.inGroup (begun.after (expect_steady .openParen) opened counted same) (by omega) (by omega)

theorem follows_primary (ready : Ready limit s) (notGroup : s.parser.kind? ≠ some .openParen) :
    Follows limit s (Grammar.number s.parser) (primary (sum budget) s) := by
  rw [primary_eq,if_neg notGroup]
  exact (follows_number (ready.begins .primary)).begun

theorem kind_of_remaining {p : Parser} (none : p.remaining = 0) (kind : TokenKind) : p.kind? ≠ some kind := by
  unfold remaining at none
  cases look : p.lookahead with
  | none => simp [kind?,look]
  | some t => simp [look] at none

theorem productions_followed (limit fuel : Nat) : FollowWithin limit fuel := by
  induction fuel with
  | zero =>
    constructor
    · intro s budget ready enough room
      exact follows_primary ready (kind_of_remaining (Nat.le_zero.mp enough) _)
    · intro s budget rounds left ready enough _ room
      rw [chain_stop rounds (kind_of_remaining (Nat.le_zero.mp enough) _)]
      exact .ok (.level ready.counted rfl rfl) rfl rfl
  | succ fuel ih =>
    constructor
    · intro s budget ready enough room
      rw [Grammar.primaryWithin_succ]
      split
      next opens =>
        rw [primary_eq,if_pos opens]
        exact (ih.group (ready.begins .primary) enough room).begun
      next notGroup => exact follows_primary ready notGroup
    · intro s budget rounds left ready enough words room
      rw [Grammar.chainWithin_succ]
      split
      next continues =>
        cases rounds with
        | zero => exact absurd continues (kind_of_remaining (Nat.le_zero.mp words) _)
        | succ rounds =>
          rw [chain_succ,if_pos continues]
          have operators := expect_steady .additiveOperator
          refine Follows.bind (follows_attempt (expect_level .additiveOperator) ready.counted) ?_
          intro operator t expected counted same
          have shorter := expect_remaining expected
          have joins : Ready limit t := ready.after operators expected counted same
          have depth := (operators.success expected).2
          refine Follows.bind (ih.primary joins (by omega) (by omega)) ?_
          intro right u read counted again
          have operands := (Grammar.productions_steady fuel).1
          have further := operands.remaining read
          have deep := (operands.success read).2
          exact ih.chain (joins.after operands read counted again) (by omega) (by omega) (by omega)
      next stop =>
        rw [chain_stop rounds stop]
        exact .ok (.level ready.counted rfl rfl) rfl rfl

end Descent

end Reckoner
