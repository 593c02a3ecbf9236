import Reckoner.Proofs.Descent

/-! Insufficient call budgets. A smaller budget reproduces the run under a larger one up to the
first call it cannot pay for, so it is exhausted iff some moment of the larger run uses more
calls. -/
namespace Reckoner.Descent

open Reckoner.Parser

variable {α β : Type} {limit calls budget : Nat} {s : Watched}

def momentsOf : EStateM.Result Halt Watched α → List Moment
  | .ok _ s => s.moments
  | .error _ s => s.moments

def Records (work : WatchedM α) : Prop := ∀ s, s.moments ⊆ momentsOf (work s)

theorem Records.bind {work : WatchedM α} {f : α → WatchedM β} (first : Records work)
    (after : ∀ a, Records (f a)) : Records (work >>= f) := by
  intro s
  have kept := first s
  change s.moments ⊆ momentsOf (EStateM.bind work f s)
  unfold EStateM.bind
  cases ran : work s with
  | ok a t => exact List.Subset.trans (by rwa [ran] at kept) (after a t)
  | error halt t => rwa [ran] at kept

/-- Outcomes under a smaller and a larger budget: equal when no moment used more than `limit`
calls, otherwise the smaller one is exhausted and such a moment exists. -/
inductive Cut (limit calls : Nat) : EStateM.Result Halt Watched α → EStateM.Result Halt Watched α → Prop where
  | ok {a : α} {s : Watched} (shallow : ∀ m ∈ s.moments, m.calls ≤ limit) (same : s.calls = calls) :
      Cut limit calls (.ok a s) (.ok a s)
  | error {halt : Halt} {s : Watched} (shallow : ∀ m ∈ s.moments, m.calls ≤ limit) :
      Cut limit calls (.error halt s) (.error halt s)
  | short {s : Watched} {outcome : EStateM.Result Halt Watched α}
      (deep : ∃ m ∈ momentsOf outcome, limit < m.calls) : Cut limit calls (.error .exhausted s) outcome

theorem Cut.bind {later : Nat} {x y : WatchedM α} {f g : α → WatchedM β}
    (first : Cut limit calls (x s) (y s)) (records : ∀ a, Records (g a))
    (after : ∀ a t, (∀ m ∈ t.moments, m.calls ≤ limit) → t.calls = calls → Cut limit later (f a t) (g a t)) :
    Cut limit later ((x >>= f) s) ((y >>= g) s) := by
  change Cut limit later (EStateM.bind x f s) (EStateM.bind y g s)
  unfold EStateM.bind
  generalize x s = tight, y s = loose at first
  cases first with
  | ok shallow same => exact after _ _ shallow same
  | error shallow => exact .error shallow
  | short deep =>
    refine .short ?_
    obtain ⟨m,member,deep⟩ := deep
    cases loose with
    | ok a t => exact ⟨m,records a t member,deep⟩
    | error halt t => exact ⟨m,member,deep⟩

/-- The relation `Cut` between two runs of the same work, with `calls` calls already active. -/
structure Cuts (limit calls : Nat) (tight loose : WatchedM α) : Prop where
  records : Records loose
  cut : ∀ s, (∀ m ∈ s.moments, m.calls ≤ limit) → s.calls = calls → Cut limit calls (tight s) (loose s)

theorem Cuts.bind {x y : WatchedM α} {f g : α → WatchedM β} (first : Cuts limit calls x y)
    (after : ∀ a, Cuts limit calls (f a) (g a)) : Cuts limit calls (x >>= f) (y >>= g) where
  records := first.records.bind fun a => (after a).records
  cut s shallow same := (first.cut s shallow same).bind (fun a => (after a).records) fun a => (after a).cut

theorem cuts_pure (a : α) : Cuts limit calls (pure a : WatchedM α) (pure a) :=
  ⟨fun _ => List.Subset.refl _,fun _ shallow same => .ok shallow same⟩

theorem cuts_get : Cuts limit calls (get : WatchedM Watched) get :=
  ⟨fun _ => List.Subset.refl _,fun _ shallow same => .ok shallow same⟩

theorem cuts_attempt (work : ParserM α) : Cuts limit calls (attempt work) (attempt work) := by
  constructor
  · intro s
    unfold attempt
    cases work s.parser <;> exact List.Subset.refl _
  · intro s shallow same
    unfold attempt
    cases work s.parser with
    | ok a p => exact @Cut.ok α limit calls a { s with parser := p } shallow same
    | error e p => exact @Cut.error α limit calls (.refused e) { s with parser := p } shallow

theorem cuts_note (visit : Visit) : Cuts limit calls (note visit) (note visit) := by
  refine ⟨fun _ => List.Subset.refl _,fun s shallow same => ?_⟩
  exact @Cut.ok _ limit calls () { s with visits := visit :: s.visits } shallow same

theorem cuts_endsVisit {tight loose : WatchedM α} (opening : Token) (ending : Halt → Ending)
    (inner : Cuts limit calls tight loose) :
    Cuts limit calls (endsVisit opening ending tight) (endsVisit opening ending loose) := by
  have kept (t : Watched) : momentsOf (endsVisit opening ending loose t) = momentsOf (loose t) := by
    unfold endsVisit
    cases loose t <;> rfl
  refine ⟨fun s => kept s ▸ inner.records s,fun s shallow same => ?_⟩
  have cut := inner.cut s shallow same
  have moments := kept s
  unfold endsVisit at moments ⊢
  generalize tight s = short, loose s = long at cut moments
  cases cut with
  | ok shallow same => exact .ok shallow same
  | @error halt t shallow => exact @Cut.error α limit calls halt { t with visits := _ :: t.visits } shallow
  | short deep => exact .short (by rwa [moments])

theorem cuts_begins (room : calls ≤ limit) (production : Production) :
    Cuts limit calls (begins production) (begins production) := by
  refine ⟨fun _ => List.subset_cons_self _ _,fun s shallow same => ?_⟩
  refine @Cut.ok _ limit calls () { s with moments := ⟨production,s.parser,s.calls⟩ :: s.moments } ?_ same
  exact List.forall_mem_cons.mpr ⟨same ▸ room,shallow⟩

section

variable {tight loose : WatchedM Tree}

theorem cuts_group (room : calls ≤ limit) (inner : Cuts limit calls tight loose) :
    Cuts limit calls (group tight) (group loose) := by
  refine (cuts_begins room _).bind fun _ => (cuts_attempt _).bind fun opening => ?_
  refine (cuts_attempt _).bind fun _ => (cuts_endsVisit opening _ inner).bind fun tree => ?_
  exact (cuts_endsVisit opening _ (cuts_attempt _)).bind fun _ => cuts_get.bind fun _ =>
    (cuts_note _).bind fun _ => (cuts_attempt _).bind fun _ => cuts_pure tree

theorem cuts_primary (room : calls ≤ limit) (inner : Cuts limit calls tight loose) :
    Cuts limit calls (primary tight) (primary loose) := by
  refine (cuts_begins room _).bind fun _ => cuts_get.bind fun s => ?_
  split
  · exact cuts_group room inner
  · exact (cuts_begins room _).bind fun _ => cuts_attempt _

theorem cuts_chain (operand : Cuts limit calls tight loose) (rounds : Nat) (left : Tree) :
    Cuts limit calls (chain tight rounds left) (chain loose rounds left) := by
  induction rounds generalizing left with
  | zero =>
    rw [chain,chain]
    refine cuts_get.bind fun s => ?_
    split
    · exact ⟨fun _ => List.Subset.refl _,fun _ shallow _ => .error shallow⟩
    · exact cuts_pure left
  | succ rounds ih =>
    rw [chain,chain]
    refine cuts_get.bind fun s => ?_
    split
    · exact (cuts_attempt _).bind fun operator => operand.bind fun right => ih _
    · exact cuts_pure left

theorem cuts_summands (room : calls ≤ limit) (inner : Cuts limit calls tight loose) :
    Cuts limit calls (summands tight) (summands loose) :=
  (cuts_primary room inner).bind fun first => cuts_get.bind fun _ =>
    cuts_chain (cuts_primary room inner) _ first

end

theorem records_closing (tree : Tree) : Records (do
    modify fun s => { s with calls := s.calls - 1 }
    return tree : WatchedM Tree) := fun _ => List.Subset.refl _

theorem sum_begun (body : Records (summands (sum budget))) (s : Watched) :
    ⟨.sum,s.parser,s.calls + 1⟩ :: s.moments ⊆ momentsOf (sum (budget + 1) s) := by
  rw [sum_succ]
  exact body.bind records_closing ⟨s.parser,s.calls + 1,_,_⟩

theorem cuts_sum_succ {less more : Nat} (room : calls < limit)
    (inner : Cuts limit (calls + 1) (sum less) (sum more)) :
    Cuts limit calls (sum (less + 1)) (sum (more + 1)) := by
  have body := cuts_summands room inner
  refine ⟨fun s => List.Subset.trans (List.subset_cons_self _ _) (sum_begun body.records s),?_⟩
  intro s shallow same
  have counted : s.calls + 1 = calls + 1 := congrArg (· + 1) same
  have begun : ∀ m ∈ (⟨.sum,s.parser,s.calls + 1⟩ :: s.moments : List Moment), m.calls ≤ limit :=
    List.forall_mem_cons.mpr ⟨counted ▸ room,shallow⟩
  rw [sum_succ,sum_succ]
  refine (body.cut ⟨s.parser,s.calls + 1,_,_⟩ begun counted).bind records_closing ?_
  intro tree t shallow same
  refine @Cut.ok _ limit calls tree { t with calls := t.calls - 1 } shallow ?_
  change t.calls - 1 = calls
  rw [same]
  rfl

theorem cuts_refl (room : calls + budget ≤ limit) : Cuts limit calls (sum budget) (sum budget) := by
  induction budget generalizing calls with
  | zero => exact ⟨fun _ => List.Subset.refl _,fun _ shallow _ => .error shallow⟩
  | succ budget ih => exact cuts_sum_succ (by omega) (ih (by omega))

theorem cuts_sum (calls less spare : Nat) : Cuts (calls + less) calls (sum less) (sum (less + spare)) := by
  induction less generalizing calls with
  | zero =>
    refine ⟨(cuts_refl (Nat.le_refl (0 + (0 + spare)))).records,fun s shallow same => ?_⟩
    cases spare with
    | zero => exact .error shallow
    | succ spare =>
      have body := cuts_summands (Nat.zero_le _) (cuts_refl (Nat.le_refl (0 + (0 + spare))))
      refine .short ⟨_,sum_begun body.records s List.mem_cons_self,?_⟩
      dsimp only
      omega
  | succ less ih =>
    have inner := ih (calls + 1)
    rw [Nat.add_right_comm calls 1 less] at inner
    rw [Nat.add_right_comm less 1 spare]
    exact cuts_sum_succ (by omega) inner

theorem parse_eq_whole (config : Config) (source : String) : (Grammar.parse config).on source =
    match ofSource source config.maxDepth with
    | .error e => .error e
    | .ok p =>
      match (do let tree ← Grammar.sum; finish config.trailingInput; return tree : ParserM Tree) p with
      | .ok tree _ => .ok tree
      | .error e _ => .error e := by
  unfold LexerM.on ofSource Grammar.parse LexerM.on
  cases start config.maxDepth (Lexer.ofSource source) with
  | error e l => rfl
  | ok p l =>
    dsimp only
    generalize (Grammar.sum >>= _ : ParserM Tree) p = done
    cases done <;> rfl

theorem parse_follows (config : Config) (source : String) (spare : Nat) :
    (parse config (config.maxDepth + 1 + spare) source).1 =
        ((Grammar.parse config).on source).mapError .refused ∧
    ∀ m ∈ (parse config (config.maxDepth + 1 + spare) source).2, m.Counted config.maxDepth := by
  rw [parse_eq_whole]
  unfold parse
  cases started : ofSource source config.maxDepth with
  | error e => exact ⟨rfl,nofun⟩
  | ok p =>
    obtain ⟨l,run⟩ := on_ok.mp started
    obtain ⟨sane,_,depth,maxDepth⟩ := Grammar.start_ahead run
    have unwatched : ∀ m ∈ (⟨p,0,[],[]⟩ : Watched).moments, m.Counted config.maxDepth :=
      fun m member => absurd member List.not_mem_nil
    have within : p.depth ≤ config.maxDepth := maxDepth ▸ sane.within
    have room : config.maxDepth < p.depth + (config.maxDepth + 1 + spare) := by omega
    have summed := (productions_followed config.maxDepth p.remaining).sum unwatched depth.symm maxDepth
      within (Nat.le_refl _) room
    have whole : Follows config.maxDepth ⟨p,0,[],[]⟩
        ((do let tree ← Grammar.sum; finish config.trailingInput; return tree : ParserM Tree) p)
        ((do
          let tree ← sum (config.maxDepth + 1 + spare)
          attempt (finish config.trailingInput)
          return tree : WatchedM Tree) ⟨p,0,[],[]⟩) :=
      Follows.bind summed fun tree t _ counted _ =>
        Follows.bind (follows_attempt (finish_level config.trailingInput) counted) fun _ u _ counted _ =>
          .ok (.level counted rfl rfl) rfl rfl
    dsimp only
    generalize (Grammar.sum >>= _ : ParserM Tree) p = done at whole ⊢
    generalize (sum _ >>= _ : WatchedM Tree) ⟨p,0,[],[]⟩ = seen at whole ⊢
    cases whole with
    | ok since => exact ⟨rfl,since.counted⟩
    | error since => exact ⟨rfl,since.counted⟩

theorem refused_ne_exhausted (outcome : Except Error Tree) :
    outcome.mapError Halt.refused ≠ .error .exhausted := by
  cases outcome <;> exact nofun

/-- A budget is exhausted iff some moment of the sufficient run uses more calls than it allows. -/
theorem exhausted_iff (config : Config) (source : String) (less spare : Nat)
    (enough : (parse config (less + spare) source).1 ≠ .error .exhausted) :
    (parse config less source).1 = .error .exhausted ↔
      ∃ m ∈ (parse config (less + spare) source).2, less < m.calls := by
  unfold parse at enough ⊢
  generalize ofSource source config.maxDepth = started at enough ⊢
  cases started with
  | error e => simp
  | ok p =>
    dsimp only at enough ⊢
    have ending (tree : Tree) : Cuts (0 + less) 0 (do attempt (finish config.trailingInput); return tree)
      (do attempt (finish config.trailingInput); return tree) := (cuts_attempt _).bind fun _ => cuts_pure tree
    have whole := ((cuts_sum 0 less spare).bind ending).cut ⟨p,0,[],[]⟩ (by simp) rfl
    rw [Nat.zero_add] at whole
    generalize (sum less >>= _ : WatchedM Tree) ⟨p,0,[],[]⟩ = tight at whole ⊢
    generalize (sum (less + spare) >>= _ : WatchedM Tree) ⟨p,0,[],[]⟩ = loose at whole enough ⊢
    have unreached {ms : List Moment} (shallow : ∀ m ∈ ms, m.calls ≤ less) : ¬∃ m ∈ ms, less < m.calls := by
      rintro ⟨m,member,deep⟩
      exact absurd (shallow m member) (Nat.not_le.mpr deep)
    cases whole with
    | ok shallow => exact iff_of_false nofun (unreached shallow)
    | error shallow => exact iff_of_false enough (unreached shallow)
    | short deep =>
      refine iff_of_true rfl ?_
      cases loose <;> exact deep

/-- Any budget above the nesting limit gives the result of the plain parser. At every moment the
active calls are `depth + 1`, and a budget is exhausted iff some moment exceeds it. Each
successful production and each operator iteration consumes a word, so neither depends on the
length of the text. -/
theorem calls_follow_groups (config : Config) (source : String) :
    (∀ budget, config.maxDepth < budget →
      (parse config budget source).1 = ((Grammar.parse config).on source).mapError .refused ∧
      (∀ m ∈ (parse config budget source).2,
        m.calls = m.parser.depth + 1 ∧ m.calls ≤ config.maxDepth + 1) ∧
      ∀ less, (parse config less source).1 = .error .exhausted ↔
        ∃ m ∈ (parse config budget source).2, less < m.calls) ∧
    (∀ p q tree, Grammar.sum p = .ok tree q ∨ Grammar.primary p = .ok tree q ∨
      Grammar.group p = .ok tree q ∨ Grammar.number p = .ok tree q → q.remaining < p.remaining) ∧
    ∀ p middle q operator right, expect .additiveOperator p = .ok operator middle →
      Grammar.primary middle = .ok right q → q.remaining < p.remaining := by
  refine ⟨fun budget enough => ?_,?_,?_⟩
  · obtain ⟨spare,rfl⟩ := Nat.exists_eq_add_of_lt enough
    rw [Nat.add_right_comm]
    obtain ⟨same,counted⟩ := parse_follows config source spare
    refine ⟨same,counted,fun less => ?_⟩
    rcases Nat.le_total less (config.maxDepth + 1 + spare) with fewer | more
    · obtain ⟨further,budget⟩ := Nat.exists_eq_add_of_le fewer
      rw [budget] at same ⊢
      exact exhausted_iff config source less further (same ▸ refused_ne_exhausted _)
    · obtain ⟨further,rfl⟩ := Nat.exists_eq_add_of_le more
      have again := (parse_follows config source (spare + further)).1
      rw [← Nat.add_assoc] at again
      refine iff_of_false (again ▸ refused_ne_exhausted _) ?_
      rintro ⟨m,member,deep⟩
      have bound := (counted m member).2
      omega
  · rintro p q tree (success | success | success | success)
    · exact Grammar.sumWithin_remaining success
    · exact Grammar.primaryWithin_remaining success
    · exact Grammar.groupOf_remaining (Grammar.sumWithin_steady _) success
    · exact Grammar.number_remaining success
  · intro p middle q operator right expected success
    have first := expect_remaining expected
    have second := Grammar.primaryWithin_remaining success
    omega

/-- The third group exceeds the limit before its call begins. -/
theorem calls_follow_groups_third :
    let config : Config := ⟨2,.reject,.checked⟩
    let source := "( 1 + ( 2 - ( 3"
    config.maxDepth < 3 ∧ (parse config 3 source).1 = .error (.refused ⟨.nestingTooDeep 2,12⟩) ∧
      (∀ m ∈ (parse config 3 source).2, m.calls = m.parser.depth + 1 ∧ m.calls ≤ 2 + 1) ∧
      (parse config 2 source).1 = .error .exhausted := by
  intro config source
  have failed : (Grammar.parse config).on source = .error ⟨.nestingTooDeep 2,12⟩ := by decide +kernel
  obtain ⟨same,counted,exhausted⟩ := (calls_follow_groups config source).1 3 (by decide)
  rw [failed] at same
  exact ⟨by decide,same,counted,(exhausted 2).mpr (by decide +kernel)⟩

end Reckoner.Descent
