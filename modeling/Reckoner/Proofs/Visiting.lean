import Reckoner.Proofs.Pairing

/-! Parser depth after a production, from any session state. It grows by one for each unclosed
group and is otherwise preserved. -/
namespace Reckoner

namespace Visiting

open Reckoner.Parser
open Reckoner.Descent

/-- The instrumented production with a sufficient budget; groups already open count as active
calls. -/
def noted (production : Production) (p : Parser) : EStateM.Result Halt Watched Tree :=
  match production with
  | .sum => sum (p.maxDepth + 1) ⟨p,p.depth,[],[]⟩
  | .primary => primary (sum p.maxDepth) ⟨p,p.depth + 1,[],[]⟩
  | .group => group (sum p.maxDepth) ⟨p,p.depth + 1,[],[]⟩
  | .number => number ⟨p,p.depth + 1,[],[]⟩

variable {α : Type}

/-- Erases the instrumentation. -/
def unnoted : EStateM.Result Halt Watched α → Option (EStateM.Result Error Parser α)
  | .ok a s => some (.ok a s.parser)
  | .error (.refused e) s => some (.error e s.parser)
  | .error .exhausted _ => none

def visitsOf : EStateM.Result Halt Watched α → List Visit
  | .ok _ s => s.visits
  | .error _ s => s.visits

variable {p q : Parser} {s : Watched} {limit : Nat} {plain : EStateM.Result Error Parser α}
  {told : EStateM.Result Halt Watched α}

theorem unnoted_eq (follows : Follows limit s plain told) : unnoted told = some plain := by
  cases follows with
  | ok => rfl
  | error => rfl

theorem above (follows : Follows limit s plain told) (fresh : s.visits = []) :
    ∀ v ∈ visitsOf told, ∀ depth, v.ending = .left depth → s.parser.depth < depth := by
  cases follows with
  | ok since | error since =>
    have visits := since.visits
    rw [fresh,List.append_nil] at visits
    rw [visitsOf,visits]
    exact since.above

theorem depth_of_error {e : Error} (follows : Follows limit s (.error e q) told) (fresh : s.visits = []) :
    q.depth = s.parser.depth + (visitsOf told).countP Visit.isUnclosed := by
  cases follows with
  | error since =>
    have visits := since.visits
    rw [fresh,List.append_nil] at visits
    rw [visitsOf,visits]
    exact since.depth

theorem follows_noted (production : Production) (within : p.depth ≤ p.maxDepth) :
    ∃ s : Watched, s.parser = p ∧ s.visits = [] ∧
      Follows p.maxDepth s (production.work p) (noted production p) := by
  have follow := productions_followed p.maxDepth p.remaining
  have ready : Ready p.maxDepth ⟨p,p.depth + 1,[],[]⟩ := ⟨nofun,rfl,rfl,within⟩
  have room : p.maxDepth ≤ p.depth + p.maxDepth := Nat.le_add_left _ _
  cases production with
  | sum => exact ⟨⟨p,p.depth,[],[]⟩,rfl,rfl,follow.sum nofun rfl rfl within (Nat.le_refl _) (by
      change p.maxDepth < p.depth + (p.maxDepth + 1)
      omega)⟩
  | primary => exact ⟨_,rfl,rfl,follow.primary ready (Nat.le_refl _) room⟩
  | group => exact ⟨_,rfl,rfl,follow.group ready (Nat.le_succ _) room⟩
  | number => exact ⟨_,rfl,rfl,follows_number ready⟩

/-- In every session state the instrumented production agrees with the plain one, and closed
groups are left above the initial depth. On success the depth is restored, a non-empty balanced
block of words is consumed, and no operator follows a sum. On failure the depth grows by the
number of unclosed visits. -/
theorem depth_counts_unclosed_groups (source : String) (maxDepth : Nat) (start p : Parser) (log : Log)
    (production : Production) (started : ofSource source maxDepth = .ok start)
    (session : Session start log p) :
    unnoted (noted production p) = some (production.work p) ∧
    (∀ v ∈ visitsOf (noted production p), ∀ depth, v.ending = .left depth → p.depth < depth) ∧
    (∀ tree q, production.work p = .ok tree q → q.depth = p.depth ∧
      (∃ consumed behind, p.Unconsumed source (consumed ++ behind) ∧ q.Unconsumed source behind ∧
        consumed ≠ [] ∧ Paired consumed) ∧
      (production = .sum → q.kind? ≠ some .additiveOperator)) ∧
    (∀ e q, production.work p = .error e q → p.depth ≤ q.depth ∧
      q.depth = p.depth + (visitsOf (noted production p)).countP Visit.isUnclosed) := by
  obtain ⟨l,run⟩ := on_ok.mp started
  obtain ⟨sane,_⟩ := Grammar.start_ahead run
  obtain ⟨ts,moves,_⟩ := session.moves
  have within : p.depth ≤ p.maxDepth := moves.keeps.within sane.within
  have placed : Placed source p := ((placed_ofSource started).moves moves).1
  obtain ⟨s,rfl,fresh,follows⟩ := follows_noted production within
  refine ⟨unnoted_eq follows,above follows fresh,?_,?_⟩
  · intro tree q success
    exact ⟨(production.steady.success success).2,Production.consumes placed within success⟩
  · intro e q failed
    rw [failed] at follows
    have raised := depth_of_error follows fresh
    exact ⟨by omega,raised⟩

/-- After an error inside a group, three groups are entered. Of the two inner ones the first is
closed and the second loses its closing parenthesis to an unclassified word; the enclosing one
is abandoned. -/
theorem depth_counts_unclosed_groups_lost_closing :
    let second : Token := ⟨.openParen,"(",⟨4,5⟩⟩
    let third : Token := ⟨.openParen,"(",⟨6,7⟩⟩
    let fourth : Token := ⟨.openParen,"(",⟨14,15⟩⟩
    let ahead : List Word := [⟨"(",6,7⟩,⟨"1",8,9⟩,⟨")",10,11⟩,⟨"-",12,13⟩,⟨"(",14,15⟩,⟨"2",16,17⟩,
      ⟨")",18,19⟩,⟨"x",20,21⟩]
    let start : Parser := ⟨⟨⟨"+",2,3⟩ :: ⟨"(",4,5⟩ :: ahead,21⟩,some ⟨.openParen,"(",⟨0,1⟩⟩,0,3⟩
    let p : Parser := ⟨⟨ahead,21⟩,some second,1,3⟩
    let q : Parser := ⟨⟨[],21⟩,none,3,3⟩
    let e : Error := ⟨.unexpectedInput "x",20⟩
    let log : Log := [(.sum,.error ⟨.unexpectedTokenType .number .additiveOperator "+",2⟩),
      (.expect .additiveOperator,.ok (.token ⟨.additiveOperator,"+",⟨2,3⟩⟩))]
    let visits : List Visit := [⟨second,.abandoned⟩,⟨fourth,.refused (.refused e)⟩,⟨third,.left 3⟩]
    ofSource "( + ( ( 1 ) - ( 2 ) x" 3 = .ok start ∧ Session start log p ∧
      visitsOf (noted .group p) = visits ∧ Production.group.work p = .error e q ∧
      q.depth = p.depth + visits.countP Visit.isUnclosed := by
  intro second third fourth ahead start p q e log visits
  have started : ofSource "( + ( ( 1 ) - ( 2 ) x" 3 = .ok start := by decide +kernel
  have summed : Request.sum.perform start = .error ⟨.unexpectedTokenType .number .additiveOperator "+",2⟩
      ⟨⟨⟨"(",4,5⟩ :: ahead,21⟩,some ⟨.additiveOperator,"+",⟨2,3⟩⟩,1,3⟩ := by decide +kernel
  have session : Session start log p := .failed trivial summed (.done trivial rfl .nil)
  have told : visitsOf (noted .group p) = visits := by decide +kernel
  have failed : Production.group.work p = .error e q := by decide +kernel
  obtain ⟨_,_,_,counts⟩ := depth_counts_unclosed_groups _ 3 start p log .group started session
  have raised := (counts e q failed).2
  rw [told] at raised
  exact ⟨started,session,told,failed,raised⟩

end Visiting

end Reckoner
