import Reckoner.Proofs.Blame
import Reckoner.Proofs.Pointing
import Reckoner.Proofs.Relocation

/-! Raising the nesting limit. The limit is consulted only where it can stop the work, so a run
under a higher limit extends the run under a lower one. Opening a group takes a word, so a limit
of at least the number of words is never reached. -/
namespace Reckoner

variable {α β σ : Type} {more limit : Nat}

/-- Outcomes under a lower and a higher limit: equal, or the first is a nesting error. -/
inductive Persists : Except Error α → Except Error α → Prop where
  | stopped {e : Error} {outcome : Except Error α} (deep : e.TooDeep) : Persists (.error e) outcome
  | same {outcome : Except Error α} : Persists outcome outcome

theorem Persists.of_ok {a : α} {outcome : Except Error α} (persists : Persists (.ok a) outcome) :
    outcome = .ok a := by
  cases persists
  rfl

theorem Persists.of_error {e : Error} {outcome : Except Error α} (persists : Persists (.error e) outcome)
    (shallow : ¬e.TooDeep) : outcome = .error e := by
  cases persists with
  | stopped deep => exact absurd deep shallow
  | same => rfl

theorem Persists.bind {x y : Except Error α} {f g : α → Except Error β} (first : Persists x y)
    (after : ∀ a, Persists (f a) (g a)) : Persists (x >>= f) (y >>= g) := by
  cases first with
  | stopped deep => exact .stopped deep
  | same =>
    cases x with
    | ok a => exact after a
    | error e => exact .same

theorem Persists.foldlM {step wider : σ → α → Except Error σ}
    (each : ∀ s a, Persists (step s a) (wider s a)) (s : σ) (xs : List α) :
    Persists (xs.foldlM step s) (xs.foldlM wider s) := by
  induction xs generalizing s with
  | nil => exact .same
  | cons x xs ih => exact (each s x).bind ih

/-- `Persists` for stateful work; `widen` raises the limit in the state. -/
inductive PersistsIn (widen : σ → σ) : EStateM.Result Error σ α → EStateM.Result Error σ α → Prop where
  | stopped {e : Error} {s : σ} {outcome : EStateM.Result Error σ α} (deep : e.TooDeep) :
      PersistsIn widen (.error e s) outcome
  | ok {a : α} {s : σ} : PersistsIn widen (.ok a s) (.ok a (widen s))
  | error {e : Error} {s : σ} : PersistsIn widen (.error e s) (.error e (widen s))

/-- The wider run reproduces the narrower one unless that ends in a nesting error. -/
def Lasts (widen : σ → σ) (work wider : EStateM Error σ α) : Prop :=
  ∀ s, PersistsIn widen (work s) (wider (widen s))

namespace Lasts

variable {widen : σ → σ}

theorem refl {work : LexerM α} : Lasts id work work := by
  intro l
  change PersistsIn id (work l) (work l)
  cases work l with
  | ok a rest => exact .ok
  | error e rest => exact .error

theorem pure (a : α) : Lasts widen (Pure.pure a) (Pure.pure a) := fun _ => .ok

theorem ofExcept {x y : Except Error α} (persists : Persists x y) :
    Lasts widen (MonadExcept.ofExcept x) (MonadExcept.ofExcept y) := by
  intro s
  cases persists with
  | stopped deep => exact .stopped deep
  | same =>
    cases x with
    | ok a => exact .ok
    | error e => exact .error

theorem bind {x y : EStateM Error σ α} {f g : α → EStateM Error σ β} (first : Lasts widen x y)
    (after : ∀ a, Lasts widen (f a) (g a)) : Lasts widen (x >>= f) (y >>= g) := by
  intro s
  have outcome := first s
  change PersistsIn widen (EStateM.bind x f s) (EStateM.bind y g (widen s))
  unfold EStateM.bind
  generalize x s = done, y (widen s) = again at outcome
  cases outcome with
  | stopped deep => exact .stopped deep
  | ok => exact after _ _
  | error => exact .error

end Lasts

namespace Lexer

theorem feedWords_persists {step wider : σ → Token → Except Error σ}
    (each : ∀ s t, Persists (step s t) (wider s t)) (stop : Nat) (s : σ) (ws : List Word) :
    PersistsIn id (feedWords step stop s ws) (feedWords wider stop s ws) := by
  induction ws generalizing s with
  | nil => exact .ok
  | cons w ws ih =>
    unfold feedWords
    cases w.token with
    | error e => exact .error
    | ok t =>
      have outcome := each s t
      dsimp only
      generalize step s t = taken, wider s t = again at outcome
      cases outcome with
      | stopped deep => exact .stopped deep
      | same =>
        cases taken with
        | error e => exact .error
        | ok next => exact ih next

theorem feed_lasts {step wider : σ → Token → Except Error σ}
    (each : ∀ s t, Persists (step s t) (wider s t)) (s : σ) : Lasts id (feed step s) (feed wider s) :=
  fun l => feedWords_persists each l.stop s l.unread

end Lexer

theorem Lasts.on {work wider : LexerM α} (lasts : Lasts id work wider) (source : String) :
    Persists (work.on source) (wider.on source) := by
  have outcome := lasts (Lexer.ofSource source)
  change PersistsIn id _ (wider (Lexer.ofSource source)) at outcome
  unfold LexerM.on
  generalize work (Lexer.ofSource source) = done, wider (Lexer.ofSource source) = again at outcome
  cases outcome with
  | stopped deep => exact .stopped deep
  | ok | error => exact .same

namespace Parser

/-- Raises the limit of the parser. -/
def widen (more : Nat) (p : Parser) : Parser := { p with maxDepth := p.maxDepth + more }

theorem kind_widen (p : Parser) : (p.widen more).kind? = p.kind? := rfl

theorem expect_lasts (kind : TokenKind) : Lasts (widen more) (expect kind) (expect kind) := by
  rintro ⟨lexer,lookahead,depth,maxDepth⟩
  cases lookahead with
  | none => exact .error
  | some t =>
    unfold expect widen
    dsimp only
    split
    · cases Lexer.next lexer with
      | ok => exact .ok
      | error => exact .error
    · exact .error

theorem enterGroup_lasts (position : Nat) :
    Lasts (widen more) (enterGroup position) (enterGroup position) := by
  intro p
  unfold enterGroup
  split
  next => exact .stopped ⟨p.maxDepth,rfl⟩
  next room =>
    rw [if_neg (by change ¬p.maxDepth + more ≤ p.depth; omega)]
    exact .ok

theorem exitGroup_lasts : Lasts (widen more) exitGroup exitGroup := fun _ => .ok

theorem finish_lasts (trailing : TrailingInput) :
    Lasts (widen more) (finish trailing) (finish trailing) := by
  rintro ⟨lexer,lookahead,depth,maxDepth⟩
  cases lookahead with
  | none => exact .ok
  | some t =>
    cases trailing with
    | reject => exact .error
    | ignore => exact .ok

end Parser

namespace Grammar

open Reckoner.Parser

theorem number_lasts : Lasts (widen more) number number :=
  (expect_lasts .number).bind fun _ => .ofExcept .same

theorem groupOf_lasts {inner : ParserM Tree} (inside : Lasts (widen more) inner inner) :
    Lasts (widen more) (groupOf inner) (groupOf inner) :=
  (expect_lasts .openParen).bind fun opening => (enterGroup_lasts opening.span.start).bind fun _ =>
    inside.bind fun tree => (expect_lasts .closeParen).bind fun _ => exitGroup_lasts.bind fun _ =>
      .pure tree

/-- By induction on the fuel. Productions branch on the next token, which both parsers share. -/
theorem productions_last (fuel : Nat) : Lasts (widen more) (primaryWithin fuel) (primaryWithin fuel) ∧
    ∀ left, Lasts (widen more) (chainWithin fuel left) (chainWithin fuel left) := by
  induction fuel with
  | zero =>
    constructor
    · rw [primaryWithin]
      exact number_lasts
    · intro left
      rw [chainWithin]
      exact .pure left
  | succ fuel ih =>
    obtain ⟨primary,chain⟩ := ih
    constructor
    · intro p
      rw [primaryWithin_succ,primaryWithin_succ,p.kind_widen]
      split
      · exact groupOf_lasts (primary.bind chain) p
      · exact number_lasts p
    · intro left p
      rw [chainWithin_succ,chainWithin_succ,p.kind_widen]
      split
      · refine Lasts.bind (expect_lasts .additiveOperator) (fun operator => ?_) p
        exact primary.bind fun right => chain (Tree.join operator left right)
      · exact .ok

theorem sum_lasts : Lasts (widen more) sum sum := fun p =>
  (productions_last p.remaining).1.bind (productions_last p.remaining).2 p

theorem parse_lasts (config : Config) :
    Lasts id (parse config) (parse { config with maxDepth := config.maxDepth + more }) := by
  intro l
  have whole : Lasts (widen more) (do let tree ← sum; finish config.trailingInput; return tree)
      (do let tree ← sum; finish config.trailingInput; return tree) :=
    sum_lasts.bind fun tree => (finish_lasts config.trailingInput).bind fun _ => .pure tree
  -- Both lexers are the same. It is the parsers made from them that have different limits.
  change PersistsIn id (parse config l) (parse _ l)
  unfold parse start
  cases Lexer.next l with
  | error e rest => exact .error
  | ok lookahead rest =>
    have outcome := whole ⟨rest,lookahead,0,config.maxDepth⟩
    unfold widen at outcome
    dsimp only at outcome ⊢
    generalize (sum >>= _ : ParserM Tree) ⟨rest,lookahead,0,config.maxDepth⟩ = done,
      (sum >>= _ : ParserM Tree) ⟨rest,lookahead,0,config.maxDepth + more⟩ = again at outcome ⊢
    cases outcome with
    | stopped deep => exact .stopped deep
    | ok => exact .ok
    | error => exact .error

end Grammar

namespace Postfix

theorem assemble_persists (parts : List Part) (t : Token) :
    Persists (assemble limit parts t) (assemble (limit + more) parts t) := by
  by_cases kind : t.kind = .additiveOperator
  · rcases parts with _ | ⟨right,_ | ⟨left,below⟩⟩
    · simp only [assemble,kind]
      exact .same
    · simp only [assemble,kind]
      exact .same
    rw [assemble_operator kind,assemble_operator kind]
    split
    next => exact .stopped ⟨limit,rfl⟩
    next room =>
      rw [if_neg (by omega)]
      exact .same
  · rw [assemble_operand kind,assemble_operand kind]
    exact .same

theorem build_persists (ts : List Token) : Persists (build limit ts) (build (limit + more) ts) :=
  (Persists.foldlM assemble_persists [] ts).bind fun _ => .same

theorem Yard.accept_persists (y : Yard) (t : Token) :
    Persists (y.accept limit t) (y.accept (limit + more) t) := by
  unfold accept
  cases t.kind with
  | number | additiveOperator | closeParen => exact .same
  | openParen =>
    dsimp only
    split
    next => exact .same
    next =>
      split
      next => exact .stopped ⟨limit,rfl⟩
      next room =>
        rw [if_neg (by omega)]
        exact .same

theorem convert_lasts : Lasts id (convert limit) (convert (limit + more)) := by
  refine (Lexer.feed_lasts Yard.accept_persists {}).bind fun y l => ?_
  have finished : Persists (y.finish l.stop) (y.finish l.stop) := .same
  exact Lasts.ofExcept finished l

end Postfix

theorem Strategy.parse_lasts (strategy : Strategy) (config : Config) (more : Nat) :
    Lasts id (strategy.parse config) (strategy.parse { config with maxDepth := config.maxDepth + more }) := by
  have built (tokens : Array Token) : Lasts id
      (MonadExcept.ofExcept (Postfix.build config.maxDepth tokens.toList) : LexerM Tree)
      (MonadExcept.ofExcept (Postfix.build (config.maxDepth + more) tokens.toList)) :=
    .ofExcept (Postfix.build_persists tokens.toList)
  cases strategy with
  | recursiveDescent => exact Grammar.parse_lasts config
  | shuntingYard => exact Postfix.convert_lasts.bind built
  | reversePolish => exact Lasts.refl.bind built

section

variable {stop : Nat} {source : String} {e : Error} {draft : Draft} {ts : List Token}
  {rest : List (Except Error Token)} {parts next : List Postfix.Part}

theorem Word.token_shallow {w : Word} (refused : w.token = .error e) : ¬e.TooDeep := by
  obtain ⟨_,rfl⟩ := Word.token_error.mp refused
  rintro ⟨_,⟨⟩⟩

theorem shallow_ahead (read : (words source).map Word.token = ts.map .ok ++ rest) (g : Error)
    (member : .error g ∈ rest) : ¬g.TooDeep := by
  have among : .error g ∈ (words source).map Word.token := read ▸ List.mem_append_right _ member
  obtain ⟨w,_,refused⟩ := List.mem_map.mp among
  exact Word.token_shallow refused

namespace Draft

theorem Run.groups_le (run : Run limit .start ts draft) : draft.groups.length ≤ ts.length := by
  have tokens : draft.tokens = ts := run.tokens_eq
  have opened := nestedWithin_length ts ts (List.prefix_refl ts)
  rw [← tokens,draft.openGroups_tokens,tokens] at opened
  omega

theorem Run.lt_words (run : Run limit .start ts draft)
    (read : (words source).map Word.token = ts.map .ok ++ rest) (full : limit ≤ draft.groups.length)
    (ahead : rest ≠ []) : limit < (words source).length := by
  have counted := congrArg List.length read
  rw [List.length_map,List.length_append,List.length_map] at counted
  have groups := run.groups_le
  have left := List.length_pos_of_ne_nil ahead
  omega

theorem Fault.full_of_tooDeep (fault : Fault limit stop draft rest e) (deep : e.TooDeep)
    (shallow : ∀ g, .error g ∈ rest → ¬g.TooDeep) : limit ≤ draft.groups.length ∧ rest ≠ [] := by
  cases fault with
  | word | wordInside => exact absurd deep (shallow e (by simp))
  | full _ full => exact ⟨full,nofun⟩
  | operandMissing | groupOpen | operandDue | numeral | closingDue | leftover =>
    obtain ⟨_,⟨⟩⟩ := deep

theorem Refusal.full_of_tooDeep (refusal : Refusal limit stop draft rest e) (deep : e.TooDeep)
    (shallow : ∀ g, .error g ∈ rest → ¬g.TooDeep) : limit ≤ draft.groups.length ∧ rest ≠ [] := by
  cases refusal with
  | word => exact absurd deep (shallow e (by simp))
  | full _ full => exact ⟨full,nofun⟩
  | operandMissing | groupOpen | operandDue | operatorDue | unopened =>
    obtain ⟨_,⟨⟩⟩ := deep

end Draft

namespace Postfix

/-- Lower bound on the tokens read for these parts: one for each part and one for each group its
depth requires. -/
def load : List Part → Nat
  | [] => 0
  | part :: below => part.depth + 1 + load below

theorem load_assemble {t : Token} (assembled : assemble limit parts t = .ok next) :
    load next ≤ load parts + 1 := by
  by_cases kind : t.kind = .additiveOperator
  · rcases parts with _ | ⟨right,_ | ⟨left,below⟩⟩
    · simp only [assemble,kind] at assembled
      cases assembled
    · simp only [assemble,kind] at assembled
      cases assembled
    rw [assemble_operator kind] at assembled
    split at assembled
    · cases assembled
    -- Two parts make one, deeper than the right one by a group at the most.
    · cases assembled
      simp only [load]
      unfold Part.joinDepth
      split <;> omega
  · rw [assemble_operand kind] at assembled
    cases made : Tree.ofToken t with
    | error e => rw [made] at assembled; cases assembled
    | ok tree =>
      rw [made] at assembled
      cases assembled
      simp only [load]
      omega

theorem load_of_tooDeep {t : Token} (refused : assemble limit parts t = .error e) (deep : e.TooDeep) :
    limit < load parts := by
  rcases assemble_error refused with ⟨kind,⟨_,rfl⟩ | rfl⟩ | ⟨_,made⟩
  · obtain ⟨_,⟨⟩⟩ := deep
  · rcases parts with _ | ⟨right,_ | ⟨left,below⟩⟩
    · simp only [assemble,kind] at refused
      cases refused
    · simp only [assemble,kind] at refused
      cases refused
    rw [assemble_operator kind] at refused
    split at refused
    next deeper =>
      simp only [load]
      unfold Part.joinDepth at deeper
      split at deeper <;> omega
    next => cases refused
  · rcases Tree.ofToken_error.mp made with ⟨_,_,rfl⟩ | ⟨_,rfl⟩ <;> obtain ⟨_,⟨⟩⟩ := deep

theorem load_foldlM (failed : ts.foldlM (assemble limit) parts = .error e) (deep : e.TooDeep) :
    limit < load parts + ts.length := by
  induction ts generalizing parts with
  | nil => cases failed
  | cons t ts ih =>
    rw [List.foldlM_cons] at failed
    rw [List.length_cons]
    rcases except_bind_error.mp failed with refused | ⟨next,assembled,failed⟩
    · have loaded := load_of_tooDeep refused deep
      omega
    · have step := load_assemble assembled
      have more := ih failed
      omega

theorem length_of_tooDeep (failed : build limit ts = .error e) (deep : e.TooDeep) : limit < ts.length := by
  rcases except_bind_error.mp failed with failed | ⟨parts,_,failed⟩
  · simpa [load] using load_foldlM failed deep
  · rcases single_error failed with ⟨_,rfl⟩ | ⟨_,_,_,_,rfl⟩ <;> obtain ⟨_,⟨⟩⟩ := deep

end Postfix

end

namespace Strategy

/-- A nesting error requires more words than the limit. -/
theorem words_of_tooDeep {strategy : Strategy} {config : Config} {source : String} {e : Error}
    (failed : (strategy.parse config).on source = .error e) (deep : e.TooDeep) :
    config.maxDepth < (words source).length := by
  cases strategy with
  | recursiveDescent =>
    obtain ⟨ts,draft,rest,read,run,fault⟩ := Grammar.fault_of_parse failed
    obtain ⟨full,ahead⟩ := fault.full_of_tooDeep deep (shallow_ahead read)
    exact run.lt_words read full ahead
  | shuntingYard =>
    rcases shuntingYard_origin failed with ⟨ts,draft,rest,read,run,refusal⟩ | ⟨t,_,_,rfl⟩
    · obtain ⟨full,ahead⟩ := refusal.full_of_tooDeep deep (shallow_ahead read)
      exact run.lt_words read full ahead
    · obtain ⟨_,⟨⟩⟩ := deep
  | reversePolish =>
    rcases reversePolish_origin failed with ⟨w,_,refused⟩ | ⟨ts,spelled,refused⟩
    · exact absurd deep (Word.token_shallow refused)
    · have counted := congrArg List.length spelled
      rw [List.length_map,List.length_map] at counted
      exact counted ▸ Postfix.length_of_tooDeep refused deep

/-- Raising the limit preserves trees and all errors other than nesting errors. With a limit of
at least the number of words, nesting errors do not occur. -/
theorem raised_limit_keeps_outcomes (strategy : Strategy) (config : Config) (source : String) :
    (∀ higher, config.maxDepth ≤ higher →
      (∀ tree, (strategy.parse config).on source = .ok tree →
        (strategy.parse { config with maxDepth := higher }).on source = .ok tree) ∧
      ∀ e, (strategy.parse config).on source = .error e → (∀ limit, e.cause ≠ .nestingTooDeep limit) →
        (strategy.parse { config with maxDepth := higher }).on source = .error e) ∧
    ((words source).length ≤ config.maxDepth → ∀ e, (strategy.parse config).on source = .error e →
      ∀ limit, e.cause ≠ .nestingTooDeep limit) := by
  refine ⟨fun higher le => ?_,fun enough e failed limit cause => ?_⟩
  · obtain ⟨more,rfl⟩ := Nat.exists_eq_add_of_le le
    have persists := (strategy.parse_lasts config more).on source
    refine ⟨fun tree parsed => ?_,fun e failed shallow => ?_⟩
    · exact (parsed ▸ persists).of_ok
    · exact (failed ▸ persists).of_error fun ⟨limit,cause⟩ => shallow limit cause
  · have crowded := words_of_tooDeep failed ⟨limit,cause⟩
    omega

theorem raised_limit_keeps_outcomes_two_groups :
    let groups := "1 - ( 2 - ( 3 ) )"
    let tree : Tree := .operation ⟨.additiveOperator,"-",⟨2,3⟩⟩ (.literal 1 ⟨0,1⟩)
      (.operation ⟨.additiveOperator,"-",⟨8,9⟩⟩ (.literal 2 ⟨6,7⟩) (.literal 3 ⟨12,13⟩) ⟨6,13⟩) ⟨0,13⟩
    ((recursiveDescent.parse ⟨1,.ignore,.checked⟩).on groups = .error ⟨.nestingTooDeep 1,10⟩ ∧
      (recursiveDescent.parse ⟨2,.ignore,.checked⟩).on groups = .ok tree ∧
      (recursiveDescent.parse ⟨9,.ignore,.checked⟩).on groups = .ok tree) ∧
    ((shuntingYard.parse ⟨1,.reject,.checked⟩).on "1 - ( 2" = .error ⟨.mismatchedParentheses,4⟩ ∧
      (shuntingYard.parse ⟨9,.reject,.checked⟩).on "1 - ( 2" = .error ⟨.mismatchedParentheses,4⟩) ∧
    (reversePolish.parse ⟨0,.reject,.checked⟩).on "1 2 3 - - -" = .error ⟨.nestingTooDeep 0,8⟩ ∧
    (words "1 2 3 - - -").length = 6 ∧
    ∀ e, (reversePolish.parse ⟨6,.reject,.checked⟩).on "1 2 3 - - -" = .error e →
      ∀ limit, e.cause ≠ .nestingTooDeep limit := by
  intro groups tree
  have parsed : (recursiveDescent.parse ⟨2,.ignore,.checked⟩).on groups = .ok tree := by decide +kernel
  have failed : (shuntingYard.parse ⟨1,.reject,.checked⟩).on "1 - ( 2" =
      .error ⟨.mismatchedParentheses,4⟩ := by decide +kernel
  have counted : (words "1 2 3 - - -").length = 6 := by decide +kernel
  have kept := (raised_limit_keeps_outcomes recursiveDescent ⟨2,.ignore,.checked⟩ groups).1 9 (by decide)
  have refused := (raised_limit_keeps_outcomes shuntingYard ⟨1,.reject,.checked⟩ "1 - ( 2").1 9 (by decide)
  have roomy := (raised_limit_keeps_outcomes reversePolish ⟨6,.reject,.checked⟩ "1 2 3 - - -").2 counted.le
  exact ⟨⟨by decide +kernel,parsed,kept.1 tree parsed⟩,⟨failed,refused.2 _ failed nofun⟩,
    by decide +kernel,counted,roomy⟩

end Strategy

end Reckoner
