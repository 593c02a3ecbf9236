import Mathlib.Data.List.SplitBy
import Reckoner.Command.Run
import Reckoner.Log.Filter

/-! A run without verbosity and without a log filter emits no log: every record of the start,
the settings and the calculations is above the default threshold. -/
namespace Reckoner

namespace Log

/-- Premise on the subscriber: without a filter text it drops records above its threshold.
`Filter.subscribe` is an instance. -/
structure DropsAbove (subscribe : Nat → Option String → Subscriber) : Prop where
  complaints : ∀ threshold, (subscribe threshold none).complaints = []
  above : ∀ {threshold : Nat} {records : List Record}, (∀ r ∈ records, threshold < r.event.level.rank) →
    (subscribe threshold none).render records = ""

end Log

namespace Log.Filter

variable {threshold : Nat}

def upTo (threshold : Nat) : Filter := ofDirectives [{ threshold := threshold }]

theorem ofText_empty (threshold : Nat) : ofText threshold "" = (upTo threshold,[]) := by
  have parts : "".splitOn "," = [""] := by
    rw [String.splitOn,String.splitOnAux]
    decide +kernel
  simp [ofText,parts,upTo]

theorem enter_threshold (i : Inside) (s : Scope) : ((upTo threshold).enter i s).threshold = i.threshold := by
  have none : (upTo threshold).about s = [] := rfl
  unfold enter
  rw [none]
  dsimp only
  split <;> rfl

theorem entered_threshold (scopes : List Scope) (i : Inside) :
    (scopes.foldl (upTo threshold).enter i).threshold = i.threshold := by
  induction scopes generalizing i with
  | nil => rfl
  | cons s scopes ih => rw [List.foldl_cons,ih,enter_threshold]

theorem keep_above {i : Inside} {e : Event} (outside : i.threshold = 0) (above : threshold < e.level.rank) :
    (upTo threshold).keep? i e = none := by
  have fitting : closest ((upTo threshold).plain.filter (·.fitsEvent e)) = threshold := by
    simp [upTo,ofDirectives,plain,Directive.isPlain,Directive.fitsEvent,Directive.fitsTarget,closest]
  rw [keep?,fitting,outside]
  simp
  omega

theorem render_above {records : List Record} (above : ∀ r ∈ records, threshold < r.event.level.rank) :
    (upTo threshold).render records = "" := by
  have dropped : (records.splitBy fun r s => r.scopes == s.scopes).flatMap (upTo threshold).keepAll = [] := by
    refine List.flatMap_eq_nil_iff.mpr fun group member => List.filterMap_eq_nil_iff.mpr fun r inside => ?_
    have among : r ∈ records := by
      rw [← List.flatten_splitBy (fun r s : Record => r.scopes == s.scopes) records]
      exact List.mem_flatten_of_mem member inside
    exact keep_above (entered_threshold _ _) (above r among)
  rw [render,dropped]
  rfl

theorem dropsAbove : DropsAbove subscribe where
  complaints threshold := by
    rw [subscribe,Option.getD_none,ofText_empty]
  above above := by
    rw [subscribe,Option.getD_none,ofText_empty]
    exact render_above above

end Log.Filter

namespace Command

open Log (Level)

theorem tokenRecords_rank {α : Type} (scopes : List Log.Scope) (work : LexerM α) (source : String) :
    ∀ r ∈ tokenRecords scopes work source, Level.warn.rank < r.event.level.rank := by
  intro r member
  obtain ⟨t,_,rfl⟩ := List.mem_map.mp member
  simp [Token.record,Level.rank]

theorem stage_rank (strategy : Strategy) (config : Config) (source : String) :
    ∀ e ∈ strategy.stage config source, Level.warn.rank < e.level.rank := by
  intro e told
  unfold Strategy.stage at told
  cases strategy with
  | reversePolish => cases told
  | recursiveDescent | shuntingYard =>
    dsimp only at told
    split at told
    next =>
      cases told
      simp [Level.rank]
    next => cases told

theorem parseRecords_rank (c : Calculator) (outer : List Log.Scope) (source : String) :
    ∀ r ∈ c.parseRecords outer source, Level.warn.rank < r.event.level.rank := by
  intro r member
  rcases List.mem_append.mp member with member | member
  · exact tokenRecords_rank _ _ _ r member
  · obtain ⟨e,told,rfl⟩ := List.mem_map.mp member
    exact stage_rank _ _ _ e (Option.mem_toList.mp told)

theorem evaluationRecords_rank (c : Calculator) (scopes : List Log.Scope) (t : Tree) :
    ∀ r ∈ c.evaluationRecords scopes t, Level.warn.rank < r.event.level.rank := by
  unfold Calculator.evaluationRecords
  cases t.evaluate c.config.overflow <;> simp [Level.rank]

theorem calculateRecords_rank (c : Calculator) (source : String) :
    ∀ r ∈ c.calculateRecords source, Level.warn.rank < r.event.level.rank := by
  intro r member
  rcases List.mem_append.mp member with member | member
  · exact parseRecords_rank c _ source r member
  · split at member
    next => exact evaluationRecords_rank c _ _ r member
    next => cases member

theorem records_rank (o : Options) (config : Config) (source : String) :
    ∀ r ∈ o.records config source, Level.warn.rank < r.event.level.rank := by
  unfold Options.records
  cases o.output with
  | tokens => exact tokenRecords_rank _ _ _
  | tree => exact parseRecords_rank _ _ _
  | value => exact calculateRecords_rank _ _

theorem reading_rank (o : Options) : ∀ r ∈ o.readingRecords, Level.warn.rank < r.event.level.rank := by
  intro r member
  obtain ⟨path,_,rfl⟩ := List.mem_map.mp member
  simp [Level.rank]

theorem starting_rank (o : Options) (config : Config) :
    ∀ r ∈ [o.startRecord config], Level.warn.rank < r.event.level.rank := by
  simp [Options.startRecord,Level.rank]

end Command

end Reckoner
