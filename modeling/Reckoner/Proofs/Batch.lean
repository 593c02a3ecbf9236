import Reckoner.Proofs.Input
import Reckoner.Proofs.Lookup
import Reckoner.Proofs.Silence
import Reckoner.Proofs.Spacing

/-! Batch runs. The fold over the expressions stops at the first error whose diagram is too
wide; up to there the report is the sum over the lines. -/
namespace Reckoner

namespace Command

open Log (Level)

variable {o : Options} {config : Config} {s : Surroundings} {log : List Log.Record → String}

namespace Options

def printed (o : Options) (config : Config) (source : String) : String :=
  match o.answer config source with
  | .ok text => text ++ "\n"
  | .error _ => ""

def complaint (o : Options) (config : Config) (source : String) : String :=
  match o.answer config source with
  | .ok _ => ""
  | .error e => (e.diagram source).getD ""

def fails (o : Options) (config : Config) (source : String) : Bool :=
  match o.answer config source with
  | .ok _ => false
  | .error _ => true

/-- Either the expression is answered or the diagram of its error fits the width limit. -/
def draws (o : Options) (config : Config) (source : String) : Bool :=
  match o.answer config source with
  | .ok _ => true
  | .error e => e.caretWidth source ≤ Error.maxWidth

def failed (o : Options) (config : Config) (sources : List String) : Nat := sources.countP (o.fails config)

def tally (o : Options) (config : Config) (sources : List String) : Tally where
  stdout := String.join (sources.map (o.printed config))
  stderr := String.join (sources.map (o.complaint config))
  failures := o.failed config sources

/-- Outputs of the expressions in order, followed by the failure count when it is positive. -/
def sum (o : Options) (config : Config) (sources : List String) : Report where
  status := if o.failed config sources = 0 then 0 else 1
  stdout := String.join (sources.map (o.printed config))
  stderr := String.join (sources.map (o.complaint config)) ++
    if o.failed config sources = 0 then ""
    else "Error: " ++ toString (o.failed config sources) ++ " of " ++ toString sources.length ++
      " expressions failed\n"

/-- Report of a run aborted by the expression after these. -/
def cutShort (o : Options) (config : Config) (notice : String) (sources : List String) : Report where
  status := 101
  stdout := String.join (sources.map (o.printed config))
  stderr := String.join (sources.map (o.complaint config)) ++ notice

end Options

theorem Tally.append_eq (a b : Tally) :
    a ++ b = ⟨a.stdout ++ b.stdout,a.stderr ++ b.stderr,a.failures + b.failures⟩ :=
  rfl

theorem tally_cons (source : String) (sources : List String) (t : Tally) :
    t ++ o.tally config [source] ++ o.tally config sources = t ++ o.tally config (source :: sources) := by
  simp [Tally.append_eq,Options.tally,Options.failed,List.countP_cons,String.append_assoc,Nat.add_assoc,
    Nat.add_comm (List.countP _ sources)]

theorem append_nothing (t : Tally) : t ++ o.tally config [] = t := by
  simp [Tally.append_eq,Options.tally,Options.failed]

theorem nothing_append (t : Tally) : {} ++ t = t := by
  simp [Tally.append_eq]

theorem account_drawn {source : String} (silent : log (o.records config source) = "")
    (drawn : o.draws config source = true) (t : Tally) :
    o.account config log t source = .ok (t ++ o.tally config [source]) := by
  unfold Options.account
  rw [silent]
  cases answered : o.answer config source with
  | ok text => simp [Tally.append_eq,Options.tally,Options.printed,Options.complaint,Options.failed,
      Options.fails,answered]
  | error e =>
    have fits : e.caretWidth source ≤ Error.maxWidth := by simpa [Options.draws,answered] using drawn
    obtain ⟨text,diagram⟩ : ∃ text, e.diagram source = some text := ⟨_,if_pos fits⟩
    simp [Tally.append_eq,Options.tally,Options.printed,Options.complaint,Options.failed,Options.fails,answered,
      diagram]

theorem account_undrawn {source : String} (silent : log (o.records config source) = "")
    (undrawn : ¬o.draws config source = true) (t : Tally) : o.account config log t source = .error t := by
  unfold Options.account
  rw [silent]
  cases answered : o.answer config source with
  | ok text => exact absurd (by simp [Options.draws,answered]) undrawn
  | error e =>
    have far : ¬e.caretWidth source ≤ Error.maxWidth := by simpa [Options.draws,answered] using undrawn
    have diagram : e.diagram source = none := if_neg far
    simp [Tally.append_eq,diagram]

section

variable (silent : ∀ source, log (o.records config source) = "")
include silent

theorem fold_drawn {sources : List String} (drawn : ∀ source ∈ sources, o.draws config source = true)
    (t : Tally) : sources.foldlM (o.account config log) t = .ok (t ++ o.tally config sources) := by
  induction sources generalizing t with
  | nil => exact congrArg Except.ok (append_nothing t).symm
  | cons source sources ih =>
    obtain ⟨first,others⟩ := List.forall_mem_cons.mp drawn
    rw [List.foldlM_cons,account_drawn (silent source) first,ok_bind,ih others,tally_cons]

theorem fold_undrawn {sources : List String} (undrawn : ∃ source ∈ sources, ¬o.draws config source = true)
    (t : Tally) : sources.foldlM (o.account config log) t =
      .error (t ++ o.tally config (sources.takeWhile (o.draws config))) := by
  induction sources generalizing t with
  | nil => simp at undrawn
  | cons source sources ih =>
    by_cases first : o.draws config source = true
    · have others := (List.or_exists_of_exists_mem_cons undrawn).resolve_left (not_not_intro first)
      rw [List.foldlM_cons,account_drawn (silent source) first,ok_bind,ih others,tally_cons,
        List.takeWhile_cons_of_pos first]
    · rw [List.foldlM_cons,account_undrawn (silent source) first,List.takeWhile_cons_of_neg first]
      exact congrArg Except.error (append_nothing t).symm

end

theorem render_expressions (failed total : Nat) : (Failure.expressions failed total).render =
    "Error: " ++ toString failed ++ " of " ++ toString total ++ " expressions failed\n" := by
  have rendered : (Failure.expressions failed total).render =
      "Error: " ++ (toString failed ++ " of " ++ toString total ++ " expressions failed") ++ "" ++ "\n" := rfl
  have ending : " expressions failed" ++ "\n" = " expressions failed\n" := by decide +kernel
  rw [rendered,← ending,String.append_empty]
  simp only [String.append_assoc]

theorem tally_report (sources : List String) :
    (o.tally config sources).report "" sources.length = o.sum config sources := by
  simp only [Tally.report,Options.tally,Options.sum,render_expressions]
  by_cases none : o.failed config sources = 0
  · simp only [none,if_true,String.empty_append,String.append_empty]
  · simp only [none,if_false,String.empty_append]

theorem tally_abort (sources : List String) (notice : String) :
    (o.tally config sources).abort "" notice = o.cutShort config notice sources := by
  simp only [Tally.abort,Options.tally,Options.cutShort,String.empty_append]

theorem fromUTF8_text (text : String) : String.fromUTF8? text.toByteArray = some text := by
  rw [String.fromUTF8?,dif_pos text.isValidUTF8]
  rfl

section

variable (lines : o.expression = none)
include lines

section

variable (quiet : o.verbosity = 0) (unset : s.logFilter = none) (drops : Log.DropsAbove s.subscribe)
  (read : o.readConfig s = .ok config)
include quiet unset drops read

/-- The premise on the subscriber makes the start record and all calculation records render
empty. -/
theorem run_of_text (text : String) : o.run { s with input := text.toByteArray } =
    conclude (o.batch config (s.subscribe Level.warn.rank none).render (expressions text)) "" s.notice
      (expressions text).length := by
  have log : s.subscribe o.threshold s.logFilter = s.subscribe Level.warn.rank none := by
    rw [Options.threshold,quiet,unset]
    rfl
  have whole : o.sources { s with input := text.toByteArray } = .ok (expressions text) := by
    rw [Options.sources,lines]
    dsimp only
    rw [fromUTF8_text]
  have same : o.readConfig { s with input := text.toByteArray } = .ok config := read
  have told : String.join (([] : List String).map (· ++ "\n")) = "" := rfl
  rw [Options.run]
  simp only [log,drops.complaints,told,drops.above (reading_rank o),same,
    drops.above (starting_rank o config),whole,String.append_empty]

variable {text : String} {ls : List (List Char)} (cut : Lines text.toList ls)
include cut

theorem run_drawn (drawn : ∀ source ∈ filled ls, o.draws config source = true) :
    o.run { s with input := text.toByteArray } = o.sum config (filled ls) := by
  rw [run_of_text lines quiet unset drops read,Options.batch,cut.expressions,
    fold_drawn (fun source => drops.above (records_rank o config source)) drawn,nothing_append]
  exact tally_report _

theorem run_undrawn (undrawn : ∃ source ∈ filled ls, ¬o.draws config source = true) :
    o.run { s with input := text.toByteArray } =
      o.cutShort config s.notice ((filled ls).takeWhile (o.draws config)) := by
  rw [run_of_text lines quiet unset drops read,Options.batch,cut.expressions,
    fold_undrawn (fun source => drops.above (records_rank o config source)) undrawn,nothing_append]
  exact tally_abort _ _

theorem run_stdout : (o.run { s with input := text.toByteArray }).stdout =
    String.join (((filled ls).takeWhile (o.draws config)).map (o.printed config)) := by
  by_cases drawn : ∀ source ∈ filled ls, o.draws config source = true
  · rw [run_drawn lines quiet unset drops read cut drawn,List.takeWhile_eq_self_iff.mpr drawn]
    rfl
  · rw [run_undrawn lines quiet unset drops read cut (by simpa using drawn)]
    rfl

end

theorem run_of_bytes (noText : ¬∃ text : String, s.input = text.toByteArray) :
    (o.run s).stdout = "" ∧ (o.run s).status = 1 := by
  have unread : String.fromUTF8? s.input = none := by
    refine dif_neg ?_
    rintro valid
    exact noText ⟨String.fromUTF8 s.input valid,rfl⟩
  have failed : o.sources s = .error .unreadableInput := by
    rw [Options.sources,lines]
    dsimp only
    rw [unread]
  rw [Options.run]
  cases o.readConfig s with
  | error f => exact ⟨rfl,rfl⟩
  | ok config =>
    simp only [failed]
    exact ⟨rfl,rfl⟩

end

theorem reached_append {sources : List String} (others : List String)
    (undrawn : ∃ source ∈ sources, ¬o.draws config source = true) :
    (sources ++ others).takeWhile (o.draws config) = sources.takeWhile (o.draws config) := by
  rw [List.takeWhile_append,if_neg]
  intro whole
  have drawn := List.takeWhile_eq_self_iff.mp ((List.takeWhile_prefix _).eq_of_length whole)
  obtain ⟨source,member,far⟩ := undrawn
  exact far (drawn source member)

theorem filled_append (ls ms : List (List Char)) : filled (ls ++ ms) = filled ls ++ filled ms := by
  simp [filled]

/-- Without an expression argument and without a log filter, the report is determined by the
non-blank lines of the input. If every diagram fits, it is `sum`; otherwise it is `cutShort` at
the first diagram that does not. For an input split after a newline, answers and counts are
additive when the diagrams of the first part fit, and the second part is unreached when one does
not. Input that is not UTF-8 fails before any answer. -/
theorem batch_sums_lines (arguments : List String) (o : Options) (s : Surroundings)
    (parsed : Options.parse arguments = .ok o) (lines : o.expression = none) :
    let report (text : String) := run arguments { s with input := text.toByteArray }
    let rows := s.input.data.toList.splitOn '\n'.toUInt8
    (∀ config, o.verbosity = 0 → s.logFilter = none → Log.DropsAbove s.subscribe →
      o.readConfig s = .ok config →
      (∀ text, (∃ ls, Lines text.toList ls) ∧ ∀ ls, Lines text.toList ls →
        ((∀ source ∈ filled ls, o.draws config source = true) → report text = o.sum config (filled ls)) ∧
        ((∃ source ∈ filled ls, ¬o.draws config source = true) →
          report text = o.cutShort config s.notice ((filled ls).takeWhile (o.draws config)))) ∧
      ∀ a b las lbs, Lines a.toList las → Lines b.toList lbs → (∀ c ∈ a.toList.getLast?, c = '\n') →
        Lines (a ++ b).toList (las ++ lbs) ∧
        ((∀ source ∈ filled las, o.draws config source = true) →
          (report (a ++ b)).stdout = (report a).stdout ++ (report b).stdout) ∧
        ((∃ source ∈ filled las, ¬o.draws config source = true) → report (a ++ b) = report a) ∧
        (filled (las ++ lbs)).length = (filled las).length + (filled lbs).length ∧
        o.failed config (filled (las ++ lbs)) = o.failed config (filled las) + o.failed config (filled lbs)) ∧
    ((∀ row ∈ rows, row.toByteArray.IsValidUTF8) → ∃ text : String, s.input = text.toByteArray) ∧
    ((∃ row ∈ rows, ¬row.toByteArray.IsValidUTF8) →
      (run arguments s).stdout = "" ∧ (run arguments s).status = 1) := by
  intro report rows
  have runs (s : Surroundings) : run arguments s = o.run s := by rw [run,parsed]
  simp only [report,runs]
  refine ⟨fun config quiet unset drops read => ⟨fun text => ⟨exists_lines _,fun ls cut => ?_⟩,?_⟩,
    (Text.exists_text_iff s.input).mpr,?_⟩
  · exact ⟨run_drawn lines quiet unset drops read cut,run_undrawn lines quiet unset drops read cut⟩
  · intro a b las lbs first second ended
    have whole : Lines (a ++ b).toList (las ++ lbs) := String.toList_append ▸ first.append ended second
    refine ⟨whole,?_,?_,?_,?_⟩
    · intro drawn
      rw [run_stdout lines quiet unset drops read whole,run_stdout lines quiet unset drops read first,
        run_stdout lines quiet unset drops read second,filled_append,List.takeWhile_append_of_pos drawn,
        List.takeWhile_eq_self_iff.mpr drawn,List.map_append,String.join_append]
    · intro undrawn
      have later : ∃ source ∈ filled (las ++ lbs), ¬o.draws config source = true := by
        obtain ⟨source,member,far⟩ := undrawn
        exact ⟨source,filled_append las lbs ▸ List.mem_append_left _ member,far⟩
      rw [run_undrawn lines quiet unset drops read whole later,
        run_undrawn lines quiet unset drops read first undrawn,filled_append,reached_append _ undrawn]
    · rw [filled_append,List.length_append]
    · rw [filled_append]
      exact List.countP_append
  · rintro ⟨row,member,invalid⟩
    exact run_of_bytes lines fun text => invalid ((Text.exists_text_iff s.input).mp text row member)

/-- Blank lines, a failing line, and both line endings. -/
theorem batch_sums_lines_mixed :
    let arguments := ["--strategy","shunting-yard"]
    let s : Surroundings :=
      { subscribe := Log.Filter.subscribe, read := fun _ => .error .notFound, input := ⟨#[49,10,50,255,10,51]⟩ }
    let text := "1 + 2\r\n\n 4 ?\n \t\n9 - 4"
    let ls := ["1 + 2".toList,[]," 4 ?".toList," \t".toList,"9 - 4".toList]
    Log.DropsAbove s.subscribe ∧ Lines text.toList ls ∧ run arguments { s with input := text.toByteArray } =
      ⟨1,"3\n5\n","Error: UnexpectedInput (Unexpected input: \x60?\x60, are the tokens separated by " ++
        "whitespace?)\n  |\n1 | 4 ?\n  | --^\nError: 1 of 3 expressions failed\n"⟩ ∧
    (run arguments s).stdout = "" ∧ (run arguments s).status = 1 := by
  intro arguments s text ls
  have parsed : Options.parse arguments = .ok { strategy := .shuntingYard } := by decide +kernel
  have split : text.toList = "1 + 2".toList ++ '\r' :: '\n' :: ([] ++ '\n' :: (" 4 ?".toList ++ '\n' ::
      (" \t".toList ++ '\n' :: "9 - 4".toList))) := by decide
  have cut : Lines text.toList ls := by
    rw [split]
    exact .carriage (by decide) (.newline (by decide) (by decide) (.newline (by decide) (by decide)
      (.newline (by decide) (by decide) (.last (by decide) (by decide)))))
  obtain ⟨sums,_,stops⟩ := batch_sums_lines arguments { strategy := .shuntingYard } s parsed rfl
  obtain ⟨whole,_⟩ := sums {} rfl rfl Log.Filter.dropsAbove rfl
  have drawn := ((whole text).2 ls cut).1 (by decide +kernel)
  refine ⟨Log.Filter.dropsAbove,cut,drawn.trans ?_,stops ⟨[50,255],by decide +kernel,by decide +kernel⟩⟩
  decide +kernel

open Text

def farWord (blanks : Nat) : String := "1" ++ repeated ' ' blanks ++ "x"

variable {blanks : Nat}

theorem farWord_toList (blanks : Nat) : (farWord blanks).toList = '1' :: List.replicate blanks ' ' ++ 'x' :: [] := by
  simp [farWord,repeated]

theorem byteSize_blanks (blanks : Nat) : byteSize (List.replicate blanks ' ') = blanks := by
  induction blanks with
  | zero => rfl
  | succ blanks ih => rw [List.replicate_succ,byteSize_cons,ih,byteSize_singleton,Nat.add_comm]; rfl

theorem words_farWord (some : 0 < blanks) : words (farWord blanks) =
    [⟨"1",⟨0,1⟩⟩,⟨"x",⟨1 + blanks,1 + blanks + 1⟩⟩] := by
  have stops : ∀ c ∈ (List.replicate blanks ' ' ++ 'x' :: []).head?, isBlank c = true := by
    obtain ⟨more,rfl⟩ := Nat.exists_eq_add_of_lt some
    rintro c ⟨⟩
    decide
  have blank : ∀ c ∈ List.replicate blanks ' ', isBlank c = true := by
    intro c member
    rw [List.eq_of_mem_replicate member]
    decide
  rw [words_eq_scan,farWord_toList,List.cons_append,scan_solid (by decide),List.nil_append,scan_eq_ended stops,
    scan_append_blanks blank,byteSize_blanks]
  rfl

theorem calculate_farWord (some : 0 < blanks) :
    Calculator.calculate {} (farWord blanks) = .error ⟨.unexpectedInput "x",1 + blanks⟩ := by
  have numbered : ((Strategy.recursiveDescent.parse {}).ofWords ["1","x"] >>=
      fun t => t.evaluate .checked) = .error ⟨.unexpectedInput "x",2⟩ := by decide +kernel
  have place : (Lexer.places (farWord blanks)).start 2 = 1 + blanks := by
    simp [Lexer.places,words_farWord some]
  have texts : (words (farWord blanks)).map Word.text = ["1","x"] := by
    rw [words_farWord some]
    rfl
  rw [Calculator.calculate_eq_move,texts]
  dsimp only
  rw [numbered,← place]
  rfl

theorem caretWidth_farWord (cause : Cause) :
    Error.caretWidth ⟨cause,1 + blanks⟩ (farWord blanks) = 1 + blanks + 1 := by
  have place : byteSize ('1' :: List.replicate blanks ' ') = 1 + blanks := by
    rw [byteSize_cons,byteSize_blanks]
    rfl
  have row : ('1' :: List.replicate blanks ' ').rtakeWhile (· != '\n') = '1' :: List.replicate blanks ' ' := by
    refine List.rtakeWhile_eq_self_iff.mpr (List.forall_mem_cons.mpr ⟨by decide,fun c member => ?_⟩)
    rw [List.eq_of_mem_replicate member]
    decide
  obtain ⟨tail,_,_,located⟩ := locate_of_split (farWord_toList blanks) (by decide)
  rw [place,row] at located
  have column : ('1' :: List.replicate blanks ' ').length = 1 + blanks := by
    rw [List.length_cons,List.length_replicate,Nat.add_comm]
  have uncut : (('1' :: List.replicate blanks ' ') ++ 'x' :: tail).takeWhile isBlank = [] :=
    List.takeWhile_cons_of_neg (by decide)
  simp only [Error.caretWidth,located,String.toList_ofList,uncut,column,List.length_nil,Nat.sub_zero]

theorem lines_farWord (blanks : Nat) :
    Lines (farWord blanks ++ "\n2 + 3").toList [(farWord blanks).toList,"2 + 3".toList] := by
  have free : '\n' ∉ (farWord blanks).toList := by
    rw [farWord_toList]
    simp
  have bare : (farWord blanks).toList.getLast? ≠ some '\r' := by
    rw [farWord_toList,List.getLast?_append_of_ne_nil _ (List.cons_ne_nil _ _)]
    decide
  have split : (farWord blanks ++ "\n2 + 3").toList = (farWord blanks).toList ++ '\n' :: "2 + 3".toList :=
    String.toList_append
  rw [split]
  exact .newline free bare (.last (by decide) (by decide))

theorem filled_farWord (blanks : Nat) :
    filled [(farWord blanks).toList,"2 + 3".toList] = [farWord blanks,"2 + 3"] := by
  have solid : (farWord blanks).toList.any (!isBlank ·) = true := by
    rw [farWord_toList]
    rfl
  have other : "2 + 3".toList.any (!isBlank ·) = true := by decide
  simp only [filled,List.filter_cons,solid,other,if_true,List.filter_nil,List.map_cons,List.map_nil,
    String.ofList_toList]

theorem run_farWord (s : Surroundings) (blanks : Nat) (far : Error.maxWidth ≤ 1 + blanks)
    (unset : s.logFilter = none) (drops : Log.DropsAbove s.subscribe) :
    run [] { s with input := (farWord blanks ++ "\n2 + 3").toByteArray } = ⟨101,"",s.notice⟩ ∧
      (({} : Options).sum {} [farWord blanks,"2 + 3"]).status = 1 ∧
      (({} : Options).sum {} [farWord blanks,"2 + 3"]).stdout = "5\n" := by
  have some : 0 < blanks := by
    rw [Error.maxWidth] at far
    omega
  have failed : ({} : Options).answer {} (farWord blanks) = .error ⟨.unexpectedInput "x",1 + blanks⟩ :=
    congrArg (Except.map Value.text) (calculate_farWord some)
  have undrawn : ¬({} : Options).draws {} (farWord blanks) = true := by
    simp only [Options.draws,failed,decide_eq_true_eq]
    rw [caretWidth_farWord]
    omega
  have answered : ({} : Options).answer {} "2 + 3" = .ok "5" := by decide +kernel
  refine ⟨?_,?_,?_⟩
  · have parsed : Options.parse [] = .ok {} := by decide
    have short := run_undrawn (o := {}) rfl rfl unset drops rfl (lines_farWord blanks)
      ⟨farWord blanks,by simp only [filled_farWord,List.mem_cons_self],undrawn⟩
    rw [filled_farWord,List.takeWhile_cons_of_neg undrawn] at short
    rw [run,parsed]
    exact short.trans (by simp [Options.cutShort])
  · simp [Options.sum,Options.failed,Options.fails,failed]
  · simp [Options.sum,Options.printed,failed,answered]

/-- A caret past the width limit aborts the batch: the second line has no answer and the status
is 101, where `sum` gives an answer and status 1. -/
theorem batch_stops_at_far_word :
    let s : Surroundings := { subscribe := Log.Filter.subscribe, read := fun _ => .error .notFound }
    let text := farWord 65535 ++ "\n2 + 3"
    let ls := [(farWord 65535).toList,"2 + 3".toList]
    let sum := ({} : Options).sum {} (filled ls)
    Lines text.toList ls ∧ run [] { s with input := text.toByteArray } = ⟨101,"",s.notice⟩ ∧
      sum.status = 1 ∧ sum.stdout = "5\n" := by
  intro s text ls sum
  have broken := run_farWord s 65535 (by decide) rfl Log.Filter.dropsAbove
  rw [← filled_farWord 65535] at broken
  exact ⟨lines_farWord 65535,broken⟩

end Command

end Reckoner
