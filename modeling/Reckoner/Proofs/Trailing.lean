import Reckoner.Proofs.Fault

/-! Ignored trailing input. The parser has pulled one word after the sum, which must be
classified, and reads nothing beyond it. -/
namespace Reckoner

/-- The first words are a sum nested within the limit with numerals in range, followed by
nothing or by a classified non-operator. -/
structure LeadingSum (limit : Nat) (source : String) (front rest : List Word) (d : Derivation .sum) :
    Prop where
  split : words source = front ++ rest
  spelled : front.map Word.token = d.tokens.map .ok
  nested : NestedWithin limit d.tokens
  fits : ∀ t ∈ d.tokens, t.kind = .number → t.InRange
  stops : ∀ w ∈ rest.head?, ∃ t, w.token = .ok t ∧ t.kind ≠ .additiveOperator

variable {limit : Nat} {source : String} {front rest front' rest' : List Word} {d e : Derivation .sum}
  {tree : Tree}

namespace LeadingSum

theorem tokens_ahead (leading : LeadingSum limit source front rest d) :
    (words source).map Word.token = d.tokens.map .ok ++ rest.map Word.token := by
  rw [leading.split,List.map_append,leading.spelled]

theorem of_words {other : String} {w : Word} {more others : List Word}
    (leading : LeadingSum limit source front (w :: more) d) (same : words other = front ++ w :: others) :
    LeadingSum limit other front (w :: others) d where
  split := same
  spelled := leading.spelled
  nested := leading.nested
  fits := leading.fits
  stops := leading.stops

theorem operator_of_longer {t : Token} {ts : List Token} (nested : NestedWithin limit e.tokens)
    (longer : e.tokens = d.tokens ++ t :: ts) : t.kind = .additiveOperator := by
  have whole : Draft.Run limit .start e.tokens (.done e []) := Draft.run_done_iff.mpr ⟨rfl,nested⟩
  rw [longer] at whole nested
  obtain ⟨middle,first,second⟩ := Draft.run_append.mp whole
  have short : Draft.Run limit .start d.tokens (.done d []) :=
    Draft.run_done_iff.mpr ⟨rfl,(nestedWithin_append.mp nested).1⟩
  -- The longer sum passes through the shorter one, where no group is open that could be closed.
  cases first.deterministic short
  cases second with
  | cons step _ =>
    cases step with
    | operator h => exact h

theorem length_le (leading : LeadingSum limit source front rest d)
    (again : LeadingSum limit source front' rest' e) : front'.length ≤ front.length := by
  by_contra longer
  have same := leading.split.symm.trans again.split
  obtain ⟨more,rfl,rfl⟩ : ∃ more, front' = front ++ more ∧ rest = more ++ rest' := by
    rcases List.append_eq_append_iff.mp same with found | ⟨more,rfl,_⟩
    · exact found
    · simp at longer
  cases more with
  | nil => simp at longer
  | cons w more =>
    obtain ⟨t,token,other⟩ := leading.stops w rfl
    have spelled := again.spelled
    rw [List.map_append,leading.spelled] at spelled
    obtain ⟨_,ts,split,first,second⟩ := List.map_eq_append_iff.mp spelled.symm
    cases List.map_injective_iff.mpr (fun _ _ => Except.ok.inj) first
    obtain ⟨u,us,rfl,head,_⟩ := map_token_cons.mp second.symm
    cases token.symm.trans head
    exact other (operator_of_longer again.nested split)

theorem unique (leading : LeadingSum limit source front rest d)
    (again : LeadingSum limit source front' rest' e) : front = front' ∧ d = e := by
  have same := leading.split.symm.trans again.split
  obtain ⟨rfl,rfl⟩ := List.append_inj same (Nat.le_antisymm (again.length_le leading) (leading.length_le again))
  have tokens : d.tokens = e.tokens :=
    List.map_injective_iff.mpr (fun _ _ => Except.ok.inj) (leading.spelled.symm.trans again.spelled)
  exact ⟨rfl,Derivation.tokens_injective tokens⟩

end LeadingSum

namespace Grammar

open Reckoner.Parser

/-- Under either policy a parsed tree belongs to a leading sum. -/
theorem leadingSum_of_parse {config : Config} (success : (parse config).on source = .ok tree) :
    ∃ front rest d, LeadingSum config.maxDepth source front rest d ∧ d.tree? = some tree := by
  obtain ⟨p,l,q,started,summed,_⟩ := parse_eq_finish.mp success
  obtain ⟨sane,ahead,depth,maxDepth⟩ := start_ahead started
  obtain ⟨d,read⟩ := sumWithin_reads sane summed
  have ends := sumWithin_ends sane (Nat.le_refl _) summed
  have consumed := read.consumes.ahead
  have nested := read.nested
  rw [ahead] at consumed
  rw [depth,maxDepth] at nested
  obtain ⟨front,rest,split,spelled,behind⟩ := List.map_eq_append_iff.mp consumed
  have fits := d.tree_exists_iff.mp ⟨tree,read.tree⟩
  refine ⟨front,rest,d,⟨split,spelled,by simpa using nested,fits,?_⟩,read.tree⟩
  intro w first
  obtain ⟨more,rfl⟩ : ∃ more, rest = w :: more := List.head?_eq_some_iff.mp first
  rw [List.map_cons] at behind
  cases token : w.token with
  | error e =>
    rw [token] at behind
    exact absurd (congrArg List.head? behind.symm) (read.consumes.sane.clear e)
  | ok t =>
    rw [token] at behind
    rw [read.consumes.sane.kind_of_ahead behind.symm] at ends
    exact ⟨t,rfl,fun operator => ends (congrArg some operator)⟩

theorem parse_of_leadingSum {config : Config} (ignoring : config.trailingInput = .ignore)
    (leading : LeadingSum config.maxDepth source front rest d) (trees : d.tree? = some tree) :
    (parse config).on source = .ok tree := by
  have read : (Lexer.ofSource source).unread.map Word.token = d.tokens.map .ok ++ rest.map Word.token :=
    leading.tokens_ahead
  -- The word behind the sum is the only one that has to be known.
  have following {item : Except Error Token} (first : (rest.map Word.token).head? = some item) :
      ∃ t, item = .ok t ∧ t.kind ≠ .additiveOperator := by
    rw [List.head?_map,Option.map_eq_some_iff] at first
    obtain ⟨w,first,rfl⟩ := first
    exact leading.stops w first
  have looked : Clear (rest.map Word.token) := by
    intro e refused
    obtain ⟨t,impossible,_⟩ := following refused
    cases impossible
  have clear : Clear ((Lexer.ofSource source).unread.map Word.token) := by
    rw [read]
    cases tokens : d.tokens with
    | nil => exact absurd tokens d.tokens_ne_nil
    | cons t ts => exact clear_ok t _
  obtain ⟨p,l,started⟩ := start_of_clear config.maxDepth clear
  obtain ⟨sane,ahead,depth,maxDepth⟩ := start_ahead started
  have faces : p.Faces d tree (rest.map Word.token) :=
    ⟨sane,ahead.trans read,looked,by simpa [depth,maxDepth] using leading.nested,trees⟩
  obtain ⟨q,summed,_⟩ := sum_of_faces faces fun t first => by
    obtain ⟨u,same,other⟩ := following first
    cases same
    exact other
  refine parse_eq_finish.mpr ⟨p,l,q,started,summed,finish_ok.mpr ⟨rfl,fun rejecting => ?_⟩⟩
  cases ignoring.symm.trans rejecting

/-- With trailing input ignored, the parser accepts exactly the texts with a leading sum. That
sum is unique, its tree is the result, and words after the next one have no influence. -/
theorem parse_ignores_trailing (config : Config) (source : String)
    (ignoring : config.trailingInput = .ignore) :
    (∀ tree, (parse config).on source = .ok tree ↔
      ∃ front rest d, LeadingSum config.maxDepth source front rest d ∧ d.tree? = some tree) ∧
    (∀ front rest d front' rest' d', LeadingSum config.maxDepth source front rest d →
      LeadingSum config.maxDepth source front' rest' d' → front = front' ∧ d = d') ∧
    ∀ front w more d, LeadingSum config.maxDepth source front (w :: more) d →
      ∀ other others, words other = front ++ w :: others →
        (parse config).on other = (parse config).on source := by
  refine ⟨fun tree => ⟨leadingSum_of_parse,?_⟩,?_,?_⟩
  · rintro ⟨front,rest,d,leading,trees⟩
    exact parse_of_leadingSum ignoring leading trees
  · intro front rest d front' rest' d' leading again
    exact leading.unique again
  · intro front w more d leading other others same
    obtain ⟨tree,trees⟩ := d.tree_exists_iff.mpr leading.fits
    rw [parse_of_leadingSum ignoring leading trees,
      parse_of_leadingSum ignoring (leading.of_words same) trees]

theorem parse_ignores_trailing_parenthesis :
    let config : Config := ⟨1,.ignore,.checked⟩
    let front := words "( 1 )"
    ∃ w more d, LeadingSum config.maxDepth "( 1 ) ) x" front (w :: more) d ∧
      (parse config).on "( 1 ) ) x" = .ok (.literal 1 ⟨2,3⟩) ∧
      (parse config).on "( 1 ) ) 2 +" = (parse config).on "( 1 ) ) x" ∧
      ∀ front' rest' d', LeadingSum config.maxDepth "( 1 ) ) x" front' rest' d' → front = front' := by
  intro config front
  let d : Derivation .sum := .single (.group ⟨⟨.openParen,"(",⟨0,1⟩⟩,rfl⟩
    (.single (.number ⟨⟨.number,"1",⟨2,3⟩⟩,rfl⟩)) ⟨⟨.closeParen,")",⟨4,5⟩⟩,rfl⟩)
  have trees : d.tree? = some (.literal 1 ⟨2,3⟩) := by decide +kernel
  have leading : LeadingSum config.maxDepth "( 1 ) ) x" front [⟨")",6,7⟩,⟨"x",8,9⟩] d := by
    refine ⟨by decide +kernel,by decide +kernel,by decide +kernel,d.tree_exists_iff.mp ⟨_,trees⟩,?_⟩
    rintro w ⟨⟩
    exact ⟨⟨.closeParen,")",⟨6,7⟩⟩,by decide +kernel,nofun⟩
  obtain ⟨accepts,unique,indifferent⟩ := parse_ignores_trailing config "( 1 ) ) x" rfl
  refine ⟨_,_,d,leading,(accepts _).mpr ⟨_,_,d,leading,trees⟩,?_,?_⟩
  · exact indifferent _ _ _ _ leading _ [⟨"2",8,9⟩,⟨"+",10,11⟩] (by decide +kernel)
  · intro front' rest' d' again
    exact (unique _ _ _ _ _ _ leading again).1

end Grammar

end Reckoner
