import Reckoner.Grammar
import Reckoner.Proofs.Consumption
import Reckoner.Proofs.Draft

/-! The productions recognise derivations. A production succeeds iff a derivation nested within
the limit, with numerals in range, is at the front of the input ahead. -/
namespace Reckoner

namespace Parser

variable {p : Parser}

/-- The derivation is consumed between the two parsers, its groups fit the limit, and this is
its tree. -/
structure Reads {n : Nonterminal} (p : Parser) (d : Derivation n) (tree : Tree) (q : Parser) :
    Prop where
  consumes : p.Consumes d.tokens q
  nested : NestedWithin (p.maxDepth - p.depth) d.tokens
  tree : d.tree? = some tree

theorem Reads.single {operand : Derivation .primary} {tree : Tree} {q : Parser}
    (read : p.Reads operand tree q) : p.Reads (.single operand) tree q :=
  ⟨read.consumes,read.nested,read.tree⟩

theorem Reads.group {opening : TokenOf .openParen} {inner : Derivation .sum}
    {closing : TokenOf .closeParen} {first second last : Parser} {tree : Tree}
    (opens : p.Consumes [opening.1] first) (room : first.depth < first.maxDepth)
    (reads : { first with depth := first.depth + 1 }.Reads inner tree second)
    (closes : second.Consumes [closing.1] last) :
    p.Reads (.group opening inner closing) tree { last with depth := last.depth - 1 } := by
  have entered : first.ahead = inner.tokens.map .ok ++ second.ahead := reads.consumes.ahead
  have inside : second.depth = first.depth + 1 := reads.consumes.depth
  have insideMax : second.maxDepth = first.maxDepth := reads.consumes.maxDepth
  have depth : last.depth - 1 = p.depth := by
    rw [closes.depth,inside,opens.depth]
    omega
  have maxDepth : last.maxDepth = p.maxDepth := by
    rw [closes.maxDepth,insideMax,opens.maxDepth]
  have stop : last.lexer.stop = p.lexer.stop :=
    closes.stop.trans (reads.consumes.stop.trans opens.stop)
  rw [opens.depth,opens.maxDepth] at room
  refine ⟨⟨?_,⟨closes.sane.live,?_⟩,depth,maxDepth,stop⟩,?_,reads.tree⟩
  · change p.ahead = _ ++ last.ahead
    rw [opens.ahead,entered,closes.ahead]
    simp [Derivation.tokens]
  · change last.depth - 1 ≤ last.maxDepth
    omega
  · have nested := reads.nested
    rw [Derivation.nestedWithin_group]
    simpa [opens.depth,opens.maxDepth,Int.sub_sub] using nested

theorem Reads.chain {left : Derivation .sum} {operator : TokenOf .additiveOperator}
    {right : Derivation .primary} {middle second last : Parser} {l r : Tree}
    (first : p.Reads left l middle) (joins : middle.Consumes [operator.1] second)
    (then_ : second.Reads right r last) :
    p.Reads (.chain left operator right) (Tree.join operator.1 l r) last := by
  have depth : second.depth = p.depth := joins.depth.trans first.consumes.depth
  have maxDepth : second.maxDepth = p.maxDepth := joins.maxDepth.trans first.consumes.maxDepth
  refine ⟨?_,?_,Derivation.tree_chain.mpr ⟨l,r,first.tree,then_.tree,rfl⟩⟩
  · simpa [Derivation.tokens] using first.consumes.append (joins.append then_.consumes)
  · have nested := then_.nested
    rw [depth,maxDepth] at nested
    exact Derivation.nestedWithin_chain.mpr ⟨first.nested,nested⟩

/-- The derivation is ahead with this tree, its groups fit the limit, and the input after it is
clear. -/
structure Faces {n : Nonterminal} (p : Parser) (d : Derivation n) (tree : Tree)
    (rest : List (Except Error Token)) : Prop where
  sane : p.Sane
  ahead : p.ahead = d.tokens.map .ok ++ rest
  clear : Clear rest
  nested : NestedWithin (p.maxDepth - p.depth) d.tokens
  tree : d.tree? = some tree

theorem Faces.group {opening : TokenOf .openParen} {inner : Derivation .sum}
    {closing : TokenOf .closeParen} {tree : Tree} {rest : List (Except Error Token)}
    (faces : p.Faces (.group opening inner closing) tree rest) :
    ∃ first, p.kind? = some .openParen ∧ expect .openParen p = .ok opening.1 first ∧
      p.Consumes [opening.1] first ∧ first.depth < first.maxDepth ∧
      { first with depth := first.depth + 1 }.Faces inner tree (.ok closing.1 :: rest) := by
  have ahead : p.ahead = .ok opening.1 :: (inner.tokens.map .ok ++ .ok closing.1 :: rest) := by
    simpa [Derivation.tokens] using faces.ahead
  have kind := faces.sane.kind_of_ahead ahead
  obtain ⟨first,opened,opens⟩ := expect_of_ahead faces.sane ahead (clear_tokens _ _ _)
  rw [opening.2] at kind opened
  have nested := faces.nested
  rw [Derivation.nestedWithin_group] at nested
  have room : first.depth < first.maxDepth := by
    have positive : 0 ≤ (p.maxDepth : Int) - p.depth - 1 := nested [] List.nil_prefix
    rw [opens.depth,opens.maxDepth]
    omega
  have ready : Sane { first with depth := first.depth + 1 } := ⟨opens.sane.live,room⟩
  refine ⟨first,kind,opened,opens,room,ready,opens.rest ahead,clear_ok _ _,?_,faces.tree⟩
  simpa [opens.depth,opens.maxDepth,Int.sub_sub] using nested

/-- A chain splits at its last operator; the right operand is ahead once the left one and the
operator are consumed. -/
theorem Faces.chain {left : Derivation .sum} {operator : TokenOf .additiveOperator}
    {right : Derivation .primary} {tree : Tree} {rest : List (Except Error Token)}
    (faces : p.Faces (.chain left operator right) tree rest) :
    ∃ l r, tree = Tree.join operator.1 l r ∧
      p.Faces left l (.ok operator.1 :: (right.tokens.map .ok ++ rest)) ∧
      ∀ middle, p.Reads left l middle → ∃ second, middle.kind? = some .additiveOperator ∧
        expect .additiveOperator middle = .ok operator.1 second ∧
        middle.Consumes [operator.1] second ∧ second.Faces right r rest := by
  obtain ⟨l,r,leftTree,rightTree,rfl⟩ := Derivation.tree_chain.mp faces.tree
  obtain ⟨nestedLeft,nestedRight⟩ := Derivation.nestedWithin_chain.mp faces.nested
  have ahead : p.ahead = left.tokens.map .ok ++ .ok operator.1 :: (right.tokens.map .ok ++ rest) := by
    simpa [Derivation.tokens] using faces.ahead
  refine ⟨l,r,rfl,⟨faces.sane,ahead,clear_ok _ _,nestedLeft,leftTree⟩,fun middle read => ?_⟩
  have joinAhead := read.consumes.rest ahead
  have clearRight : Clear (right.tokens.map .ok ++ rest) := by
    cases tokens : right.tokens with
    | nil => exact absurd tokens right.tokens_ne_nil
    | cons t ts => exact clear_ok _ _
  have kind := read.consumes.sane.kind_of_ahead joinAhead
  obtain ⟨second,expected,joins⟩ := expect_of_ahead read.consumes.sane joinAhead clearRight
  rw [operator.2] at kind expected
  have depth : second.depth = p.depth := joins.depth.trans read.consumes.depth
  have maxDepth : second.maxDepth = p.maxDepth := joins.maxDepth.trans read.consumes.maxDepth
  refine ⟨second,kind,expected,joins,joins.sane,joins.rest joinAhead,faces.clear,?_,rightTree⟩
  rw [depth,maxDepth]
  exact nestedRight

end Parser

namespace Grammar

open Reckoner.Parser

variable {p q : Parser} {tree : Tree}

theorem ofToken_number (word : TokenOf .number) :
    Tree.ofToken word.1 = .ok tree ↔ (Derivation.number word).tree? = some tree := by
  simp only [Tree.ofToken,word.2,if_true,Derivation.tree?,← Value.ofNumeral_eq]
  cases Value.ofNumeral? word.1.text <;> simp

theorem number_reads (sane : p.Sane) (success : number p = .ok tree q) :
    ∃ d : Derivation .primary, p.Reads d tree q := by
  obtain ⟨t,middle,expected,converted⟩ := work_bind_ok.mp success
  obtain ⟨kind,consumed⟩ := expect_consumes sane expected
  obtain ⟨literal,rfl⟩ := ofExcept_ok.mp converted
  have within := sane.within
  refine ⟨.number ⟨t,kind⟩,consumed,?_,(ofToken_number ⟨t,kind⟩).mp literal⟩
  rw [Derivation.tokens,nestedWithin_cons,openGroups_neutral (.inl kind),nestedWithin_nil]
  omega

theorem groupOf_reads {inside : ParserM Tree} (sane : p.Sane) (success : groupOf inside p = .ok tree q)
    (reads : ∀ {p q : Parser} {tree : Tree}, p.Sane → inside p = .ok tree q →
      ∃ d : Derivation .sum, p.Reads d tree q) :
    ∃ d : Derivation .primary, p.Reads d tree q := by
  obtain ⟨opening,first,opened,rest⟩ := work_bind_ok.mp success
  obtain ⟨openKind,opens⟩ := expect_consumes sane opened
  obtain ⟨_,_,entered,rest⟩ := work_bind_ok.mp rest
  obtain ⟨room,rfl⟩ := enterGroup_ok.mp entered
  obtain ⟨_,second,inner,rest⟩ := work_bind_ok.mp rest
  have ready : Sane { first with depth := first.depth + 1 } := ⟨opens.sane.live,room⟩
  obtain ⟨d,read⟩ := reads ready inner
  obtain ⟨closing,last,closed,rest⟩ := work_bind_ok.mp rest
  obtain ⟨closeKind,closes⟩ := expect_consumes read.consumes.sane closed
  obtain ⟨rfl,rfl⟩ := EStateM.Result.ok.inj rest
  exact ⟨.group ⟨opening,openKind⟩ d ⟨closing,closeKind⟩,Reads.group opens room read closes⟩

theorem groupOf_eq {inside : ParserM Tree} {first second last : Parser} {opening closing : Token}
    (opened : expect .openParen p = .ok opening first) (room : first.depth < first.maxDepth)
    (summed : inside { first with depth := first.depth + 1 } = .ok tree second)
    (closed : expect .closeParen second = .ok closing last) :
    groupOf inside p = .ok tree { last with depth := last.depth - 1 } := by
  have entered : enterGroup opening.span.start first = .ok () { first with depth := first.depth + 1 } :=
    enterGroup_ok.mpr ⟨room,rfl⟩
  rw [groupOf,work_bind_eq opened,work_bind_eq entered,work_bind_eq summed,work_bind_eq closed]
  rfl

theorem primaryWithin_succ (fuel : Nat) (p : Parser) : primaryWithin (fuel + 1) p =
    if p.kind? = some .openParen then groupOf (sumWithin fuel) p else number p := by
  rw [primaryWithin]
  change (if p.kind? = some .openParen then groupOf (sumWithin fuel) else number) p = _
  split <;> rfl

theorem chainWithin_succ (fuel : Nat) (left : Tree) (p : Parser) : chainWithin (fuel + 1) left p =
    if p.kind? = some .additiveOperator then
      (do
        let operator ← expect .additiveOperator
        let right ← primaryWithin fuel
        chainWithin fuel (Tree.join operator left right) : ParserM Tree) p
    else .ok left p := by
  rw [chainWithin]
  change (if p.kind? = some .additiveOperator then _ else _ : ParserM Tree) p = _
  split <;> rfl

/-- Soundness. `chainWithin` extends the derivation of its initial tree. -/
theorem productions_read (fuel : Nat) :
    (∀ {p q : Parser} {tree : Tree}, p.Sane → primaryWithin fuel p = .ok tree q →
      ∃ d : Derivation .primary, p.Reads d tree q) ∧
    (∀ {p middle q : Parser} {l : Derivation .sum} {left tree : Tree}, p.Reads l left middle →
      chainWithin fuel left middle = .ok tree q → ∃ d : Derivation .sum, p.Reads d tree q) := by
  induction fuel with
  | zero =>
    refine ⟨fun sane success => number_reads sane success,?_⟩
    intro p middle q l left tree read success
    obtain ⟨rfl,rfl⟩ := EStateM.Result.ok.inj success
    exact ⟨l,read⟩
  | succ fuel ih =>
    obtain ⟨primaryReads,chainReads⟩ := ih
    constructor
    · intro p q tree sane success
      rw [primaryWithin_succ] at success
      split at success
      · refine groupOf_reads sane success ?_
        intro p q tree sane success
        obtain ⟨left,middle,first,rest⟩ := work_bind_ok.mp success
        obtain ⟨d,read⟩ := primaryReads sane first
        exact chainReads read.single rest
      · exact number_reads sane success
    · intro p middle q l left tree read success
      rw [chainWithin_succ] at success
      split at success
      · obtain ⟨operator,second,expected,rest⟩ := work_bind_ok.mp success
        obtain ⟨kind,joins⟩ := expect_consumes read.consumes.sane expected
        obtain ⟨right,last,operand,rest⟩ := work_bind_ok.mp rest
        obtain ⟨d,right⟩ := primaryReads joins.sane operand
        exact chainReads (@Reads.chain _ _ ⟨operator,kind⟩ _ _ _ _ _ _ read joins right) rest
      · obtain ⟨rfl,rfl⟩ := EStateM.Result.ok.inj success
        exact ⟨l,read⟩

theorem sumWithin_reads {fuel : Nat} (sane : p.Sane) (success : sumWithin fuel p = .ok tree q) :
    ∃ d : Derivation .sum, p.Reads d tree q := by
  obtain ⟨left,middle,first,rest⟩ := work_bind_ok.mp success
  obtain ⟨d,read⟩ := (productions_read fuel).1 sane first
  exact (productions_read fuel).2 read.single rest

theorem chainWithin_stop {fuel : Nat} {left : Tree} (stop : p.kind? ≠ some .additiveOperator) :
    chainWithin fuel left p = .ok left p := by
  cases fuel with
  | zero => rfl
  | succ fuel => rw [chainWithin_succ,if_neg stop]

/-- Completeness: the derivation ahead is read, and a sum continues at its chain. -/
def ReadWithin (fuel : Nat) (p : Parser) (tree : Tree) :
    {n : Nonterminal} → Derivation n → Prop
  | .primary, d => ∃ q, primaryWithin fuel p = .ok tree q ∧ p.Reads d tree q
  | .sum, d => ∃ q left, sumWithin fuel p = chainWithin left tree q ∧ q.remaining ≤ left ∧
      p.Reads d tree q

theorem number_within {fuel : Nat} {word : TokenOf .number} {rest : List (Except Error Token)}
    (faces : p.Faces (.number word) tree rest) : ReadWithin fuel p tree (.number word) := by
  have kind := faces.sane.kind_of_ahead faces.ahead
  obtain ⟨q,expected,consumed⟩ := expect_of_ahead faces.sane faces.ahead faces.clear
  rw [word.2] at kind expected
  have literal := (ofToken_number word).mpr faces.tree
  have reads : number p = .ok tree q :=
    work_bind_ok.mpr ⟨_,_,expected,ofExcept_ok.mpr ⟨literal,rfl⟩⟩
  refine ⟨q,?_,consumed,faces.nested,faces.tree⟩
  cases fuel with
  | zero => exact reads
  | succ fuel =>
    rw [primaryWithin_succ,kind]
    exact reads

theorem read_within {fuel : Nat} {n : Nonterminal} (d : Derivation n)
    {rest : List (Except Error Token)} (faces : p.Faces d tree rest) (enough : p.remaining ≤ fuel) :
    ReadWithin fuel p tree d := by
  induction d generalizing p tree fuel rest with
  | number word => exact number_within faces
  | group opening inner closing ih =>
    obtain ⟨first,kind,opened,opens,room,inside⟩ := faces.group
    have shorter : p.remaining = 1 + first.remaining := opens.remaining
    cases fuel with
    | zero => omega
    | succ fuel =>
      have enough : first.remaining ≤ fuel := by omega
      obtain ⟨second,left,summed,_,read⟩ := ih inside enough
      have closeAhead := read.consumes.rest inside.ahead
      have stop : second.kind? ≠ some .additiveOperator := by
        rw [read.consumes.sane.kind_of_ahead closeAhead,closing.2]
        exact nofun
      rw [chainWithin_stop stop] at summed
      obtain ⟨last,closed,closes⟩ := expect_of_ahead read.consumes.sane closeAhead faces.clear
      rw [closing.2] at closed
      refine ⟨{ last with depth := last.depth - 1 },?_,Reads.group opens room read closes⟩
      rw [primaryWithin_succ,kind,if_pos rfl]
      exact groupOf_eq opened room summed closed
  | single operand ih =>
    obtain ⟨q,reads,read⟩ := ih ⟨faces.sane,faces.ahead,faces.clear,faces.nested,faces.tree⟩ enough
    refine ⟨q,fuel,work_bind_eq reads,?_,read.consumes,faces.nested,faces.tree⟩
    have := read.consumes.remaining
    omega
  | chain left operator right ihl ihr =>
    obtain ⟨l,r,rfl,before,after⟩ := faces.chain
    obtain ⟨middle,more,summed,bound,read⟩ := ihl before enough
    obtain ⟨second,kind,expected,joins,behind⟩ := after middle read
    have shorter : middle.remaining = 1 + second.remaining := joins.remaining
    cases more with
    | zero => omega
    | succ more =>
      obtain ⟨last,operand,readRight⟩ := ihr behind (by omega : second.remaining ≤ more)
      refine ⟨last,more,?_,?_,Reads.chain read joins readRight⟩
      · rw [summed,chainWithin_succ,kind,if_pos rfl,work_bind_eq expected,work_bind_eq operand]
      · have := readRight.consumes.remaining
        omega

theorem start_ahead {maxDepth : Nat} {l rest : Lexer} (started : start maxDepth l = .ok p rest) :
    p.Sane ∧ p.ahead = l.unread.map Word.token ∧ p.depth = 0 ∧ p.maxDepth = maxDepth := by
  unfold start Lexer.next at started
  cases unread : l.unread with
  | nil =>
    simp only [unread] at started
    cases started
    exact ⟨⟨fun _ => unread,Nat.zero_le _⟩,by simp [Parser.ahead,unread],rfl,rfl⟩
  | cons w ws =>
    cases token : w.token with
    | error e => simp [unread,token] at started
    | ok t =>
      simp only [unread,token] at started
      cases started
      exact ⟨⟨by simp,Nat.zero_le _⟩,by simp [Parser.ahead,token],rfl,rfl⟩

theorem start_of_clear {l : Lexer} (maxDepth : Nat) (clear : Clear (l.unread.map Word.token)) :
    ∃ p rest, start maxDepth l = .ok p rest := by
  unfold start Lexer.next
  cases unread : l.unread with
  | nil => exact ⟨_,_,rfl⟩
  | cons w ws =>
    cases token : w.token with
    | error e => exact absurd (by rw [unread,List.map_cons,token]; rfl) (clear e)
    | ok t =>
      simp only [token]
      exact ⟨_,_,rfl⟩

theorem parse_eq_finish {config : Config} {source : String} : (parse config).on source = .ok tree ↔
    ∃ p l q, start config.maxDepth (Lexer.ofSource source) = .ok p l ∧ sum p = .ok tree q ∧
      finish config.trailingInput q = .ok () q := by
  rw [on_ok]
  unfold parse
  constructor
  · rintro ⟨_,success⟩
    cases started : start config.maxDepth (Lexer.ofSource source) with
    | error e l => simp [started] at success
    | ok p l =>
      simp only [started] at success
      split at success
      next _ q ran =>
        cases success
        obtain ⟨_,middle,summed,rest⟩ := work_bind_ok.mp ran
        obtain ⟨_,_,finished,same⟩ := work_bind_ok.mp rest
        obtain ⟨rfl,rfl⟩ := EStateM.Result.ok.inj same
        obtain ⟨rfl,_⟩ := finish_ok.mp finished
        exact ⟨p,l,_,rfl,summed,finished⟩
      next => cases success
  · rintro ⟨p,l,q,started,summed,finished⟩
    refine ⟨q.lexer,?_⟩
    simp only [started]
    rw [work_bind_eq summed,work_bind_eq finished]
    rfl

theorem sum_of_faces {d : Derivation .sum} {rest : List (Except Error Token)} (faces : p.Faces d tree rest)
    (stops : ∀ t, rest.head? = some (.ok t) → t.kind ≠ .additiveOperator) :
    ∃ q, sum p = .ok tree q ∧ p.Consumes d.tokens q := by
  obtain ⟨q,left,summed,_,read⟩ := read_within d faces (Nat.le_refl _)
  have behind := read.consumes.rest faces.ahead
  have stop : q.kind? ≠ some .additiveOperator := by
    unfold kind?
    cases look : q.lookahead with
    | none => simp
    | some t =>
      have first : rest.head? = some (.ok t) := by
        rw [← behind]
        simp [Parser.ahead,look]
      simpa using stops t first
  rw [chainWithin_stop stop] at summed
  exact ⟨q,summed,read.consumes⟩

/-- A text spelling a whole derivation has no trailing input, so the policy is irrelevant. -/
theorem parse_of_derivation {config : Config} {source : String} {d : Derivation .sum}
    (spelled : Spells source d.tokens) (nested : NestedWithin config.maxDepth d.tokens)
    (trees : d.tree? = some tree) : (parse config).on source = .ok tree := by
  have clear : Clear ((Lexer.ofSource source).unread.map Word.token) := by
    rw [show (Lexer.ofSource source).unread.map Word.token = _ from spelled]
    exact clear_map _
  obtain ⟨p,l,started⟩ := start_of_clear config.maxDepth clear
  obtain ⟨sane,ahead,depth,maxDepth⟩ := start_ahead started
  replace ahead : p.ahead = d.tokens.map .ok ++ [] := by
    rw [ahead,List.append_nil]
    exact spelled
  have faces : p.Faces d tree [] := ⟨sane,ahead,nofun,by simpa [depth,maxDepth] using nested,trees⟩
  obtain ⟨q,summed,consumed⟩ := sum_of_faces faces nofun
  have ended : q.lookahead = none := consumed.sane.ahead_eq_nil.mp (consumed.rest ahead)
  exact parse_eq_finish.mpr ⟨p,l,q,started,summed,finish_ok.mpr ⟨rfl,fun _ => ended⟩⟩

theorem derivation_of_parse {config : Config} {source : String}
    (rejecting : config.trailingInput = .reject) (success : (parse config).on source = .ok tree) :
    ∃ d : Derivation .sum, Spells source d.tokens ∧ NestedWithin config.maxDepth d.tokens ∧
      d.tree? = some tree := by
  obtain ⟨p,l,q,started,summed,finished⟩ := parse_eq_finish.mp success
  obtain ⟨sane,ahead,depth,maxDepth⟩ := start_ahead started
  obtain ⟨d,read⟩ := sumWithin_reads sane summed
  have ended := read.consumes.sane.ahead_eq_nil.mpr ((finish_ok.mp finished).2 rejecting)
  have nested := read.nested
  rw [depth,maxDepth] at nested
  refine ⟨d,?_,by simpa using nested,read.tree⟩
  have consumed := read.consumes.ahead
  rw [ahead,ended,List.append_nil] at consumed
  exact consumed

/-- With trailing input rejected, the parser accepts exactly the texts whose words are tokens of
a derivation nested within the limit, with numerals in range. The derivation is unique, and its
tree is the result. -/
theorem parse_accepts_derivations (config : Config) (source : String)
    (rejecting : config.trailingInput = .reject) :
    ((∃ tree, (parse config).on source = .ok tree) ↔ ∃ ts, Spells source ts ∧
      (∃ d : Derivation .sum, d.tokens = ts) ∧ NestedWithin config.maxDepth ts ∧
      ∀ t ∈ ts, t.kind = .number → t.InRange) ∧
    ∀ tree, (parse config).on source = .ok tree →
      ∃ d : Derivation .sum, Spells source d.tokens ∧ d.tree? = some tree ∧
        ∀ e : Derivation .sum, Spells source e.tokens → e = d := by
  refine ⟨⟨?_,?_⟩,?_⟩
  · rintro ⟨tree,success⟩
    obtain ⟨d,spelled,nested,trees⟩ := derivation_of_parse rejecting success
    exact ⟨d.tokens,spelled,⟨d,rfl⟩,nested,d.tree_exists_iff.mp ⟨tree,trees⟩⟩
  · rintro ⟨_,spelled,⟨d,rfl⟩,nested,fits⟩
    obtain ⟨tree,trees⟩ := d.tree_exists_iff.mpr fits
    exact ⟨tree,parse_of_derivation spelled nested trees⟩
  · intro tree success
    obtain ⟨d,spelled,_,trees⟩ := derivation_of_parse rejecting success
    exact ⟨d,spelled,trees,fun e again => Derivation.tokens_injective (again.unique spelled)⟩

theorem parse_accepts_grouped_difference :
    ({} : Config).trailingInput = .reject ∧
    ∃ d : Derivation .sum, Spells "1 - ( 2 + 3 )" d.tokens ∧
      d.tree? = some (.operation ⟨.additiveOperator,"-",⟨2,3⟩⟩ (.literal 1 ⟨0,1⟩)
        (.operation ⟨.additiveOperator,"+",⟨8,9⟩⟩ (.literal 2 ⟨6,7⟩) (.literal 3 ⟨10,11⟩) ⟨6,11⟩)
        ⟨0,11⟩) ∧
      ∀ e : Derivation .sum, Spells "1 - ( 2 + 3 )" e.tokens → e = d :=
  ⟨rfl,(parse_accepts_derivations {} "1 - ( 2 + 3 )" rfl).2 _ (by decide +kernel)⟩

end Grammar

end Reckoner
