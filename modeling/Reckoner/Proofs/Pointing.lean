import Reckoner.Proofs.Rejection
import Reckoner.Proofs.RoundTrip
import Reckoner.Proofs.Trailing

/-! Error positions. Every error is at a word that has the property its cause states, except
missing input, which is at the end of the text, and an empty reverse Polish text, which is at
its start. -/
namespace Reckoner

/-- A word with this property starts at the position. -/
inductive WordAt (source : String) (position : Nat) (sort : String → Prop) : Prop where
  | intro (w : Word) (member : w ∈ words source) (start : w.span.start = position)
      (holds : sort w.text)

/-- The token belongs to a word of the text. -/
def Occurs (source : String) (t : Token) : Prop := ∃ w ∈ words source, w.token = .ok t

/-- The payload of the cause holds of the word at the position. -/
def Error.Points (strategy : Strategy) (source : String) (e : Error) : Prop :=
  match e.cause with
  | .unexpectedInput text => text = endOfInput ∧ e.position = source.utf8ByteSize ∨
      WordAt source e.position (· = text)
  | .unexpectedTokenType _ found text =>
      WordAt source e.position fun word => word = text ∧ TokenKind.ofWord? word = some found
  | .invalidOperator _ => False
  | .invalidNodeType kind =>
      WordAt source e.position fun word => TokenKind.ofWord? word = some kind ∧ (word = "(" ∨ word = ")")
  | .numberParseError text =>
      WordAt source e.position fun word => word = text ∧ TokenKind.ofWord? word = some .number
  | .overflow _ operator _ => WordAt source e.position fun word =>
      word = operator ∧ TokenKind.ofWord? word = some .additiveOperator
  | .nestingTooDeep _ => WordAt source e.position fun word =>
      if strategy = .reversePolish then TokenKind.ofWord? word = some .additiveOperator else word = "("
  | .mismatchedParentheses => WordAt source e.position fun word => word = "(" ∨ word = ")"
  | .invalidPostfixExpression => words source = [] ∧ e.position = 0 ∨
      WordAt source e.position fun word => TokenKind.ofWord? word = some .additiveOperator ∨
        TokenKind.ofWord? word = some .number

variable {limit : Nat} {strategy : Strategy} {config : Config} {source : String} {t : Token}
  {ts : List Token} {rest : List (Except Error Token)} {draft : Draft} {tree : Tree} {e : Error}

namespace Occurs

theorem spelled (occurs : Occurs source t) : t.Spelled := by
  obtain ⟨w,_,token⟩ := occurs
  obtain ⟨known,text,_⟩ := Word.token_ok.mp token
  rwa [text] at known

theorem wordAt (occurs : Occurs source t) {sort : String → Prop} (holds : sort t.text) :
    WordAt source t.span.start sort := by
  obtain ⟨w,member,token⟩ := occurs
  obtain ⟨_,text,span⟩ := Word.token_ok.mp token
  exact ⟨w,member,by rw [span],text ▸ holds⟩

theorem parenthesis (occurs : Occurs source t) (kind : t.kind = .openParen ∨ t.kind = .closeParen) :
    t.text = "(" ∨ t.text = ")" :=
  kind.imp occurs.spelled.opening occurs.spelled.closing

end Occurs

theorem Spells.occurs (spelled : Spells source ts) : ∀ t ∈ ts, Occurs source t :=
  fun _ => spelled.exists_word

namespace Error.Points

theorem of_word {w : Word} (member : w ∈ words source) (refused : w.token = .error e) :
    e.Points strategy source := by
  obtain ⟨_,rfl⟩ := Word.token_error.mp refused
  exact .inr ⟨w,member,rfl,rfl⟩

theorem of_item (refused : .error e ∈ (words source).map Word.token) : e.Points strategy source := by
  obtain ⟨w,member,refused⟩ := List.mem_map.mp refused
  exact .of_word member refused

theorem of_kind {expected : TokenKind} (occurs : Occurs source t) :
    Points strategy source ⟨.unexpectedTokenType expected t.kind t.text,t.span.start⟩ :=
  occurs.wordAt ⟨rfl,occurs.spelled⟩

theorem of_numeral (occurs : Occurs source t) (kind : t.kind = .number) :
    Points strategy source ⟨.numberParseError t.text,t.span.start⟩ :=
  occurs.wordAt ⟨rfl,kind ▸ occurs.spelled⟩

theorem of_opening (infixed : strategy ≠ .reversePolish) (occurs : Occurs source t)
    (kind : t.kind = .openParen) : Points strategy source ⟨.nestingTooDeep limit,t.span.start⟩ :=
  occurs.wordAt (by rw [if_neg infixed]; exact occurs.spelled.opening kind)

/-- An error is at a word, at the end, or at zero in a text without words. -/
theorem place (points : e.Points strategy source) : (∃ w ∈ words source, w.span.start = e.position) ∨
    e.position = source.utf8ByteSize ∨ words source = [] ∧ e.position = 0 := by
  have standing {sort : String → Prop} (found : WordAt source e.position sort) :
      ∃ w ∈ words source, w.span.start = e.position := by
    obtain ⟨w,member,start,_⟩ := found
    exact ⟨w,member,start⟩
  obtain ⟨cause,position⟩ := e
  cases cause with
  | unexpectedInput =>
    rcases points with ⟨_,atEnd⟩ | found
    · exact .inr (.inl atEnd)
    · exact .inl (standing found)
  | invalidPostfixExpression =>
    rcases points with nothing | found
    · exact .inr (.inr nothing)
    · exact .inl (standing found)
  | invalidOperator => cases points
  | unexpectedTokenType | invalidNodeType | numberParseError | overflow | nestingTooDeep |
    mismatchedParentheses => exact .inl (standing points)

end Error.Points

theorem Draft.Fault.points (infixed : strategy ≠ .reversePolish)
    (among : rest ⊆ (words source).map Word.token)
    (fault : Fault limit source.utf8ByteSize draft rest e) : e.Points strategy source := by
  have token {t : Token} (member : .ok t ∈ rest) : Occurs source t := List.mem_map.mp (among member)
  cases fault with
  | operandMissing | groupOpen => exact .inl ⟨rfl,rfl⟩
  | word | wordInside => exact .of_item (among (by simp))
  | operandDue | closingDue => exact .of_kind (token (by simp))
  | numeral kind => exact .of_numeral (token (by simp)) kind
  | full kind => exact .of_opening infixed (token (by simp)) kind
  | leftover => exact .inr ((token (by simp)).wordAt rfl)

theorem Draft.Refusal.points (infixed : strategy ≠ .reversePolish)
    (read : (words source).map Word.token = ts.map .ok ++ rest) (run : Run limit .start ts draft)
    (refusal : Refusal limit source.utf8ByteSize draft rest e) : e.Points strategy source := by
  have token {t : Token} (member : .ok t ∈ ts.map .ok ++ rest) : Occurs source t :=
    List.mem_map.mp (read ▸ member)
  cases refusal with
  | operandMissing => exact .inl ⟨rfl,rfl⟩
  | @groupOpen sum group outer =>
    have occurs := token (List.mem_append_left _ (List.mem_map_of_mem run.opening_mem))
    exact occurs.wordAt (occurs.parenthesis (.inl group.opening.2))
  | word => exact .of_item (by simp [read])
  | operandDue | operatorDue => exact .of_kind (token (by simp))
  | full kind => exact .of_opening infixed (token (by simp)) kind
  | unopened kind =>
    have occurs := token (List.mem_append_right _ List.mem_cons_self)
    exact occurs.wordAt (occurs.parenthesis (.inr kind))

theorem Postfix.points_of_build (occurs : ∀ t ∈ ts, Occurs source t) (none : ts = [] → words source = [])
    (failed : build limit ts = .error e) : e.Points .reversePolish source := by
  rcases build_error failed with ⟨t,member,parts,refused⟩ | ⟨t,member,kind,rfl⟩ | ⟨empty,rfl⟩
  · have here := occurs t member
    rcases assemble_error refused with ⟨kind,⟨_,rfl⟩ | rfl⟩ | ⟨other,refused⟩
    · exact .inr (here.wordAt (.inl (kind ▸ here.spelled)))
    · exact here.wordAt (kind ▸ here.spelled)
    · rcases Tree.ofToken_error.mp refused with ⟨kind,_,rfl⟩ | ⟨notNumber,rfl⟩
      · exact .of_numeral here kind
      · have kind : t.kind = .openParen ∨ t.kind = .closeParen := by
          cases kind : t.kind <;> simp_all
        exact here.wordAt ⟨here.spelled,here.parenthesis kind⟩
  · have here := occurs t member
    exact .inr (here.wordAt (.inr (kind ▸ here.spelled)))
  · exact .inl ⟨none empty,rfl⟩

namespace Strategy

theorem shuntingYard_origin (failed : (shuntingYard.parse config).on source = .error e) :
    (∃ ts draft rest, (words source).map Word.token = ts.map .ok ++ rest ∧
      Draft.Run config.maxDepth .start ts draft ∧
      Draft.Refusal config.maxDepth source.utf8ByteSize draft rest e) ∨
    ∃ t, Occurs source t ∧ t.kind = .number ∧ e = ⟨.numberParseError t.text,t.span.start⟩ := by
  obtain ⟨l,failed⟩ := on_error.mp failed
  rcases work_bind_error.mp failed with failed | ⟨output,middle,converted,failed⟩
  · exact .inl (Postfix.convert_error.mp (on_error.mpr ⟨l,failed⟩))
  · obtain ⟨d,spelled,nested,listed⟩ := Postfix.convert_ok.mp (on_ok.mpr ⟨middle,converted⟩)
    obtain ⟨refused,_⟩ := ofExcept_error.mp failed
    rw [listed] at refused
    cases trees : d.tree? with
    | some tree => cases refused.symm.trans ((Derivation.build_listing nested).mpr trees)
    | none =>
      obtain ⟨front,t,rest,numbers,_,_,stops⟩ := d.assemble_unfit nested trees
      rw [Postfix.build,stops] at refused
      cases refused
      have member : t ∈ d.tokens.filter (·.kind = .number) := by simp [numbers]
      obtain ⟨among,number⟩ := List.mem_filter.mp member
      exact .inr ⟨t,spelled.occurs t among,by simpa using number,rfl⟩

theorem reversePolish_origin (failed : (reversePolish.parse config).on source = .error e) :
    (∃ w ∈ words source, w.token = .error e) ∨
    ∃ ts, Spells source ts ∧ Postfix.build config.maxDepth ts = .error e := by
  obtain ⟨l,failed⟩ := on_error.mp failed
  rcases work_bind_error.mp failed with failed | ⟨tokens,middle,read,failed⟩
  · obtain ⟨w,member,refused | ⟨t,before,_,impossible⟩⟩ := Lexer.feedWords_error failed
    · exact .inl ⟨w,member,refused⟩
    · cases impossible
  · exact .inr ⟨tokens.toList,tokenize_ok.mp (on_ok.mpr ⟨middle,read⟩),(ofExcept_error.mp failed).1⟩

theorem shuntingYard_points (failed : (shuntingYard.parse config).on source = .error e) :
    e.Points shuntingYard source := by
  rcases shuntingYard_origin failed with ⟨ts,draft,rest,read,run,refusal⟩ | ⟨t,occurs,number,rfl⟩
  · exact refusal.points nofun read run
  · exact .of_numeral occurs number

theorem reversePolish_points (failed : (reversePolish.parse config).on source = .error e) :
    e.Points reversePolish source := by
  rcases reversePolish_origin failed with ⟨w,member,refused⟩ | ⟨ts,spelled,refused⟩
  · exact .of_word member refused
  · refine Postfix.points_of_build spelled.occurs (fun empty => ?_) refused
    rw [empty] at spelled
    exact List.map_eq_nil_iff.mp spelled

theorem parse_points (failed : (strategy.parse config).on source = .error e) :
    e.Points strategy source := by
  cases strategy with
  | recursiveDescent =>
    obtain ⟨ts,draft,rest,read,_,fault⟩ := Grammar.fault_of_parse failed
    exact fault.points nofun (read ▸ List.subset_append_right _ _)
  | shuntingYard => exact shuntingYard_points failed
  | reversePolish => exact reversePolish_points failed

theorem occurs_of_parse (parsed : (strategy.parse config).on source = .ok tree) :
    ∃ ts, tree.ListedAs ts ∧ ∀ t ∈ ts, Occurs source t := by
  have listed {d : Derivation .sum} (trees : d.tree? = some tree)
      (occurs : ∀ t ∈ d.tokens, Occurs source t) : ∃ ts, tree.ListedAs ts ∧ ∀ t ∈ ts, Occurs source t := by
    refine ⟨d.listing,d.listedAs trees,fun t member => occurs t ?_⟩
    exact (List.mem_filter.mp (d.listing_perm.mem_iff.mp member)).1
  cases strategy with
  | recursiveDescent =>
    obtain ⟨front,rest,d,leading,trees⟩ := Grammar.leadingSum_of_parse parsed
    refine listed trees fun t member => ?_
    have among : .ok t ∈ (words source).map Word.token := by simp [leading.tokens_ahead,member]
    exact List.mem_map.mp among
  | shuntingYard =>
    obtain ⟨d,spelled,_,trees⟩ := shuntingYard_ok.mp parsed
    exact listed trees spelled.occurs
  | reversePolish =>
    simp only [parse,on_ok,work_bind_ok,ofExcept_ok] at parsed
    obtain ⟨_,tokens,middle,read,built,_⟩ := parsed
    have spelled : Spells source tokens.toList := tokenize_ok.mp (on_ok.mpr ⟨middle,read⟩)
    exact ⟨_,(Postfix.listed_of_build built).1,spelled.occurs⟩

end Strategy

theorem Tree.ListedAs.reduce_error {policy : OverflowPolicy} (listed : tree.ListedAs ts)
    (spelled : ∀ t ∈ ts, t.Spelled) (failed : tree.reduce policy = .error e) :
    ∃ t ∈ ts, t.kind = .additiveOperator ∧ ∃ l r, e = ⟨.overflow l t.text r,t.span.start⟩ := by
  induction listed with
  | literal => cases failed
  | @operation o left right ls rs kind _ _ ihl ihr =>
    obtain ⟨spelled,operator⟩ := List.forall_mem_append.mp spelled
    obtain ⟨spelledLeft,spelledRight⟩ := List.forall_mem_append.mp spelled
    rw [reduce] at failed
    rcases except_bind_error.mp failed with failed | ⟨l,_,failed⟩
    · obtain ⟨t,member,overflow⟩ := ihl spelledLeft failed
      exact ⟨t,by simp [member],overflow⟩
    rcases except_bind_error.mp failed with failed | ⟨r,_,failed⟩
    · obtain ⟨t,member,overflow⟩ := ihr spelledRight failed
      exact ⟨t,by simp [member],overflow⟩
    have additive : o.Additive := (operator o (List.mem_singleton_self o)).additive kind
    rcases policy.apply_additive additive l r with ⟨v,success⟩ | overflow
    · cases failed.symm.trans success
    · cases failed.symm.trans overflow
      exact ⟨o,by simp,kind,l,r,rfl⟩

/-- Only the end of the input has the tip for missing input. -/
theorem Cause.tip_ne {text : String} (given : text ≠ endOfInput) :
    (unexpectedInput text).tip? ≠ (unexpectedInput endOfInput).tip? := by
  intro same
  have longer := congrArg (Option.map String.utf8ByteSize) same
  rw [tip?,tip?,if_neg given,if_pos rfl,Option.map_some,Option.map_some,String.utf8ByteSize_append,
    String.utf8ByteSize_append] at longer
  have size : 19 + text.utf8ByteSize + 42 = 48 := Option.some.inj longer
  omega

namespace Calculator

theorem points_of_error {c : Calculator}
    (failed : c.parse source = .error e ∨ c.calculate source = .error e) :
    e.Points c.strategy source := by
  cases parsed : c.parse source with
  | error f =>
    rw [calculate,parsed] at failed
    have same : f = e := by
      rcases failed with failed | failed <;> exact Except.error.inj failed
    exact same ▸ Strategy.parse_points parsed
  | ok tree =>
    rw [parsed,calculate_of_parse parsed] at failed
    rcases failed with impossible | failed
    · cases impossible
    obtain ⟨ts,listed,occurs⟩ := Strategy.occurs_of_parse parsed
    obtain ⟨t,member,kind,l,r,rfl⟩ := listed.reduce_error (fun t member => (occurs t member).spelled) failed
    exact (occurs t member).wordAt ⟨rfl,kind ▸ (occurs t member).spelled⟩

/-- Every error is at a word that satisfies its cause, at the end for missing input, or at zero
in a text without words. The marker for missing input is not the text of any word. -/
theorem failures_point_at_words (c : Calculator) (source : String) (e : Error)
    (failed : c.parse source = .error e ∨ c.calculate source = .error e) :
    ((∃ w ∈ words source, w.span.start = e.position) ∨ e.position = source.utf8ByteSize ∨
      words source = [] ∧ e.position = 0) ∧
    e.Points c.strategy source ∧
    (∀ text, e.cause = .unexpectedInput text →
      (text = endOfInput ↔ e.position = source.utf8ByteSize)) ∧
    ∀ w ∈ words source, w.text ≠ endOfInput ∧
      (Cause.unexpectedInput w.text).tip? ≠ (Cause.unexpectedInput endOfInput).tip? := by
  have points := points_of_error failed
  refine ⟨points.place,points,?_,?_⟩
  · intro text cause
    unfold Error.Points at points
    rw [cause] at points
    rcases points with ⟨ended,atEnd⟩ | ⟨w,member,start,rfl⟩
    · exact iff_of_true ended atEnd
    · refine iff_of_false (Word.text_ne_endOfInput member) fun atEnd => ?_
      have before := words_start_lt member
      omega
  · intro w member
    have known := Word.text_ne_endOfInput member
    exact ⟨known,Cause.tip_ne known⟩

theorem failures_point_at_words_overflow :
    (∃ e : Error, (Calculator.mk .reversePolish {}).calculate "1 9223372036854775807 +" = .error e ∧
      e.cause = .overflow 1 "+" 9223372036854775807 ∧
      WordAt "1 9223372036854775807 +" e.position fun word =>
        word = "+" ∧ TokenKind.ofWord? word = some .additiveOperator) ∧
    ∃ e : Error, (Calculator.mk .recursiveDescent {}).parse "( 1 - " = .error e ∧
      e.cause = .unexpectedInput endOfInput ∧ e.position = "( 1 - ".utf8ByteSize := by
  constructor
  · have failed : (Calculator.mk .reversePolish {}).calculate "1 9223372036854775807 +" =
        .error ⟨.overflow 1 "+" 9223372036854775807,22⟩ := by decide +kernel
    exact ⟨_,failed,rfl,(failures_point_at_words _ _ _ (.inr failed)).2.1⟩
  · have failed : (Calculator.mk .recursiveDescent {}).parse "( 1 - " =
        .error ⟨.unexpectedInput endOfInput,6⟩ := by decide +kernel
    exact ⟨_,failed,rfl,((failures_point_at_words _ _ _ (.inl failed)).2.2.1 _ rfl).mp rfl⟩

end Calculator

end Reckoner
