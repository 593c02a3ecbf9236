import Reckoner.Diagram
import Reckoner.Proofs.Lookup
import Reckoner.Proofs.Pointing

/-! Diagrams of errors at words. A word has no blanks, so its line is one line of the text, and
trimming that line shifts word and caret equally. -/
namespace Reckoner

def Unbroken (text : String) : Prop := '\n' ∉ text.toList

variable {source : String} {w : Word} {e : Error} {strategy : Strategy}

theorem isDigit_of_mem_toString {n : Nat} {c : Char} (member : c ∈ (toString n).toList) :
    c.isDigit = true := by
  have digits : (toString n).toList = Nat.toDigits 10 n := String.toList_ofList
  rw [digits] at member
  exact Nat.isDigit_of_mem_toDigits (by decide) (by decide) member

namespace Unbroken

theorem ofList {cs : List Char} (free : '\n' ∉ cs) : Unbroken (String.ofList cs) := by
  rwa [Unbroken,String.toList_ofList]

@[simp] theorem append {front back : String} :
    Unbroken (front ++ back) ↔ Unbroken front ∧ Unbroken back := by
  simp [Unbroken]

theorem of_toString (n : Nat) : Unbroken (toString n) :=
  fun newline => absurd (isDigit_of_mem_toString newline) (by decide)

theorem of_repeated {c : Char} (other : c ≠ '\n') (n : Nat) : Unbroken (repeated c n) :=
  .ofList fun newline => other (List.eq_of_mem_replicate newline).symm

theorem of_word (member : w ∈ words source) : Unbroken w.text := by
  intro newline
  exact absurd ((Word.solid member).unbroken _ newline) (by decide)

end Unbroken

theorem TokenKind.name_unbroken (kind : TokenKind) : Unbroken kind.name := by
  cases kind <;> exact .ofList (by decide)

theorem Cause.name_unbroken (cause : Cause) : Unbroken cause.name := by
  cases cause <;> exact .ofList (by decide)

/-- Tips quote words only, so they add no line break. -/
theorem Error.Points.tip_unbroken {tip : String} (points : e.Points strategy source)
    (given : e.cause.tip? = some tip) : Unbroken tip := by
  have quoted {sort : String → Prop} {text : String} (found : WordAt source e.position sort)
      (same : ∀ word, sort word → word = text) : Unbroken text := by
    obtain ⟨w,member,_,holds⟩ := found
    exact same _ holds ▸ .of_word member
  obtain ⟨cause,position⟩ := e
  cases cause with
  | unexpectedInput text =>
    by_cases ended : text = endOfInput
    · rw [Cause.tip?,if_pos ended] at given
      cases given
      exact .ofList (by decide)
    · rw [Cause.tip?,if_neg ended] at given
      cases given
      have word := points.resolve_left fun h => ended h.1
      simp only [Unbroken.append]
      exact ⟨⟨.ofList (by decide),quoted word fun _ same => same⟩,.ofList (by decide)⟩
  | unexpectedTokenType expected found text =>
    cases given
    simp only [Unbroken.append,and_assoc]
    exact ⟨.ofList (by decide),expected.name_unbroken,.ofList (by decide),found.name_unbroken,
      .ofList (by decide),quoted points fun _ same => same.1,.ofList (by decide)⟩
  | invalidOperator => cases given
  | invalidNodeType => cases given
  | numberParseError text =>
    cases given
    simp only [Unbroken.append]
    exact ⟨⟨.ofList (by decide),quoted points fun _ same => same.1⟩,.ofList (by decide)⟩
  | nestingTooDeep limit =>
    cases given
    simp only [Unbroken.append]
    exact ⟨⟨.ofList (by decide),.of_toString limit⟩,.ofList (by decide)⟩
  | overflow | mismatchedParentheses | invalidPostfixExpression =>
    cases given
    exact .ofList (by decide)

theorem Error.Points.header_unbroken (points : e.Points strategy source) : Unbroken e.header := by
  have front : Unbroken ("Error: " ++ e.cause.name) :=
    Unbroken.append.mpr ⟨.ofList (by decide),e.cause.name_unbroken⟩
  unfold Error.header
  cases given : e.cause.tip? with
  | none => exact front
  | some tip =>
    simp only [Unbroken.append] at front ⊢
    exact ⟨⟨⟨front,.ofList (by decide)⟩,points.tip_unbroken given⟩,.ofList (by decide)⟩

/-- Margin, numbered line and caret line. The source line splits into the trimmed sides and the
part shown. -/
structure Drawing where
  margin : String
  numbered : String
  underlined : String
  left : List Char
  shown : List Char
  right : List Char
  bar : Nat
  caret : Nat

def Drawing.lines (d : Drawing) : List String := [d.margin,d.numbered,d.underlined]

/-- The word lies in the shown part and the caret is in the column of its first character. -/
structure Drawing.Shows (d : Drawing) (source : String) (w : Word) : Prop where
  unbroken : ∀ text ∈ d.lines, Unbroken text
  margin : d.margin = repeated ' ' d.bar ++ "|"
  bars : ∀ text ∈ d.lines, text.toList.idxOf? '|' = some d.bar
  trimmed : Text.Trimmed d.left d.shown d.right
  /-- The number counts the newlines before the word, the caret the characters since the last of
  them. -/
  place : ∃ front back, source = front ++ back ∧ front.utf8ByteSize = w.span.start ∧
    (source.toList.splitOn '\n')[front.toList.count '\n']? = some (d.left ++ d.shown ++ d.right) ∧
    d.numbered = toString (1 + front.toList.count '\n') ++ " | " ++ String.ofList d.shown ∧
    d.caret + d.left.length = d.bar + 2 + (front.toList.rtakeWhile (· != '\n')).length
  caret : d.underlined.toList.idxOf? '^' = some d.caret ∧ d.underlined.toList.count '^' = 1
  under : ∃ c, w.text.toList.head? = some c ∧ d.numbered.toList[d.caret]? = some c

theorem idxOf_append_cons {front rest : List Char} {c : Char} (free : c ∉ front) :
    (front ++ c :: rest).idxOf? c = some front.length := by
  induction front with
  | nil => simp [List.idxOf?_cons]
  | cons d front ih =>
    obtain ⟨other,free⟩ := List.ne_and_not_mem_of_not_mem_cons free
    simp [List.idxOf?_cons,other.symm,ih free]

namespace Drawing

def ofLine (number : Nat) (left shown right : List Char) (dashes : Nat) : Drawing :=
  let bar := (toString number).length + 1
  let margin := repeated ' ' bar ++ "|"
  { margin := margin
    numbered := toString number ++ " | " ++ String.ofList shown
    underlined := margin ++ " " ++ (repeated '-' dashes ++ "^")
    left := left
    shown := shown
    right := right
    bar := bar
    caret := bar + 2 + dashes }

variable {number dashes : Nat} {left shown right : List Char}

theorem ofLine_unbroken (free : '\n' ∉ shown) :
    ∀ text ∈ (ofLine number left shown right dashes).lines, Unbroken text := by
  have bar : Unbroken "|" := .ofList (by decide)
  have blanks := Unbroken.of_repeated (c := ' ') (by decide) ((toString number).length + 1)
  have line := Unbroken.of_repeated (c := '-') (by decide) dashes
  simp only [lines,ofLine,List.forall_mem_cons,Unbroken.append]
  exact ⟨⟨blanks,bar⟩,⟨⟨.of_toString number,.ofList (by decide)⟩,.ofList free⟩,
    ⟨⟨⟨blanks,bar⟩,.ofList (by decide)⟩,line,.ofList (by decide)⟩,nofun⟩

theorem numbered_toList : (ofLine number left shown right dashes).numbered.toList =
    ((toString number).toList ++ [' ']) ++ '|' :: ' ' :: shown := by
  simp [ofLine]

theorem underlined_toList : (ofLine number left shown right dashes).underlined.toList =
    List.replicate ((toString number).length + 1) ' ' ++ '|' :: ' ' ::
      (List.replicate dashes '-' ++ ['^']) := by
  simp [ofLine,repeated]

theorem ofLine_bars : ∀ text ∈ (ofLine number left shown right dashes).lines,
    text.toList.idxOf? '|' = some (ofLine number left shown right dashes).bar := by
  have blanks : '|' ∉ List.replicate ((toString number).length + 1) ' ' := by simp
  have digits : '|' ∉ (toString number).toList ++ [' '] := by
    intro member
    rcases List.mem_append.mp member with member | member
    · exact absurd (isDigit_of_mem_toString member) (by decide)
    · exact absurd member (by decide)
  have margin : (ofLine number left shown right dashes).margin.toList =
      List.replicate ((toString number).length + 1) ' ' ++ '|' :: [] := by
    simp [ofLine,repeated]
  simp only [lines,List.forall_mem_cons,margin,numbered_toList,underlined_toList]
  refine ⟨?_,?_,?_,nofun⟩
  · rw [idxOf_append_cons blanks,List.length_replicate]
    rfl
  · rw [idxOf_append_cons digits,List.length_append,String.length_toList]
    rfl
  · rw [idxOf_append_cons blanks,List.length_replicate]
    rfl

theorem ofLine_caret : (ofLine number left shown right dashes).underlined.toList.idxOf? '^' =
      some (ofLine number left shown right dashes).caret ∧
    (ofLine number left shown right dashes).underlined.toList.count '^' = 1 := by
  have last : (ofLine number left shown right dashes).underlined.toList =
      (List.replicate ((toString number).length + 1) ' ' ++ '|' :: ' ' :: List.replicate dashes '-') ++
        '^' :: [] := by
    simp only [underlined_toList,List.append_assoc,List.cons_append]
  have once : '^' ∉ List.replicate ((toString number).length + 1) ' ' ++
      '|' :: ' ' :: List.replicate dashes '-' := by
    simp
  have index : (List.replicate ((toString number).length + 1) ' ' ++
      '|' :: ' ' :: List.replicate dashes '-').length = (toString number).length + 1 + (dashes + 2) := by
    simp only [List.length_append,List.length_replicate,List.length_cons]
  rw [last,idxOf_append_cons once,List.count_append,List.count_eq_zero.mpr once,Nat.zero_add,index,
    Nat.add_comm dashes 2,← Nat.add_assoc]
  exact ⟨rfl,List.count_singleton_self⟩

theorem ofLine_above : (ofLine number left shown right dashes).numbered.toList[
    (ofLine number left shown right dashes).caret]? = shown[dashes]? := by
  have caret : (ofLine number left shown right dashes).caret =
      ((toString number).toList ++ [' ']).length + (dashes + 2) := by
    rw [List.length_append,String.length_toList,Nat.add_comm dashes 2,← Nat.add_assoc]
    rfl
  rw [numbered_toList,caret,List.getElem?_append_right (Nat.le_add_right _ _),Nat.add_sub_cancel_left]
  rfl

end Drawing

theorem Error.diagram_shows (member : w ∈ words source) (start : w.span.start = e.position)
    (fits : e.caretWidth source ≤ maxWidth) : ∃ d : Drawing, d.Shows source w ∧
      e.diagram source = some (e.header ++ "\n" ++ d.margin ++ "\n" ++ d.numbered ++ "\n" ++
        d.underlined ++ "\n") := by
  obtain ⟨front,back,split,place⟩ := words_place member
  obtain ⟨c,more,text⟩ := List.exists_cons_of_ne_nil fun none =>
    (Word.solid member).nonempty (String.toList_eq_nil_iff.mp none)
  have solid : Text.isBlank c = false := (Word.solid member).unbroken c (by simp [text])
  have other : c ≠ '\n' := by
    rintro rfl
    exact absurd solid (by decide)
  -- The line of the word, and what is left of it.
  have chars : source.toList = front.toList ++ c :: (more ++ back.toList) := by simp [split,text]
  obtain ⟨tail,free,line,located⟩ := Text.locate_of_split chars other
  rw [Text.byteSize_toList,← place,start] at located
  generalize column : front.toList.rtakeWhile (· != '\n') = head at free line located
  obtain ⟨right,parts,trimmed⟩ := Text.trim_parts (head ++ c :: tail)
  generalize cut : (head ++ c :: tail).takeWhile Text.isBlank = left at parts trimmed
  generalize kept : Text.trim (head ++ c :: tail) = shown at parts trimmed
  obtain ⟨moved,here⟩ := trimmed.kept parts.symm solid
  have unbroken : '\n' ∉ shown := by
    intro newline
    exact free (by simp [parts,newline])
  have width : e.caretWidth source = head.length - left.length + 1 := by
    simp only [caretWidth,located,String.toList_ofList,cut]
  refine ⟨Drawing.ofLine (1 + front.toList.count '\n') left shown right (head.length - left.length),
    ⟨Drawing.ofLine_unbroken unbroken,rfl,Drawing.ofLine_bars,trimmed,?_,Drawing.ofLine_caret,?_⟩,?_⟩
  · refine ⟨front,w.text ++ back,by rw [split,String.append_assoc],place.symm,?_,rfl,?_⟩
    · rw [line,parts]
      rfl
    · rw [column]
      change (toString (1 + front.toList.count '\n')).length + 1 + 2 + (head.length - left.length) +
        left.length = (toString (1 + front.toList.count '\n')).length + 1 + 2 + head.length
      omega
  · exact ⟨c,by rw [text]; rfl,by rw [Drawing.ofLine_above,here]⟩
  · rw [diagram,if_pos fits,width]
    simp only [located,String.toList_ofList,kept,Drawing.ofLine,Nat.add_sub_cancel,String.append_assoc]

namespace Calculator

/-- If the caret fits the width limit, the diagram of an error at a word has four lines: header,
margin, trimmed source line with its number, and a caret in the column of the word. Both bars
share a column. -/
theorem caret_stands_under_word (c : Calculator) (source : String) (e : Error) (w : Word)
    (failed : c.calculate source = .error e) (member : w ∈ words source)
    (start : w.span.start = e.position) (fits : e.caretWidth source ≤ Error.maxWidth) :
    ∃ d : Drawing, d.Shows source w ∧ Unbroken e.header ∧
      e.diagram source = some (e.header ++ "\n" ++ d.margin ++ "\n" ++ d.numbered ++ "\n" ++
        d.underlined ++ "\n") := by
  obtain ⟨d,shows,drawn⟩ := e.diagram_shows member start fits
  exact ⟨d,shows,(points_of_error (.inr failed)).header_unbroken,drawn⟩

theorem caret_stands_under_word_second_line :
    let source := "( 1 -\n\u3000 2 - é8 ) \n"
    let e : Error := ⟨.unexpectedInput "é8",14⟩
    let w : Word := ⟨"é8",⟨14,17⟩⟩
    (Calculator.mk .recursiveDescent {}).calculate source = .error e ∧
      ∃ d : Drawing, d.Shows source w ∧ Unbroken e.header ∧
        e.diagram source = some (e.header ++ "\n" ++ d.margin ++ "\n" ++ d.numbered ++ "\n" ++
          d.underlined ++ "\n") := by
  intro source e w
  have failed : (Calculator.mk .recursiveDescent {}).calculate source = .error e := by decide +kernel
  exact ⟨failed,caret_stands_under_word _ _ _ w failed (by decide +kernel) rfl (by decide +kernel)⟩

end Calculator

example : Error.diagram ⟨.invalidNodeType .closeParen,18⟩ "( 1 -\n\u3000 2 - é8 ) \n" =
    some "Error: InvalidNodeType\n  |\n2 | 2 - é8 )\n  | -------^\n" := by
  decide +kernel

end Reckoner
