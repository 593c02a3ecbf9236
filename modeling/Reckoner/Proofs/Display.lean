import Reckoner.Proofs.Recursion
import Reckoner.Proofs.Writing

/-! Prefix notation. The worklist loop writes what plain recursion writes, and the notation is
uniquely readable: a numeral extends to the next blank or parenthesis, so a minus sign is an
operator iff a blank follows it. -/
namespace Reckoner

def Text.isNumeric (c : Char) : Bool := c.isDigit || c == '-'

namespace Value

theorem text_numeric (v : Value) : ∀ c ∈ v.text.toList, Text.isNumeric c = true := by
  obtain ⟨digits,numeral,spelled⟩ := toString_digits v.toInt
  have numeric : ∀ c ∈ digits, Text.isNumeric c = true := by
    simp only [Text.isDigits,Bool.and_eq_true,List.all_eq_true] at numeral
    intro c member
    rw [Text.isNumeric,numeral.2 c member,Bool.true_or]
  rcases spelled with ⟨spelled,_⟩ | ⟨spelled,_⟩
  · rwa [text,spelled]
  · rw [text,spelled]
    exact List.forall_mem_cons.mpr ⟨rfl,numeric⟩

theorem text_ne_nil (v : Value) : v.text.toList ≠ [] := by
  intro none
  have known := v.ofWord_text
  simp [TokenKind.ofWord?,none,Text.isDigits] at known

theorem text_injective {v w : Value} (same : v.text = w.text) : v = w := by
  have read := v.ofNumeral_text
  rw [same,w.ofNumeral_text] at read
  exact (Option.some.inj read).symm

theorem takeWhile_text (v : Value) {rest : List Char} (ends : ∀ c ∈ rest.head?, Text.isNumeric c = false) :
    (v.text.toList ++ rest).takeWhile Text.isNumeric = v.text.toList :=
  Text.takeWhile_stop v.text_numeric ends

end Value

namespace Tree

def prefixText : Tree → String
  | literal v _ => v.text
  | operation o left right _ =>
    "(" ++ o.text ++ " " ++ left.prefixText ++ " " ++ right.prefixText ++ ")"

def operators : Tree → List Token
  | literal .. => []
  | operation o left right _ => o :: (left.operators ++ right.operators)

/-- Same shape, values and operator texts. Spans and operator kinds are unconstrained. -/
inductive Alike : Tree → Tree → Prop where
  | literal (v : Value) (s s' : Span) : Alike (literal v s) (literal v s')
  | operation {o p : Token} {left right left' right' : Tree} {s s' : Span} (text : o.text = p.text) :
      Alike left left' → Alike right right' →
      Alike (operation o left right s) (operation p left' right' s')

theorem display_eq_prefixText (t : Tree) : t.display = t.prefixText := by
  induction t with
  | literal v s => rw [display_literal,prefixText]
  | operation o left right s ihl ihr => rw [display_operation,prefixText,ihl,ihr]

theorem Alike.prefixText_eq {t u : Tree} (alike : t.Alike u) : t.prefixText = u.prefixText := by
  induction alike with
  | literal => rfl
  | operation text _ _ ihl ihr => rw [prefixText,prefixText,text,ihl,ihr]

theorem toList_operation (o : Token) (left right : Tree) (s : Span) (rest : List Char) :
    (operation o left right s).prefixText.toList ++ rest = '(' :: (o.text.toList ++
      ' ' :: (left.prefixText.toList ++ ' ' :: (right.prefixText.toList ++ ')' :: rest))) := by
  simp [prefixText]

theorem text_eq_of_sign {o p : Token} {rest rest' : List Char} (sign : o.text = "+" ∨ o.text = "-")
    (sign' : p.text = "+" ∨ p.text = "-") (same : o.text.toList ++ rest = p.text.toList ++ rest') :
    o.text = p.text := by
  rcases sign with text | text <;> rcases sign' with text' | text' <;> rw [text,text'] at same ⊢
  · simp at same
  · simp at same

/-- The end of a displayed tree is determined by the text after it. -/
theorem alike_of_text {t u : Tree} {rest rest' : List Char}
    (signs : ∀ o ∈ t.operators, o.text = "+" ∨ o.text = "-")
    (signs' : ∀ o ∈ u.operators, o.text = "+" ∨ o.text = "-")
    (ends : ∀ c ∈ rest.head?, Text.isNumeric c = false)
    (ends' : ∀ c ∈ rest'.head?, Text.isNumeric c = false)
    (same : t.prefixText.toList ++ rest = u.prefixText.toList ++ rest') : t.Alike u ∧ rest = rest' := by
  induction t generalizing u rest rest' with
  | literal v s =>
    cases u with
    | literal w s' =>
      have numerals := congrArg (List.takeWhile Text.isNumeric) same
      rw [prefixText,prefixText,v.takeWhile_text ends,w.takeWhile_text ends'] at numerals
      cases Value.text_injective (String.toList_inj.mp numerals)
      exact ⟨.literal v s s',List.append_cancel_left same⟩
    | operation p left' right' s' =>
      have numerals := congrArg (List.takeWhile Text.isNumeric) same
      rw [toList_operation,prefixText,v.takeWhile_text ends] at numerals
      exact absurd numerals v.text_ne_nil
  | operation o left right s ihl ihr =>
    cases u with
    | literal w s' =>
      have numerals := congrArg (List.takeWhile Text.isNumeric) same
      rw [toList_operation,prefixText,w.takeWhile_text ends'] at numerals
      exact absurd numerals.symm w.text_ne_nil
    | operation p left' right' s' =>
      obtain ⟨sign,signs⟩ := List.forall_mem_cons.mp signs
      obtain ⟨sign',signs'⟩ := List.forall_mem_cons.mp signs'
      obtain ⟨signsLeft,signsRight⟩ := List.forall_mem_append.mp signs
      obtain ⟨signsLeft',signsRight'⟩ := List.forall_mem_append.mp signs'
      rw [toList_operation,toList_operation] at same
      have same := (List.cons.inj same).2
      have text := text_eq_of_sign sign sign' same
      rw [text] at same
      have left := (List.cons.inj (List.append_cancel_left same)).2
      obtain ⟨alikeLeft,right⟩ := ihl signsLeft signsLeft' (by simp [Text.isNumeric])
        (by simp [Text.isNumeric]) left
      obtain ⟨alikeRight,behind⟩ := ihr signsRight signsRight' (by simp [Text.isNumeric])
        (by simp [Text.isNumeric]) (List.cons.inj right).2
      exact ⟨.operation text alikeLeft alikeRight,(List.cons.inj behind).2⟩

/-- The display equals plain recursion, and equals a loop over the left spine with one nested
call for each right operand, given enough calls. On trees of additive operators it is injective
up to spans. -/
theorem display_determines_tree (t : Tree) :
    t.display = t.prefixText ∧
    (∀ calls, t.nestedCalls ≤ calls → Walk.writing.within calls t = some (.ok t.prefixText)) ∧
    ∀ u : Tree, (∀ o ∈ t.operators ++ u.operators, o.text = "+" ∨ o.text = "-") →
      (t.display = u.display ↔ t.Alike u) := by
  refine ⟨t.display_eq_prefixText,fun calls enough => ?_,fun u signs => ?_⟩
  · rw [Walk.writing_within enough,display_eq_prefixText]
  · obtain ⟨signs,signs'⟩ := List.forall_mem_append.mp signs
    rw [display_eq_prefixText,display_eq_prefixText]
    refine ⟨fun same => ?_,Alike.prefixText_eq⟩
    have whole : t.prefixText.toList ++ [] = u.prefixText.toList ++ [] := by rw [same]
    exact (alike_of_text signs signs' (by simp) (by simp) whole).1

theorem display_determines_tree_signs :
    let t : Tree := .operation ⟨.additiveOperator,"-",⟨3,4⟩⟩ (.literal (-5) ⟨0,2⟩)
      (.operation ⟨.additiveOperator,"-",⟨9,10⟩⟩ (.literal 3 ⟨7,8⟩) (.literal 2 ⟨11,12⟩) ⟨7,12⟩) ⟨0,12⟩
    let moved : Tree := .operation ⟨.closeParen,"-",⟨0,0⟩⟩ (.literal (-5) ⟨8,1⟩)
      (.operation ⟨.number,"-",⟨4,4⟩⟩ (.literal 3 ⟨0,0⟩) (.literal 2 ⟨6,6⟩) ⟨0,6⟩) ⟨8,6⟩
    let other : Tree := .operation ⟨.additiveOperator,"-",⟨7,8⟩⟩
      (.operation ⟨.additiveOperator,"-",⟨3,4⟩⟩ (.literal (-5) ⟨0,2⟩) (.literal 3 ⟨5,6⟩) ⟨0,6⟩)
      (.literal 2 ⟨9,10⟩) ⟨0,10⟩
    (t.nestedCalls ≤ 2 ∧ Walk.writing.within 2 t = some (.ok "(- -5 (- 3 2))")) ∧
      ((∀ o ∈ t.operators ++ moved.operators, o.text = "+" ∨ o.text = "-") ∧
        t.display = moved.display ∧ t.Alike moved) ∧
      (∀ o ∈ t.operators ++ other.operators, o.text = "+" ∨ o.text = "-") ∧ t.display ≠ other.display := by
  intro t moved other
  have written : t.prefixText = "(- -5 (- 3 2))" := by decide +kernel
  obtain ⟨displayed,walked,determined⟩ := display_determines_tree t
  have signs : ∀ o ∈ t.operators ++ moved.operators, o.text = "+" ∨ o.text = "-" := by decide +kernel
  have signs' : ∀ o ∈ t.operators ++ other.operators, o.text = "+" ∨ o.text = "-" := by decide +kernel
  have same : t.display = moved.display := by
    rw [displayed,(display_determines_tree moved).1]
    decide +kernel
  refine ⟨⟨by decide,written ▸ walked 2 (by decide)⟩,⟨signs,same,(determined moved signs).mp same⟩,signs',?_⟩
  intro same
  have alike := (determined other signs').mp same
  dsimp only [t,other] at alike
  -- A literal on one side would have to be an operation on the other.
  cases alike with
  | operation _ left _ => cases left

end Tree

end Reckoner
