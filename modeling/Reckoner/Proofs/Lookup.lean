import Mathlib.Logic.Relation
import Reckoner.Proofs.Location

/-! Line lookup by a scan over whole lines. `Passed` records what the scan has skipped, and
determines both the line where it stops and the offset inside that line. -/
namespace Reckoner.Text

/-- Every line ends with a newline, except possibly the last. -/
inductive Rows : List (List Char) → Prop where
  | none : Rows []
  | last (filled : line ≠ []) (free : '\n' ∉ line) : Rows [line]
  | ended (free : '\n' ∉ line) : Rows more → Rows ((line ++ ['\n']) :: more)

/-- Before a line that starts at this byte, or after the last line. -/
structure Search where
  number : Nat
  start : Nat
  rest : List (List Char)

namespace Search

def begin (source : String) : Search := ⟨1,0,lines source⟩

def answer (size position : Nat) (s : Search) : Location := locateIn size position s.number s.start s.rest

/-- The offset lies on the line that starts here, or at the end of the text after it. -/
def Holds (size position start : Nat) (row : List Char) : Prop :=
  position < start + byteSize row ∨ start + byteSize row = size

inductive Step (size position : Nat) : Search → Search → Prop where
  | pass {number start : Nat} (beyond : ¬Holds size position start row) :
      Step size position ⟨number,start,row :: more⟩ ⟨number + 1,start + byteSize row,more⟩

abbrev Run (size position : Nat) : Search → Search → Prop := Relation.ReflTransGen (Step size position)

/-- Exactly these lines have been skipped. -/
structure Passed (source : String) (position : Nat) (above : List (List Char)) (s : Search) : Prop where
  text : source.toList = closed above ++ s.rest.flatten
  free : ∀ line ∈ above, '\n' ∉ line
  rows : Rows s.rest
  number : s.number = 1 + above.length
  start : s.start = byteSize (closed above)
  reached : s.start ≤ position
  unfinished : s.rest = [] → source = ""

end Search

variable {cs line rest front back row : List Char} {above more : List (List Char)} {c : Char}
  {source : String} {size position p : Nat}

theorem rows_lines (source : String) : Rows (lines source) := by
  obtain ⟨above,rest,split,free,begun⟩ := exists_closed source.toList
  rw [lines,split,splitBy_closed free]
  clear split
  induction above with
  | nil =>
    rcases List.eq_nil_or_concat' rest with rfl | ⟨front,last,rfl⟩
    · exact .none
    · have chain := isChain_line (c := last) fun member => begun (List.mem_append_left _ member)
      rw [List.map_nil,List.nil_append,List.splitBy_of_isChain (by simp) chain]
      exact .last (by simp) begun
  | cons line above ih =>
    obtain ⟨first,free⟩ := List.forall_mem_cons.mp free
    exact .ended first (ih free)

theorem flatten_lines (source : String) : (lines source).flatten = source.toList :=
  List.flatten_splitBy _ _

theorem Rows.filled (rows : Rows (row :: more)) : row ≠ [] := by
  cases rows with
  | last filled free => exact filled
  | ended free rest => simp

theorem Rows.parts (rows : Rows (row :: more)) :
    ∃ line ending, row = line ++ ending ∧ '\n' ∉ line ∧ (ending = ['\n'] ∨ ending = [] ∧ more = []) := by
  cases rows with
  | last filled free => exact ⟨row,[],by simp,free,.inr ⟨rfl,rfl⟩⟩
  | @ended line _ free rest => exact ⟨line,['\n'],rfl,free,.inl rfl⟩

theorem Rows.tail (rows : Rows (row :: more)) : Rows more := by
  cases rows with
  | last filled free => exact .none
  | ended free rest => exact rest

namespace Search

variable {s t : Search}

theorem Step.answer_eq (step : Step size position s t) : s.answer size position = t.answer size position := by
  cases step with
  | pass beyond => exact if_neg beyond

theorem answer_of_holds {number start : Nat} (holds : Holds size position start row) :
    answer size position ⟨number,start,row :: more⟩ = ⟨number,.ofList (row.takeWhile (· != '\n')),
      (charCount? (position - start) 0 row).getD (position - start)⟩ :=
  if_pos holds

theorem passed_begin (source : String) (position : Nat) : Passed source position [] (begin source) where
  text := (flatten_lines source).symm
  free := nofun
  rows := rows_lines source
  number := rfl
  start := rfl
  reached := Nat.zero_le position
  unfinished := by
    intro none
    have empty := flatten_lines source
    rw [show lines source = [] from none] at empty
    exact String.toList_eq_nil_iff.mp empty.symm

/-- A skipped line is not the last one, so it ends with a newline. -/
theorem Passed.step (passed : Passed source position above s)
    (step : Step source.utf8ByteSize position s t) : ∃ line, Passed source position (above ++ [line]) t := by
  cases step with
  | @pass row more number start beyond =>
    have place : start = byteSize (closed above) := passed.start
    have whole : source.utf8ByteSize = start + (byteSize row + byteSize more.flatten) := by
      rw [← byteSize_toList,passed.text,byteSize_append,List.flatten_cons,byteSize_append,place]
    have behind := not_or.mp beyond
    have goesOn : more ≠ [] := by
      rintro rfl
      exact behind.2 (by rw [whole]; rfl)
    obtain ⟨line,ending,rfl,free,ends⟩ := passed.rows.parts
    obtain rfl := ends.resolve_right fun last => goesOn last.2
    have closing : closed (above ++ [line]) = closed above ++ (line ++ ['\n']) := by simp [closed]
    refine ⟨line,?_,?_,passed.rows.tail,?_,?_,Nat.le_of_not_lt behind.1,fun none => absurd none goesOn⟩
    · rw [passed.text,closing,List.append_assoc,List.flatten_cons]
    · exact List.forall_mem_append.mpr ⟨passed.free,List.forall_mem_singleton.mpr free⟩
    · have counted : number = 1 + above.length := passed.number
      rw [counted,List.length_append]
      rfl
    · rw [closing,byteSize_append (closed above),← place]

theorem Passed.run (passed : Passed source position above s) (run : Run source.utf8ByteSize position s t) :
    (∃ above, Passed source position above t) ∧
      s.answer source.utf8ByteSize position = t.answer source.utf8ByteSize position := by
  induction run with
  | refl => exact ⟨⟨above,passed⟩,rfl⟩
  | tail _ step ih =>
    obtain ⟨⟨above,middle⟩,same⟩ := ih
    obtain ⟨line,last⟩ := middle.step step
    exact ⟨⟨_,last⟩,same.trans step.answer_eq⟩

theorem Passed.stops (passed : Passed source position above s) (filled : source ≠ "") :
    ∃ t row more, Run source.utf8ByteSize position s t ∧ t.rest = row :: more ∧
      Holds source.utf8ByteSize position t.start row := by
  obtain ⟨number,start,rest⟩ := s
  induction rest generalizing number start above with
  | nil => exact absurd (passed.unfinished rfl) filled
  | cons row more ih =>
    by_cases here : Holds source.utf8ByteSize position start row
    · exact ⟨_,row,more,.refl,rfl,here⟩
    · have step : Step source.utf8ByteSize position ⟨number,start,row :: more⟩
          ⟨number + 1,start + byteSize row,more⟩ := .pass here
      obtain ⟨line,next⟩ := passed.step step
      obtain ⟨t,last,below,run,found⟩ := ih _ _ next
      exact ⟨t,last,below,.head step run,found⟩

end Search

theorem eq_nil_of_byteSize (empty : byteSize cs = 0) : cs = [] := by
  by_contra filled
  exact absurd empty (Nat.ne_of_gt (byteSize_pos filled))

theorem cut_further {near far : List Char} (same : front ++ back = near ++ far)
    (further : byteSize near ≤ byteSize front) : ∃ between, front = near ++ between ∧ far = between ++ back := by
  rcases List.append_eq_append_iff.mp same with ⟨between,rfl,rfl⟩ | found
  · rw [byteSize_append] at further
    have none : byteSize between = 0 := by omega
    obtain rfl := eq_nil_of_byteSize none
    exact ⟨[],by simp,rfl⟩
  · exact found

theorem exists_count_of_charCount {bytes count found : Nat} (counted : charCount? bytes count cs = some found) :
    ∃ front back, cs = front ++ back ∧ byteSize front = bytes := by
  induction cs generalizing bytes count with
  | nil =>
    unfold charCount? at counted
    split at counted
    next none => exact ⟨[],[],rfl,none.symm⟩
    next => cases counted
  | cons c cs ih =>
    unfold charCount? at counted
    split at counted
    next none => exact ⟨[],c :: cs,rfl,none.symm⟩
    next =>
      split at counted
      next fits =>
        obtain ⟨front,back,rfl,rest⟩ := ih counted
        refine ⟨c :: front,back,rfl,?_⟩
        rw [byteSize_cons,byteSize_singleton]
        omega
      next => cases counted

/-- The lines above the offset, its own line with the line ending, and the remaining text. -/
structure Around (source : String) (position : Nat) (above : List (List Char))
    (line ending below : List Char) : Prop where
  text : source.toList = closed above ++ (line ++ ending ++ below)
  free : ∀ row ∈ above, '\n' ∉ row
  unbroken : '\n' ∉ line
  ends : ending = ['\n'] ∨ ending = [] ∧ below = []
  filled : source ≠ "" → line ++ ending ≠ []
  reached : byteSize (closed above) ≤ position
  inside : position < byteSize (closed above) + byteSize (line ++ ending) ∨
    below = [] ∧ position = source.utf8ByteSize

/-- The location is on the line around the offset, at the offset relative to that line. -/
theorem exists_around (within : position ≤ source.utf8ByteSize) : ∃ above line ending below,
    Around source position above line ending below ∧ locate source position = ⟨1 + above.length,.ofList line,
      (charCount? (position - byteSize (closed above)) 0 (line ++ ending)).getD
        (position - byteSize (closed above))⟩ := by
  have found : locate source position = (Search.begin source).answer source.utf8ByteSize position := by
    rw [locate,Nat.min_eq_left within]
    rfl
  by_cases empty : source = ""
  · subst empty
    obtain rfl := Nat.le_zero.mp within
    exact ⟨[],[],[],[],⟨rfl,nofun,nofun,.inr ⟨rfl,rfl⟩,absurd rfl,Nat.le_refl _,.inr ⟨rfl,rfl⟩⟩,rfl⟩
  · have begun := Search.passed_begin source position
    obtain ⟨⟨number,start,_⟩,row,more,run,rfl,holds⟩ := begun.stops empty
    obtain ⟨⟨above,passed⟩,same⟩ := begun.run run
    obtain rfl : number = 1 + above.length := passed.number
    obtain rfl : start = byteSize (closed above) := passed.start
    have holds : Search.Holds source.utf8ByteSize position (byteSize (closed above)) row := holds
    obtain ⟨line,ending,rfl,unbroken,ends⟩ := passed.rows.parts
    have whole : source.utf8ByteSize =
        byteSize (closed above) + (byteSize (line ++ ending) + byteSize more.flatten) := by
      rw [← byteSize_toList,passed.text,byteSize_append (closed above),List.flatten_cons,byteSize_append (line ++ ending)]
    have text : (line ++ ending).takeWhile (· != '\n') = line := by
      rw [List.takeWhile_append_of_pos (not_newline unbroken)]
      rcases ends with rfl | ⟨rfl,_⟩ <;> simp
    refine ⟨above,line,ending,more.flatten,⟨?_,passed.free,unbroken,?_,fun _ => passed.rows.filled,
      passed.reached,?_⟩,?_⟩
    · rw [passed.text,List.flatten_cons]
    · exact ends.imp_right fun ⟨bare,last⟩ => ⟨bare,by rw [last]; rfl⟩
    · rw [Search.Holds] at holds
      rcases Nat.lt_or_ge position (byteSize (closed above) + byteSize (line ++ ending)) with inside | behind
      · exact .inl inside
      · exact .inr ⟨eq_nil_of_byteSize (by omega),by omega⟩
    · rw [found,same,Search.answer_of_holds holds,text]

namespace Around

variable {ending below : List Char} (around : Around source position above line ending below)
include around

theorem size_sum : source.utf8ByteSize = byteSize (closed above) + (byteSize (line ++ ending) + byteSize below) := by
  rw [← byteSize_toList,around.text,byteSize_append (closed above),byteSize_append (line ++ ending)]

theorem fits : position ≤ byteSize (closed above) + byteSize (line ++ ending) := by
  rcases around.inside with inside | ⟨rfl,last⟩
  · exact Nat.le_of_lt inside
  · rw [last,around.size_sum]
    exact Nat.le_refl _

/-- An offset after the newline of its own line is at the end of the text. -/
theorem behind_iff : byteSize (closed above) + byteSize line < position ↔
    position = source.utf8ByteSize ∧ source.toList.getLast? = some '\n' := by
  have fits := around.fits
  have whole := around.size_sum
  rw [byteSize_append] at fits whole
  constructor
  · intro behind
    have newline : ending = ['\n'] := around.ends.resolve_right fun ⟨bare,_⟩ => by
      rw [bare,byteSize_nil] at fits
      omega
    subst newline
    have one : byteSize ['\n'] = 1 := rfl
    have outside : ¬position < byteSize (closed above) + byteSize (line ++ ['\n']) := by
      rw [byteSize_append]
      omega
    obtain ⟨rfl,last⟩ := around.inside.resolve_left outside
    exact ⟨last,by rw [around.text]; simp⟩
  · rintro ⟨rfl,last⟩
    rcases around.ends with rfl | ⟨rfl,rfl⟩
    · have one : byteSize ['\n'] = 1 := rfl
      omega
    · have filled : line ≠ [] := by
        simpa using around.filled (by rintro rfl; cases last)
      rw [around.text,List.append_nil,List.append_nil,List.getLast?_append_of_ne_nil _ filled] at last
      exact absurd (List.mem_of_getLast? last) around.unbroken

theorem splitOn : ∃ more, source.toList.splitOn '\n' = above ++ line :: more := by
  rw [around.text,splitOn_closed around.free]
  rcases around.ends with rfl | ⟨rfl,rfl⟩
  · refine ⟨below.splitOn '\n',?_⟩
    rw [List.append_assoc,List.singleton_append,List.splitOn_append_cons_self_of_not_mem around.unbroken]
  · refine ⟨[],?_⟩
    rw [List.append_nil,List.append_nil,List.splitOn_eq_singleton around.unbroken]

theorem front_eq (cut : source.toList = front ++ back) (place : byteSize front = position) :
    ∃ head tail, front = closed above ++ head ∧ line ++ ending = head ++ tail ∧
      byteSize head = position - byteSize (closed above) := by
  have whole := cut.symm.trans around.text
  obtain ⟨head,rfl,ahead⟩ := cut_further whole (by rw [place]; exact around.reached)
  rw [byteSize_append] at place
  have short : byteSize head ≤ byteSize (line ++ ending) := by
    have fits := around.fits
    omega
  obtain ⟨tail,row,_⟩ := cut_further ahead short
  exact ⟨head,tail,rfl,row,by omega⟩

theorem line_eq {head tail : List Char} (row : line ++ ending = head ++ c :: tail) (solid : c ≠ '\n') :
    ∃ more, line = head ++ c :: more := by
  have other : c ∉ ending := by
    rcases around.ends with rfl | ⟨rfl,_⟩ <;> simp [solid]
  rcases List.append_eq_append_iff.mp row with ⟨between,rfl,split⟩ | ⟨between,rfl,split⟩
  · exact absurd (by simp [split]) other
  · cases between with
    | nil => exact absurd (by rw [← split.trans (List.nil_append ending)]; simp) other
    | cons d more =>
      obtain ⟨rfl,_⟩ := List.cons.inj split
      exact ⟨more,rfl⟩

end Around

/-- The line of an offset starts after the last newline before it. -/
theorem locate_of_split (split : source.toList = front ++ c :: back) (solid : c ≠ '\n') :
    ∃ tail, '\n' ∉ front.rtakeWhile (· != '\n') ++ c :: tail ∧
      (source.toList.splitOn '\n')[front.count '\n']? =
        some (front.rtakeWhile (· != '\n') ++ c :: tail) ∧
      locate source (byteSize front) = ⟨1 + front.count '\n',
        .ofList (front.rtakeWhile (· != '\n') ++ c :: tail),(front.rtakeWhile (· != '\n')).length⟩ := by
  have size : source.utf8ByteSize = byteSize front + byteSize (c :: back) := by
    rw [← byteSize_toList,split,byteSize_append front]
  have positive := byteSize_pos (List.cons_ne_nil c back)
  have within : byteSize front ≤ source.utf8ByteSize := by omega
  obtain ⟨above,line,ending,below,around,located⟩ := exists_around within
  obtain ⟨head,rest,rfl,row,place⟩ := around.front_eq split rfl
  -- The character itself is what the line goes on with.
  have behind : rest ++ below = c :: back := by
    have text := around.text
    rw [row,split,List.append_assoc,List.append_assoc,List.append_cancel_left_eq] at text
    exact (List.append_cancel_left text).symm
  have goesOn : rest ≠ [] := by
    rintro rfl
    rcases around.inside with inside | ⟨rfl,_⟩
    · rw [row,List.append_nil,byteSize_append] at inside
      exact Nat.lt_irrefl _ inside
    · cases behind
  obtain ⟨d,tail,rfl⟩ := List.exists_cons_of_ne_nil goesOn
  obtain ⟨rfl,_⟩ := List.cons.inj behind
  obtain ⟨more,rfl⟩ := around.line_eq row solid
  have begun : '\n' ∉ head := fun member => around.unbroken (List.mem_append_left _ member)
  obtain ⟨others,rows⟩ := around.splitOn
  rw [count_closed around.free begun,rtakeWhile_closed begun]
  refine ⟨more,around.unbroken,?_,?_⟩
  · rw [rows,List.getElem?_append_right (Nat.le_refl _),Nat.sub_self]
    rfl
  · rw [located,← place,row,charCount_front,Option.getD_some,Nat.zero_add]

end Reckoner.Text
