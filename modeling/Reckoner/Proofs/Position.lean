import Reckoner.Proofs.Lookup

/-! Locations determine positions. Line and column identify a position, and the column exceeds
its line only after the newline that ends a text, since no line follows it. -/
namespace Reckoner.Text

/-- A character starts at byte `p`, or the text ends there. -/
def Boundary (source : String) (p : Nat) : Prop :=
  ∃ front back, source = front ++ back ∧ front.utf8ByteSize = p

/-- The lines before the one with this number, including their newlines. -/
def linesAbove (source : String) (number : Nat) : List Char :=
  closed ((source.toList.splitOn '\n').take (number - 1))

/-- `p` is the end of a text that ends with a newline. -/
def AfterNewline (source : String) (p : Nat) : Prop :=
  p = source.utf8ByteSize ∧ source.toList.getLast? = some '\n'

instance (source : String) (p : Nat) : Decidable (AfterNewline source p) :=
  inferInstanceAs (Decidable (_ ∧ _))

/-- Specification of a location against the bytes of the text. -/
structure Location.Tells (place : Location) (source : String) (p : Nat) : Prop where
  /-- The line number counts the newlines among the bytes before `p`, except one that ends the
  text. -/
  line : place.line + (if AfterNewline source p then 1 else 0) =
    1 + (source.toByteArray.data.toList.take p).count '\n'.toUInt8
  first : 1 ≤ place.line
  text : (source.toList.splitOn '\n')[place.line - 1]? = some place.text.toList
  column : ∀ front back, source = front ++ back → front.utf8ByteSize = p →
    front.length = (linesAbove source place.line).length + place.column
  within : ¬Boundary source p → place.column + byteSize (linesAbove source place.line) = p

variable {source : String} {above : List (List Char)} {line ending below cs front back : List Char}
  {p position k : Nat} {c : Char}

def bytes (cs : List Char) : List UInt8 := cs.flatMap String.utf8EncodeChar

@[simp] theorem bytes_append (front back : List Char) : bytes (front ++ back) = bytes front ++ bytes back :=
  List.flatMap_append

theorem bytes_toList (source : String) : source.toByteArray.data.toList = bytes source.toList := by
  rw [← String.ofList_toList (s := source),String.toByteArray_ofList,String.toList_ofList,List.utf8Encode,
    List.toList_data_toByteArray]
  rfl

theorem length_bytes (cs : List Char) : (bytes cs).length = byteSize cs := by
  rw [← utf8ByteSize_ofList,← String.toList_ofList (l := cs),← bytes_toList,String.toList_ofList]
  rfl

/-- UTF-8 encodings of other characters do not contain the newline byte. -/
theorem newline_not_mem (other : c ≠ '\n') : '\n'.toUInt8 ∉ String.utf8EncodeChar c := by
  have differs : c.toNat ≠ 10 := fun same => other (Char.ext (UInt32.toNat_inj.mp same))
  change (10 : UInt8) ∉ _
  unfold String.utf8EncodeChar
  change _ ∉ if c.toNat ≤ _ then _ else if c.toNat ≤ _ then _ else if c.toNat ≤ _ then _ else _
  -- The bytes of a character that takes several all have their upper bit set.
  split
  · simp [← UInt8.toNat_inj]
    omega
  split
  · simp [← UInt8.toNat_inj]
    omega
  split <;> (simp [← UInt8.toNat_inj]; omega)

theorem count_bytes (cs : List Char) : (bytes cs).count '\n'.toUInt8 = cs.count '\n' := by
  induction cs with
  | nil => rfl
  | cons c cs ih =>
    rw [← List.singleton_append,bytes_append,List.count_append,List.count_append,ih]
    by_cases newline : c = '\n'
    · subst newline
      rfl
    · have none : (bytes [c]).count '\n'.toUInt8 = 0 := by
        rw [bytes,List.flatMap_singleton]
        exact List.count_eq_zero.mpr (newline_not_mem newline)
      rw [none,List.count_singleton,if_neg (by simpa using newline)]

theorem Around.newlines (around : Around source p above line ending below) :
    ((bytes source.toList).take p).count '\n'.toUInt8 =
      above.length + (if AfterNewline source p then 1 else 0) := by
  have counted : (bytes (closed above)).count '\n'.toUInt8 = above.length := by
    rw [count_bytes,← List.append_nil (closed above),count_closed around.free List.not_mem_nil]
  have fits := around.fits
  obtain ⟨k,rfl⟩ := Nat.exists_eq_add_of_le around.reached
  have short : k ≤ (bytes (line ++ ending)).length := by
    rw [length_bytes]
    omega
  have split : (bytes source.toList).take (byteSize (closed above) + k) =
      bytes (closed above) ++ (bytes (line ++ ending)).take k := by
    rw [around.text,bytes_append (closed above),← length_bytes,List.take_length_add_append,
      bytes_append (line ++ ending),List.take_append_of_le_length short]
  rw [split,List.count_append,counted,Nat.add_left_cancel_iff]
  by_cases behind : AfterNewline source (byteSize (closed above) + k)
  · -- The newline of the line is in front of the place, so that is all of the line.
    have long := around.behind_iff.mpr behind
    rw [if_pos behind]
    rcases around.ends with rfl | ⟨rfl,_⟩
    · have one : byteSize ['\n'] = 1 := rfl
      rw [byteSize_append] at fits
      have all : k = (bytes (line ++ ['\n'])).length := by
        rw [length_bytes,byteSize_append]
        omega
      rw [all,List.take_length,count_bytes,List.count_append,List.count_eq_zero.mpr around.unbroken]
      rfl
    · rw [List.append_nil] at fits
      omega
  · have inside : k ≤ (bytes line).length := by
      have short := mt around.behind_iff.mp behind
      rw [length_bytes]
      omega
    rw [if_neg behind,bytes_append,List.take_append_of_le_length inside]
    refine List.count_eq_zero.mpr fun member => ?_
    have newline := List.count_pos_iff.mpr (List.mem_of_mem_take member)
    rw [count_bytes,List.count_eq_zero.mpr around.unbroken] at newline
    exact absurd newline (Nat.lt_irrefl 0)

theorem Around.linesAbove_eq (around : Around source p above line ending below) :
    linesAbove source (1 + above.length) = closed above := by
  obtain ⟨more,rows⟩ := around.splitOn
  rw [linesAbove,rows,Nat.add_sub_cancel_left,List.take_left]

theorem Around.column_eq (around : Around source p above line ending below)
    (cut : source.toList = front ++ back) (place : byteSize front = p) :
    ∃ head tail, front = closed above ++ head ∧ line ++ ending = head ++ tail ∧
      byteSize head = p - byteSize (closed above) ∧
      (charCount? (p - byteSize (closed above)) 0 (line ++ ending)).getD (p - byteSize (closed above)) =
        head.length := by
  obtain ⟨head,tail,whole,row,size⟩ := around.front_eq cut place
  refine ⟨head,tail,whole,row,size,?_⟩
  rw [row,← size,charCount_front,Option.getD_some,Nat.zero_add]

theorem boundary_iff : Boundary source p ↔ ∃ front back, source.toList = front ++ back ∧ byteSize front = p := by
  constructor
  · rintro ⟨front,back,rfl,place⟩
    exact ⟨front.toList,back.toList,String.toList_append,by rw [byteSize_toList,place]⟩
  · rintro ⟨front,back,cut,place⟩
    refine ⟨.ofList front,.ofList back,?_,by rw [utf8ByteSize_ofList,place]⟩
    rw [← String.ofList_append,← cut,String.ofList_toList]

theorem Around.not_boundary (around : Around source p above line ending below) (inner : ¬Boundary source p) :
    charCount? (p - byteSize (closed above)) 0 (line ++ ending) = none := by
  rw [Option.eq_none_iff_forall_ne_some]
  intro found counted
  obtain ⟨head,tail,row,size⟩ := exists_count_of_charCount counted
  have reached := around.reached
  refine inner (boundary_iff.mpr ⟨closed above ++ head,tail ++ below,?_,?_⟩)
  · rw [around.text,row,List.append_assoc,List.append_assoc]
  · rw [byteSize_append,size]
    omega

theorem locate_min (source : String) (position : Nat) :
    locate source (min position source.utf8ByteSize) = locate source position := by
  rw [locate,locate,Nat.min_eq_left (Nat.min_le_right _ _)]

theorem locate_tells (within : p ≤ source.utf8ByteSize) : (locate source p).Tells source p := by
  obtain ⟨above,line,ending,below,around,found⟩ := exists_around within
  obtain ⟨more,rows⟩ := around.splitOn
  rw [found]
  constructor
  · rw [bytes_toList,around.newlines]
    exact Nat.add_assoc 1 _ _
  · exact Nat.le_add_right 1 _
  · rw [rows,Nat.add_sub_cancel_left,List.getElem?_append_right (Nat.le_refl _),Nat.sub_self,
      String.toList_ofList]
    rfl
  · rintro front back rfl place
    rw [around.linesAbove_eq]
    obtain ⟨head,_,whole,_,_,column⟩ := around.column_eq String.toList_append (by rw [byteSize_toList,place])
    rw [column,← String.length_toList,whole,List.length_append]
  · intro inner
    rw [around.linesAbove_eq,around.not_boundary inner]
    exact Nat.sub_add_cancel around.reached

theorem Around.tail_eq_nil {head tail : List Char} (around : Around source p above line ending below)
    (last : p = source.utf8ByteSize) (row : line ++ ending = head ++ tail)
    (size : byteSize head = p - byteSize (closed above)) : tail = [] := by
  have whole := around.size_sum
  have reached := around.reached
  rw [row,byteSize_append head] at whole
  exact eq_nil_of_byteSize (by omega)

theorem Around.head_behind {head tail : List Char} (around : Around source p above line ending below)
    (row : line ++ ending = head ++ tail) (size : byteSize head = p - byteSize (closed above))
    (behind : AfterNewline source p) : head.length = line.length + 1 := by
  have long := around.behind_iff.mpr behind
  obtain rfl := around.tail_eq_nil behind.1 row size
  rw [List.append_nil] at row
  subst row
  rcases around.ends with rfl | ⟨rfl,_⟩
  · exact List.length_append
  · rw [List.append_nil] at size
    omega

theorem Around.head_inside {head tail : List Char} (around : Around source p above line ending below)
    (row : line ++ ending = head ++ tail) (size : byteSize head = p - byteSize (closed above))
    (inside : ¬AfterNewline source p) :
    head.length ≤ line.length ∧ (p = source.utf8ByteSize → head.length = line.length) := by
  have near := mt around.behind_iff.mp inside
  obtain ⟨between,rfl,rest⟩ := cut_further row (by omega)
  refine ⟨by simp,fun last => ?_⟩
  obtain ⟨rfl,_⟩ := List.append_eq_nil_iff.mp (rest.symm.trans (around.tail_eq_nil last row size))
  rw [List.append_nil]

theorem boundary_end (source : String) : Boundary source source.utf8ByteSize :=
  ⟨source,"",by simp,rfl⟩

theorem Boundary.le (boundary : Boundary source p) : p ≤ source.utf8ByteSize := by
  obtain ⟨front,back,rfl,rfl⟩ := boundary
  rw [String.utf8ByteSize_append]
  exact Nat.le_add_right _ _

theorem Boundary.eq_of_locate {q r : Nat} (first : Boundary source q) (second : Boundary source r)
    (line : (locate source q).line = (locate source r).line)
    (column : (locate source q).column = (locate source r).column) : q = r := by
  have tellsFirst := locate_tells first.le
  have tellsSecond := locate_tells second.le
  obtain ⟨front,back,cut,rfl⟩ := first
  obtain ⟨front',back',cut',rfl⟩ := second
  have length : front.length = front'.length := by
    rw [tellsFirst.column front back cut rfl,tellsSecond.column front' back' cut' rfl,line,column]
  have same : front.toList ++ back.toList = front'.toList ++ back'.toList := by
    rw [← String.toList_append,← String.toList_append,← cut,← cut']
  rw [String.toList_inj.mp (List.append_inj_left same (by rw [String.length_toList,String.length_toList,length]))]

/-- The location is that of the offset clamped to the text. The scan never passes the offset,
and exhausts the lines only for the empty text. On character boundaries, line and column are
injective. -/
theorem locations_determine_places (source : String) (position : Nat) :
    let p := min position source.utf8ByteSize
    (locate source position).Tells source p ∧
    (∀ s, Search.Run source.utf8ByteSize p (.begin source) s → s.start ≤ p ∧ (s.rest = [] → source = "") ∧
      s.answer source.utf8ByteSize p = locate source position) ∧
    ∀ q r, Boundary source q → Boundary source r → (locate source q).line = (locate source r).line →
      (locate source q).column = (locate source r).column → q = r := by
  intro p
  refine ⟨?_,fun s run => ?_,fun q r => Boundary.eq_of_locate⟩
  · rw [← locate_min]
    exact locate_tells (Nat.min_le_right _ _)
  · obtain ⟨⟨above,passed⟩,same⟩ := (Search.passed_begin source p).run run
    exact ⟨passed.reached,passed.unfinished,same.symm⟩

theorem locations_determine_places_inside_character :
    let source := "é\n日本 x\n"
    locate source 7 = ⟨2,"日本 x",4⟩ ∧ (locate source 7).Tells source 7 ∧
      ∀ s, Search.Run source.utf8ByteSize 7 (.begin source) s → s.start ≤ 7 := by
  intro source
  obtain ⟨tells,searching,_⟩ := locations_determine_places source 7
  exact ⟨by decide +kernel,tells,fun s run => (searching s run).1⟩

/-- At character boundaries and beyond the end, the column is within its line, and equals its
length from the end of the text on, unless the text ends with a newline and the offset is at or
past it. There the column is the length plus one. -/
theorem column_on_line_unless_after_newline (source : String) (position : Nat)
    (place : Boundary source position ∨ source.utf8ByteSize ≤ position) :
    let found := locate source position
    let behind := source.utf8ByteSize ≤ position ∧ source.toList.getLast? = some '\n'
    (found.column ≤ found.text.length ∧
      (source.utf8ByteSize ≤ position → found.column = found.text.length) ↔ ¬behind) ∧
    (behind → found.column = found.text.length + 1) := by
  intro found behind
  obtain ⟨p,least⟩ : ∃ p, p = min position source.utf8ByteSize := ⟨_,rfl⟩
  have atEnd : source.utf8ByteSize ≤ position ↔ p = source.utf8ByteSize := by omega
  have boundary : Boundary source p := by
    by_cases past : source.utf8ByteSize ≤ position
    · rw [atEnd.mp past]
      exact boundary_end source
    · rw [least,Nat.min_eq_left (by omega)]
      exact place.resolve_right past
  obtain ⟨above,line,ending,below,around,located⟩ := exists_around boundary.le
  obtain ⟨front,back,cut,here⟩ := boundary_iff.mp boundary
  obtain ⟨head,tail,_,row,size,column⟩ := around.column_eq cut here
  have answer : found = ⟨1 + above.length,.ofList line,head.length⟩ := by
    rw [← column,← located,least,locate_min]
  have same : behind ↔ AfterNewline source p := and_congr_left' atEnd
  rw [answer,String.length_ofList,same,atEnd]
  by_cases past : AfterNewline source p
  · have one : head.length = line.length + 1 := around.head_behind row size past
    refine ⟨iff_of_false (fun inside => ?_) (not_not_intro past),fun _ => one⟩
    have short : head.length ≤ line.length := inside.1
    omega
  · exact ⟨iff_of_true (around.head_inside row size past) past,fun behind => absurd behind past⟩

theorem column_on_line_unless_after_newline_past_end :
    let source := "1 -\n\n é 2"
    (Boundary source 40 ∨ source.utf8ByteSize ≤ 40) ∧ locate source 40 = ⟨3," é 2",4⟩ ∧
      (locate source 40).column = (locate source 40).text.length := by
  intro source
  have past : source.utf8ByteSize ≤ 40 := by decide
  obtain ⟨onLine,_⟩ := column_on_line_unless_after_newline source 40 (.inr past)
  have ended : ¬(source.utf8ByteSize ≤ 40 ∧ source.toList.getLast? = some '\n') := by decide +kernel
  exact ⟨.inr past,by decide +kernel,(onLine.mpr ended).2 past⟩

theorem column_after_newline_leaves_line :
    Boundary "a\n" 2 ∧ "a\n".utf8ByteSize ≤ 2 ∧
      (locate "a\n" 2).text.length < (locate "a\n" 2).column := by
  exact ⟨boundary_end "a\n",by decide,by decide +kernel⟩

end Reckoner.Text
