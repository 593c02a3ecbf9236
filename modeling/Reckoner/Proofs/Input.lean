import Reckoner.Command.Run
import Reckoner.Proofs.Position

/-! Lines of the input. Splitting the bytes at newlines agrees with splitting the text, as no
other character has the newline byte in its encoding. -/
namespace Reckoner

namespace Text

variable {cs : List Char}

theorem newline_not_mem_bytes (free : '\n' ∉ cs) : '\n'.toUInt8 ∉ bytes cs := by
  have none : (bytes cs).count '\n'.toUInt8 = 0 := by rw [count_bytes,List.count_eq_zero.mpr free]
  exact List.count_eq_zero.mp none

theorem splitOn_bytes (cs : List Char) :
    (bytes cs).splitOn '\n'.toUInt8 = (cs.splitOn '\n').map bytes := by
  obtain ⟨above,rest,rfl,free,begun⟩ := exists_closed cs
  induction above with
  | nil =>
    change (bytes rest).splitOn _ = (rest.splitOn '\n').map bytes
    rw [List.splitOn_eq_singleton (newline_not_mem_bytes begun),List.splitOn_eq_singleton begun]
    rfl
  | cons line above ih =>
    obtain ⟨first,free⟩ := List.forall_mem_cons.mp free
    have cut : bytes (line ++ '\n' :: (closed above ++ rest)) =
        bytes line ++ '\n'.toUInt8 :: bytes (closed above ++ rest) := bytes_append _ _
    rw [closed_cons,cut,List.splitOn_append_cons_self_of_not_mem (newline_not_mem_bytes first),ih free,
      List.splitOn_append_cons_self_of_not_mem first,List.map_cons]

theorem bytes_intercalate (lines : List (List Char)) :
    bytes (['\n'].intercalate lines) = ['\n'.toUInt8].intercalate (lines.map bytes) := by
  induction lines with
  | nil => rfl
  | cons line lines ih =>
    cases lines with
    | nil => simp
    | cons next lines =>
      have newline : bytes ['\n'] = ['\n'.toUInt8] := rfl
      rw [List.intercalate_cons_cons,bytes_append,bytes_append,ih]
      simp [List.intercalate_cons_cons,newline]

theorem isValidUTF8_iff {line : List UInt8} : line.toByteArray.IsValidUTF8 ↔ ∃ cs, line = bytes cs := by
  constructor
  · rintro ⟨cs,same⟩
    exact ⟨cs,List.toByteArray_inj.mp same⟩
  · rintro ⟨cs,rfl⟩
    exact ⟨cs,rfl⟩

theorem exists_texts {rows : List (List UInt8)} (valid : ∀ row ∈ rows, row.toByteArray.IsValidUTF8) :
    ∃ lines : List (List Char), rows = lines.map bytes := by
  induction rows with
  | nil => exact ⟨[],rfl⟩
  | cons row rows ih =>
    obtain ⟨first,others⟩ := List.forall_mem_cons.mp valid
    obtain ⟨line,rfl⟩ := isValidUTF8_iff.mp first
    obtain ⟨lines,rfl⟩ := ih others
    exact ⟨line :: lines,rfl⟩

/-- The input is UTF-8 iff each of its lines is. -/
theorem exists_text_iff (input : ByteArray) : (∃ text : String, input = text.toByteArray) ↔
    ∀ row ∈ input.data.toList.splitOn '\n'.toUInt8, row.toByteArray.IsValidUTF8 := by
  constructor
  · rintro ⟨text,rfl⟩ row member
    rw [bytes_toList,splitOn_bytes] at member
    obtain ⟨line,_,same⟩ := List.mem_map.mp member
    exact isValidUTF8_iff.mpr ⟨line,same.symm⟩
  · intro valid
    obtain ⟨lines,same⟩ := exists_texts valid
    have whole : input.data.toList = bytes (['\n'].intercalate lines) := by
      rw [bytes_intercalate,← same,List.intercalate_splitOn]
    refine ⟨.ofList (['\n'].intercalate lines),?_⟩
    apply ByteArray.ext
    apply Array.toList_inj.mp
    rw [whole,bytes_toList,String.toList_ofList]

end Text

namespace Command

open Text

/-- Lines of a text without their endings, `\n` or `\r\n`. Text after the last newline is a line
unless empty. -/
inductive Lines : List Char → List (List Char) → Prop where
  | none : Lines [] []
  | last (filled : line ≠ []) (free : '\n' ∉ line) : Lines line [line]
  | newline (free : '\n' ∉ line) (bare : line.getLast? ≠ some '\r') (more : Lines rest below) :
    Lines (line ++ '\n' :: rest) (line :: below)
  | carriage (free : '\n' ∉ line) (more : Lines rest below) :
    Lines (line ++ '\r' :: '\n' :: rest) (line :: below)

def filled (lines : List (List Char)) : List String :=
  (lines.filter fun line => line.any (!isBlank ·)).map String.ofList

variable {cs ds : List Char} {ls ms : List (List Char)}

theorem exists_lines (cs : List Char) : ∃ ls, Lines cs ls := by
  obtain ⟨above,rest,rfl,free,begun⟩ := exists_closed cs
  induction above with
  | nil =>
    cases rest with
    | nil => exact ⟨[],.none⟩
    | cons c rest => exact ⟨[c :: rest],.last (List.cons_ne_nil c rest) begun⟩
  | cons line above ih =>
    obtain ⟨first,free⟩ := List.forall_mem_cons.mp free
    obtain ⟨ls,lines⟩ := ih free
    rw [closed_cons]
    by_cases bare : line.getLast? = some '\r'
    · obtain ⟨front,rfl⟩ := List.getLast?_eq_some_iff.mp bare
      refine ⟨front :: ls,?_⟩
      rw [List.append_assoc]
      exact .carriage (fun member => first (List.mem_append_left _ member)) lines
    · exact ⟨line :: ls,.newline first bare lines⟩

theorem withoutEnd_free {line : List Char} (free : '\n' ∉ line) : withoutEnd line = line := by
  have other : '\n' ∉ line.reverse := by simpa using free
  unfold withoutEnd
  split
  next same => simp [same] at other
  next same => simp [same] at other
  next => rfl

theorem withoutEnd_newline {line : List Char} (bare : line.getLast? ≠ some '\r') :
    withoutEnd (line ++ ['\n']) = line := by
  rcases List.eq_nil_or_concat' line with rfl | ⟨line,last,rfl⟩
  · rfl
  · have other : last ≠ '\r' := by simpa using bare
    simp [withoutEnd,other]

theorem withoutEnd_carriage (line : List Char) : withoutEnd (line ++ ['\r','\n']) = line := by
  simp [withoutEnd]

theorem Lines.cut (lines : Lines cs ls) : (cs.splitBy fun a _ => a != '\n').map withoutEnd = ls := by
  induction lines with
  | none => rfl
  | @last line filled free =>
    rcases List.eq_nil_or_concat' line with rfl | ⟨front,last,rfl⟩
    · contradiction
    · have chain := isChain_line (c := last) fun member => free (List.mem_append_left _ member)
      rw [List.splitBy_of_isChain filled chain,List.map_singleton,withoutEnd_free free]
  | newline free bare _ ih =>
    rw [splitBy_line free,List.map_cons,ih,withoutEnd_newline bare]
  | @carriage line rest below free _ ih =>
    have freed : '\n' ∉ line ++ ['\r'] := by simp [free]
    rw [List.append_cons,splitBy_line freed,List.map_cons,ih,List.append_assoc]
    exact congrArg (· :: below) (withoutEnd_carriage line)

theorem Lines.expressions {text : String} (lines : Lines text.toList ls) : expressions text = filled ls := by
  have solid (line : List Char) : (!line.all isBlank) = line.any (!isBlank ·) := by
    rw [List.not_all_eq_any_not]
  rw [Command.expressions,Text.lines,lines.cut,filled]
  simp only [solid]

theorem Lines.append (lines : Lines cs ls) (ended : ∀ c ∈ cs.getLast?, c = '\n') (others : Lines ds ms) :
    Lines (cs ++ ds) (ls ++ ms) := by
  have behind {cs rest : List Char} (suffix : rest <:+ cs) (ended : ∀ c ∈ cs.getLast?, c = '\n') :
      ∀ c ∈ rest.getLast?, c = '\n' := by
    obtain ⟨front,rfl⟩ := suffix
    rcases List.eq_nil_or_concat' rest with rfl | ⟨rest,last,rfl⟩
    · nofun
    · simpa [← List.append_assoc] using ended
  induction lines with
  | none => exact others
  | @last line filled free =>
    -- A line that is not ended is not followed by another text.
    have newline := ended _ (List.getLast_mem_getLast? filled)
    exact absurd (newline ▸ List.getLast_mem filled) free
  | @newline line rest below free bare _ ih =>
    simp only [List.append_assoc,List.cons_append]
    exact .newline free bare (ih (behind ⟨line ++ ['\n'],by simp⟩ ended))
  | @carriage line rest below free _ ih =>
    simp only [List.append_assoc,List.cons_append]
    exact .carriage free (ih (behind ⟨line ++ ['\r','\n'],by simp⟩ ended))

end Command

end Reckoner
