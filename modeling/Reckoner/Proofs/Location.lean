import Mathlib.Data.List.DropRight
import Reckoner.Proofs.Scanning

/-! Lines and columns as functions of the text before an offset: the line number counts its
newlines, the column counts characters since the last of them. Also the effect of trimming a
line. -/
namespace Reckoner.Text

variable {cs line rest front : List Char} {above : List (List Char)} {c : Char}

def closed (above : List (List Char)) : List Char := above.flatMap (· ++ ['\n'])

theorem closed_cons : closed (line :: above) ++ rest = line ++ '\n' :: (closed above ++ rest) := by
  simp [closed]

theorem exists_closed (cs : List Char) : ∃ above rest, cs = closed above ++ rest ∧
    (∀ line ∈ above, '\n' ∉ line) ∧ '\n' ∉ rest := by
  induction cs with
  | nil => exact ⟨[],[],rfl,nofun,nofun⟩
  | cons c cs ih =>
    obtain ⟨above,rest,rfl,free,begun⟩ := ih
    by_cases newline : c = '\n'
    · subst newline
      exact ⟨[] :: above,rest,rfl,List.forall_mem_cons.mpr ⟨nofun,free⟩,begun⟩
    · cases above with
      | nil => exact ⟨[],c :: rest,rfl,nofun,by simpa [Ne.symm newline] using begun⟩
      | cons line above =>
        obtain ⟨first,free⟩ := List.forall_mem_cons.mp free
        refine ⟨(c :: line) :: above,rest,by simp [closed],List.forall_mem_cons.mpr ⟨?_,free⟩,begun⟩
        simpa [Ne.symm newline] using first

theorem count_closed (free : ∀ line ∈ above, '\n' ∉ line) (begun : '\n' ∉ rest) :
    (closed above ++ rest).count '\n' = above.length := by
  induction above with
  | nil => exact List.count_eq_zero.mpr begun
  | cons line above ih =>
    obtain ⟨first,free⟩ := List.forall_mem_cons.mp free
    rw [closed_cons,List.count_append,List.count_eq_zero.mpr first,List.count_cons_self,ih free]
    simp

theorem not_newline (free : '\n' ∉ line) : ∀ c ∈ line, (c != '\n') = true := by
  intro c member
  have other : c ≠ '\n' := fun newline => free (newline ▸ member)
  simpa using other

theorem rtakeWhile_closed (begun : '\n' ∉ rest) :
    (closed above ++ rest).rtakeWhile (· != '\n') = rest := by
  have all : ∀ c ∈ rest.reverse, (c != '\n') = true := not_newline (by simpa using begun)
  have stops : (closed above).reverse.takeWhile (· != '\n') = [] := by
    cases above using List.reverseRecOn with
    | nil => rfl
    | append_singleton above line => simp [closed]
  rw [List.rtakeWhile,List.reverse_append,List.takeWhile_append_of_pos all,stops,List.append_nil,
    List.reverse_reverse]

theorem splitOn_closed (free : ∀ line ∈ above, '\n' ∉ line) :
    (closed above ++ rest).splitOn '\n' = above ++ rest.splitOn '\n' := by
  induction above with
  | nil => rfl
  | cons line above ih =>
    obtain ⟨first,free⟩ := List.forall_mem_cons.mp free
    rw [closed_cons,List.splitOn_append_cons_self_of_not_mem first,ih free,List.cons_append]

theorem isChain_line (free : '\n' ∉ line) :
    (line ++ [c]).IsChain fun a _ => (a != '\n') = true := by
  induction line with
  | nil => exact .singleton c
  | cons d line ih =>
    obtain ⟨other,free⟩ := List.ne_and_not_mem_of_not_mem_cons free
    have step : (d != '\n') = true := by simpa using other.symm
    cases line with
    | nil => exact .cons_cons step (.singleton c)
    | cons e line => exact .cons_cons step (ih free)

theorem splitBy_line (free : '\n' ∉ line) : (line ++ '\n' :: rest).splitBy (fun a _ => a != '\n') =
    (line ++ ['\n']) :: rest.splitBy fun a _ => a != '\n' := by
  have newline : ∀ a ∈ (line ++ ['\n']).getLast?, ∀ b ∈ rest.head?, (a != '\n') = false := by simp
  rw [List.append_cons,List.splitBy_append newline,List.splitBy_of_isChain (by simp) (isChain_line free)]
  rfl

theorem splitBy_closed (free : ∀ line ∈ above, '\n' ∉ line) :
    (closed above ++ rest).splitBy (fun a _ => a != '\n') =
      above.map (· ++ ['\n']) ++ rest.splitBy fun a _ => a != '\n' := by
  induction above with
  | nil => rfl
  | cons line above ih =>
    obtain ⟨first,free⟩ := List.forall_mem_cons.mp free
    rw [closed_cons,splitBy_line first,ih free,List.map_cons,List.cons_append]

theorem charCount_front (count : Nat) :
    charCount? (byteSize front) count (front ++ rest) = some (count + front.length) := by
  induction front generalizing count with
  | nil => cases rest <;> rfl
  | cons c front ih =>
    have positive : 0 < c.utf8Size := c.utf8Size_pos
    rw [byteSize_cons,byteSize_singleton,List.cons_append,charCount?,if_neg (by omega),if_pos (by omega),
      Nat.add_sub_cancel_left,ih,List.length_cons]
    congr 1
    omega

/-- `shown` is the result of trimming the line on both sides. -/
structure Trimmed (left shown right : List Char) : Prop where
  before : ∀ c ∈ left, isBlank c = true
  after : ∀ c ∈ right, isBlank c = true
  first : ∀ c ∈ shown.head?, isBlank c = false
  last : ∀ c ∈ shown.getLast?, isBlank c = false

theorem trim_parts (line : List Char) : ∃ right, line = line.takeWhile isBlank ++ trim line ++ right ∧
    Trimmed (line.takeWhile isBlank) (trim line) right := by
  have parts : trim line ++ (line.dropWhile isBlank).rtakeWhile isBlank = line.dropWhile isBlank :=
    List.rdropWhile_append_rtakeWhile
  refine ⟨(line.dropWhile isBlank).rtakeWhile isBlank,?_,?_,?_,?_,?_⟩
  · rw [List.append_assoc,parts,List.takeWhile_append_dropWhile]
  · exact fun c => List.mem_takeWhile_imp
  · exact fun c => List.mem_rtakeWhile_imp
  · intro c first
    have stopped := List.head?_dropWhile_not isBlank line
    obtain ⟨more,shown⟩ : ∃ more, trim line = c :: more := List.head?_eq_some_iff.mp first
    rw [← parts,shown] at stopped
    exact stopped
  · intro c last
    obtain ⟨filled,rfl⟩ := List.mem_getLast?_eq_getLast last
    exact Bool.eq_false_iff.mpr (List.rdropWhile_last_not isBlank (line.dropWhile isBlank) filled)

/-- A non-blank character survives trimming, shifted left by the width of the leading blanks. -/
theorem Trimmed.kept {left shown right head tail : List Char} (trimmed : Trimmed left shown right)
    (line : left ++ shown ++ right = head ++ c :: tail) (solid : isBlank c = false) :
    left.length ≤ head.length ∧ shown[head.length - left.length]? = some c := by
  have here : (left ++ (shown ++ right))[head.length]? = some c := by simp [← List.append_assoc,line]
  have blankless {part : List Char} {i : Nat} (blank : ∀ c ∈ part, isBlank c = true) : part[i]? ≠ some c := by
    intro found
    simp [blank c (List.mem_of_getElem? found)] at solid
  rcases Nat.lt_or_ge head.length left.length with short | long
  · rw [List.getElem?_append_left short] at here
    exact absurd here (blankless trimmed.before)
  refine ⟨long,?_⟩
  rw [List.getElem?_append_right long] at here
  rcases Nat.lt_or_ge (head.length - left.length) shown.length with inside | outside
  · rwa [List.getElem?_append_left inside] at here
  · rw [List.getElem?_append_right outside] at here
    exact absurd here (blankless trimmed.after)

end Reckoner.Text
