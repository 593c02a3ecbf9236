import Reckoner.Proofs.Scanning

/-! Words as a partition of the text: maximal runs of non-blank characters, with only blanks
between them. -/
namespace Reckoner

def Span.Covers (s : Span) (byte : Nat) : Prop := s.start ≤ byte ∧ byte < s.stop

namespace Text

/-- Non-empty and without blanks: exactly one word. -/
structure Solid (text : String) : Prop where
  nonempty : text ≠ ""
  unbroken : ∀ c ∈ text.toList, isBlank c = false

/-- A non-blank run bounded on both sides by a blank or an end of the text. -/
inductive Maximal (start : Nat) (cs : List Char) : Word → Prop where
  | intro {front run back : List Char} (split : cs = front ++ run ++ back) (filled : run ≠ [])
      (solid : ∀ c ∈ run, isBlank c = false) (before : ∀ c ∈ front.getLast?, isBlank c = true)
      (after : ∀ c ∈ back.head?, isBlank c = true) :
      Maximal start cs ⟨.ofList run,start + byteSize front,start + byteSize front + byteSize run⟩

/-- Characters from offset `start` on, as words separated by blanks. -/
inductive Laid : Nat → List Char → List Word → Prop where
  | done {start : Nat} : Laid start [] []
  | blank {start : Nat} {c : Char} {cs : List Char} {ws : List Word} (blank : isBlank c = true) :
      Laid (start + byteSize [c]) cs ws → Laid start (c :: cs) ws
  | word {start : Nat} {run rest : List Char} {ws : List Word} (filled : run ≠ [])
      (solid : ∀ c ∈ run, isBlank c = false) (stops : ∀ c ∈ rest.head?, isBlank c = true) :
      Laid (start + byteSize run) rest ws →
      Laid start (run ++ rest) (⟨.ofList run,start,start + byteSize run⟩ :: ws)

variable {start byte : Nat} {cs word front back : List Char} {c : Char} {ws : List Word} {w : Word}

theorem not_blank_ahead {run : List Char} (filled : run ≠ []) (solid : ∀ c ∈ run, isBlank c = false) :
    ¬∀ c ∈ (run ++ back).head?, isBlank c = true := by
  obtain ⟨c,run,rfl⟩ := List.exists_cons_of_ne_nil filled
  intro blank
  have broken : isBlank c = true := blank c rfl
  rw [solid c List.mem_cons_self] at broken
  cases broken

theorem laid_scan (solid : ∀ c ∈ word, isBlank c = false) :
    Laid start (word ++ cs) (scan start word cs) := by
  induction cs generalizing start word with
  | nil =>
    by_cases begun : word = []
    · subst begun
      exact .done
    · rw [scan,ended,if_neg begun]
      exact .word begun solid (by simp) .done
  | cons c cs ih =>
    cases kind : isBlank c with
    | true =>
      rw [scan_blank kind]
      have rest : Laid (start + byteSize (word ++ [c])) cs (scan (start + byteSize (word ++ [c])) [] cs) :=
        ih (List.forall_mem_nil _)
      by_cases begun : word = []
      · subst begun
        exact .blank kind rest
      · rw [ended,if_neg begun]
        rw [byteSize_append,← Nat.add_assoc] at rest ⊢
        exact .word begun solid (by simpa using kind) (.blank kind rest)
    | false =>
      rw [scan_solid kind,List.append_cons]
      exact ih (List.forall_mem_append.mpr ⟨solid,by simpa using kind⟩)

/-- Uniqueness of the partition. -/
theorem Laid.eq_scan (laid : Laid start cs ws) : ws = scan start [] cs := by
  induction laid with
  | done => rfl
  | blank blank _ ih => rw [scan_blank blank,ih]; rfl
  | word filled solid stops _ ih =>
    rw [scan_append_solid solid,List.nil_append,scan_eq_ended stops,ended,if_neg filled,← ih]
    rfl

theorem laid_words (source : String) : Laid 0 source.toList (words source) := by
  rw [words_eq_scan]
  exact laid_scan (List.forall_mem_nil _)

namespace Maximal

theorem start_le (maximal : Maximal start cs w) : start ≤ w.span.start := by
  obtain ⟨⟩ := maximal
  exact Nat.le_add_right _ _

theorem start_lt (maximal : Maximal start cs w) (blank : ∀ c ∈ cs.head?, isBlank c = true) :
    start < w.span.start := by
  obtain @⟨front,run,back,rfl,filled,solid,_,_⟩ := maximal
  cases front with
  | nil => exact absurd blank (not_blank_ahead filled solid)
  | cons c front =>
    have positive := byteSize_pos (List.cons_ne_nil c front)
    change start < start + byteSize (c :: front)
    omega

theorem nonempty (maximal : Maximal start cs w) : w.span.start < w.span.stop := by
  obtain @⟨front,run,_,_,filled,_,_,_⟩ := maximal
  have positive := byteSize_pos filled
  change start + byteSize front < start + byteSize front + byteSize run
  omega

end Maximal

theorem last_cons_blank (blank : isBlank c = true) (before : ∀ d ∈ front.getLast?, isBlank d = true) :
    ∀ d ∈ (c :: front).getLast?, isBlank d = true := by
  cases front using List.reverseRecOn with
  | nil => simpa using blank
  | append_singleton front last =>
    rw [← List.cons_append,List.getLast?_concat]
    simpa using before

theorem maximal_blank (blank : isBlank c = true) :
    Maximal start (c :: cs) w ↔ Maximal (start + byteSize [c]) cs w := by
  have place (front : List Char) : start + byteSize [c] + byteSize front = start + byteSize (c :: front) := by
    rw [byteSize_cons c front,Nat.add_assoc]
  constructor
  · rintro @⟨front,run,back,split,filled,solid,before,after⟩
    cases front with
    | nil =>
      have ahead : ∀ d ∈ (run ++ back).head?, isBlank d = true := by
        rw [List.nil_append] at split
        simpa [← split] using blank
      exact absurd ahead (not_blank_ahead filled solid)
    | cons d front =>
      obtain ⟨rfl,rfl⟩ := List.cons.inj split
      rw [← place front]
      exact .intro rfl filled solid (fun d last => before d (List.mem_getLast?_cons last)) after
  · rintro @⟨front,run,back,rfl,filled,solid,before,after⟩
    rw [place]
    exact .intro rfl filled solid (last_cons_blank blank before) after

theorem takeWhile_stop {p : Char → Bool} {front rest : List Char} (all : ∀ c ∈ front, p c = true)
    (stops : ∀ c ∈ rest.head?, p c = false) : (front ++ rest).takeWhile p = front := by
  rw [List.takeWhile_append_of_pos all]
  cases rest with
  | nil => simp
  | cons c rest => simp [stops c rfl]

theorem takeWhile_run {run rest : List Char} (solid : ∀ c ∈ run, isBlank c = false)
    (stops : ∀ c ∈ rest.head?, isBlank c = true) : (run ++ rest).takeWhile (!isBlank ·) = run :=
  takeWhile_stop (by simpa using solid) (by simpa using stops)

/-- A run at the start extends to the first blank, and all other runs follow it. -/
theorem maximal_word {run rest : List Char} (filled : run ≠ []) (solid : ∀ c ∈ run, isBlank c = false)
    (stops : ∀ c ∈ rest.head?, isBlank c = true) : Maximal start (run ++ rest) w ↔
      w = ⟨.ofList run,start,start + byteSize run⟩ ∨ Maximal (start + byteSize run) rest w := by
  have place (front : List Char) : start + byteSize run + byteSize front = start + byteSize (run ++ front) := by
    rw [byteSize_append,Nat.add_assoc]
  constructor
  · rintro @⟨front,other,back,split,filled',solid',before,after⟩
    rw [List.append_assoc,List.append_eq_append_iff] at split
    rcases split with ⟨between,rfl,rfl⟩ | ⟨more,rfl,same⟩
    · right
      rw [← place,← List.append_assoc]
      exact .intro rfl filled' solid'
        (fun c last => before c (List.mem_getLast?_append_of_mem_getLast? last)) after
    · left
      -- A blank right before the other run would stand inside the first one.
      have none : front = [] := by
        cases front using List.reverseRecOn with
        | nil => rfl
        | append_singleton front last =>
          have blank := before last (by simp)
          rw [solid last (by simp)] at blank
          cases blank
      subst none
      have whole : other = more := by
        have ends : (more ++ rest).takeWhile (!isBlank ·) = more := takeWhile_run solid stops
        rw [← takeWhile_run solid' after,same,ends]
      rw [whole]
      rfl
  · rintro (rfl | @⟨front,other,back,rfl,filled',solid',before,after⟩)
    · have split : run ++ rest = [] ++ run ++ rest := rfl
      exact .intro split filled solid (by simp) stops
    · rw [place,← List.append_assoc,← List.append_assoc]
      refine .intro rfl filled' solid' ?_ after
      cases front with
      | nil =>
        rw [List.nil_append] at stops
        exact absurd stops (not_blank_ahead filled' solid')
      | cons c front => rwa [List.getLast?_append_of_ne_nil _ (List.cons_ne_nil c front)]

theorem Laid.mem_iff (laid : Laid start cs ws) : w ∈ ws ↔ Maximal start cs w := by
  induction laid with
  | done =>
    refine ⟨nofun,?_⟩
    rintro @⟨front,run,back,split,filled,_,_,_⟩
    simp_all
  | blank blank _ ih => rw [maximal_blank blank,ih]
  | word filled solid stops _ ih => rw [maximal_word filled solid stops,List.mem_cons,ih]

theorem Laid.apart (laid : Laid start cs ws) : ws.Pairwise fun v w => v.span.stop < w.span.start := by
  induction laid with
  | done => exact .nil
  | blank _ _ ih => exact ih
  | word _ _ stops rest ih =>
    exact List.pairwise_cons.mpr ⟨fun w member => (rest.mem_iff.mp member).start_lt stops,ih⟩

/-- A byte is covered by a word iff its character is not blank. -/
theorem Laid.covers (laid : Laid start cs ws) (split : cs = front ++ c :: back)
    (lower : start + byteSize front ≤ byte) (upper : byte < start + byteSize (front ++ [c])) :
    (∃ w ∈ ws, w.span.Covers byte) ↔ isBlank c = false := by
  induction laid generalizing front with
  | done => simp at split
  | @blank start d cs ws blank rest ih =>
    cases front with
    | nil =>
      cases split
      rw [List.nil_append] at upper
      refine iff_of_false ?_ (by simp [blank])
      rintro ⟨w,member,from_start,_⟩
      have later := (rest.mem_iff.mp member).start_le
      omega
    | cons e front =>
      cases split
      rw [List.cons_append,byteSize_cons] at upper
      rw [byteSize_cons] at lower
      exact ih rfl (by omega) (by omega)
  | @word start run rest ws filled solid stops _ ih =>
    rw [List.exists_mem_cons_iff]
    -- Behind the first word its span is left, and the words of the rest decide.
    have behind {between : List Char} (passed : front = run ++ between) (ahead : rest = between ++ c :: back) :
        (Span.Covers ⟨start,start + byteSize run⟩ byte ∨ ∃ w ∈ ws, w.span.Covers byte) ↔ isBlank c = false := by
      subst passed
      rw [List.append_assoc,byteSize_append] at upper
      rw [byteSize_append] at lower
      rw [or_iff_right,ih ahead (by omega) (by omega)]
      rintro ⟨_,inside⟩
      dsimp only at inside
      omega
    rcases List.append_eq_append_iff.mp split with ⟨between,passed,ahead⟩ | ⟨more,rfl,ahead⟩
    · exact behind passed ahead
    cases more with
    | nil =>
      have passed : front = front ++ [] ++ [] := by simp
      exact behind passed ahead.symm
    | cons d more =>
      cases ahead
      refine iff_of_true (.inl ⟨?_,?_⟩) (solid c (by simp))
      · exact (Nat.le_add_right _ _).trans lower
      · rw [List.append_cons,byteSize_append _ more]
        dsimp only
        omega

theorem extract_middle (front text back : String) : (front ++ text ++ back).toByteArray.extract
    front.utf8ByteSize (front.utf8ByteSize + text.utf8ByteSize) = text.toByteArray := by
  rw [String.toByteArray_append,String.toByteArray_append,ByteArray.append_assoc]
  calc
    _ = (text.toByteArray ++ back.toByteArray).extract 0 text.toByteArray.size :=
      ByteArray.extract_append_size_add (i := 0)
    _ = text.toByteArray := ByteArray.extract_append_eq_left rfl

theorem Maximal.bytes {source : String} (maximal : Maximal 0 source.toList w) :
    source.toByteArray.extract w.span.start w.span.stop = w.text.toByteArray := by
  obtain @⟨front,run,back,split,_,_,_,_⟩ := maximal
  have whole : source = .ofList front ++ .ofList run ++ .ofList back := by
    apply String.toList_inj.mp
    simpa using split
  rw [whole,Nat.zero_add,← utf8ByteSize_ofList,← utf8ByteSize_ofList]
  exact extract_middle (.ofList front) (.ofList run) (.ofList back)

/-- The text can be split before each of its words. -/
theorem Laid.cut {before after : List Word} (laid : Laid start cs (before ++ w :: after)) :
    ∃ front back, cs = front ++ back ∧ Laid start front before ∧ w.span.start = start + byteSize front := by
  generalize found : before ++ w :: after = ws at laid
  induction laid generalizing before with
  | done => simp at found
  | @blank start c cs ws blank _ ih =>
    obtain ⟨front,back,rfl,earlier,place⟩ := ih found
    refine ⟨c :: front,back,rfl,.blank blank earlier,?_⟩
    rw [place,byteSize_cons c front,Nat.add_assoc]
  | @word start run rest ws filled solid stops _ ih =>
    cases before with
    | nil =>
      cases found
      exact ⟨[],run ++ rest,rfl,.done,rfl⟩
    | cons v before =>
      cases found
      obtain ⟨front,back,rfl,earlier,place⟩ := ih rfl
      refine ⟨run ++ front,back,(List.append_assoc ..).symm,.word filled solid ?_ earlier,?_⟩
      · cases front with
        | nil => simp
        | cons c front => exact stops
      · rw [place,byteSize_append,Nat.add_assoc]

/-- Word texts laid out with a single byte between neighbours. -/
def inRow : Nat → List String → List Word
  | _, [] => []
  | start, text :: rest =>
    ⟨text,start,start + text.utf8ByteSize⟩ :: inRow (start + text.utf8ByteSize + 1) rest

theorem inRow_texts (start : Nat) (texts : List String) : (inRow start texts).map Word.text = texts := by
  induction texts generalizing start with
  | nil => rfl
  | cons text rest ih => rw [inRow,List.map_cons,ih]

theorem inRow_size (start : Nat) (texts : List String) :
    ∀ w ∈ inRow start texts, w.span.stop = w.span.start + w.text.utf8ByteSize := by
  induction texts generalizing start with
  | nil => exact nofun
  | cons text rest ih => exact List.forall_mem_cons.mpr ⟨rfl,ih _⟩

theorem inRow_head (start : Nat) (texts : List String) :
    ∀ w ∈ (inRow start texts).head?, w.span.start = start := by
  cases texts with
  | nil => exact nofun
  | cons text rest => simp [inRow]

theorem inRow_chain (start : Nat) (texts : List String) :
    (inRow start texts).IsChain fun v w => w.span.start = v.span.stop + 1 := by
  induction texts generalizing start with
  | nil => exact .nil
  | cons text rest ih => exact List.isChain_cons.mpr ⟨inRow_head _ rest,ih _⟩

theorem laid_inRow {texts : List String} (solid : ∀ text ∈ texts, Solid text) :
    Laid start (" ".intercalate texts).toList (inRow start texts) := by
  induction texts generalizing start with
  | nil => exact .done
  | cons text rest ih =>
    obtain ⟨first,solid⟩ := List.forall_mem_cons.mp solid
    have filled : text.toList ≠ [] := by simpa using first.nonempty
    have size := byteSize_toList text
    have whole {behind : List Char} (stops : ∀ c ∈ behind.head?, isBlank c = true)
        (laid : Laid (start + text.utf8ByteSize) behind (inRow (start + text.utf8ByteSize + 1) rest)) :
        Laid start (text.toList ++ behind) (inRow start (text :: rest)) := by
      rw [← size] at laid
      have head := Laid.word filled first.unbroken stops laid
      rwa [String.ofList_toList,size] at head
    by_cases last : rest = []
    · subst last
      rw [String.intercalate_singleton,← List.append_nil text.toList]
      exact whole (by simp) .done
    · rw [String.intercalate_cons_of_ne_nil last,String.toList_append,String.toList_append,List.append_assoc]
      exact whole (by simp [isBlank]) (.blank rfl (ih solid))

end Text

variable {source : String} {w : Word}

theorem mem_words_iff : w ∈ words source ↔ Text.Maximal 0 source.toList w :=
  (Text.laid_words source).mem_iff

theorem words_apart (source : String) :
    (words source).Pairwise fun v w => v.span.stop < w.span.start :=
  (Text.laid_words source).apart

theorem words_ordered (source : String) :
    (words source).Pairwise fun v w => v.span.start < w.span.start :=
  (words_apart source).imp_of_mem fun isWord _ apart =>
    (mem_words_iff.mp isWord).nonempty.trans apart

theorem words_eq_of_start {v : Word} (isWord : v ∈ words source) (member : w ∈ words source)
    (same : v.span.start = w.span.start) : v = w := by
  have apart : (words source).Pairwise fun a b => a.span.start ≠ b.span.start :=
    (words_ordered source).imp fun before => Nat.ne_of_lt before
  have : Std.Symm fun a b : Word => a.span.start ≠ b.span.start := ⟨fun _ _ => Ne.symm⟩
  by_contra different
  exact apart.forall isWord member different same

theorem Word.solid (member : w ∈ words source) : Text.Solid w.text := by
  obtain @⟨_,run,_,_,filled,solid,_,_⟩ := mem_words_iff.mp member
  exact ⟨by simpa using filled,by simpa using solid⟩

theorem words_cut {before after : List Word} (found : words source = before ++ w :: after) :
    ∃ front back, source = front ++ back ∧ words front = before ∧ w.span.start = front.utf8ByteSize := by
  obtain ⟨front,back,same,earlier,place⟩ := (found ▸ Text.laid_words source).cut
  refine ⟨.ofList front,.ofList back,?_,?_,?_⟩
  · rw [← String.ofList_append,← same,String.ofList_toList]
  · rw [words_eq_scan,String.toList_ofList,← earlier.eq_scan]
  · rwa [Nat.zero_add,← Text.utf8ByteSize_ofList] at place

/-- The bytes of a span are the text of its word. -/
theorem words_place (member : w ∈ words source) :
    ∃ front back, source = front ++ w.text ++ back ∧ w.span.start = front.utf8ByteSize := by
  obtain @⟨front,run,back,split,_,_,_,_⟩ := mem_words_iff.mp member
  refine ⟨.ofList front,.ofList back,?_,?_⟩
  · rw [← String.ofList_append,← String.ofList_append,← split,String.ofList_toList]
  · rw [Nat.zero_add,Text.utf8ByteSize_ofList]

theorem words_start_lt (member : w ∈ words source) : w.span.start < source.utf8ByteSize := by
  obtain ⟨front,back,rfl,place⟩ := words_place member
  have filled : w.text.utf8ByteSize ≠ 0 := by
    simpa [String.utf8ByteSize_eq_zero_iff] using (Word.solid member).nonempty
  simp only [String.utf8ByteSize_append,place]
  omega

/-- Solid texts joined by blanks are read back as words. -/
theorem words_intercalate {texts : List String} (solid : ∀ text ∈ texts, Text.Solid text) :
    words (" ".intercalate texts) = Text.inRow 0 texts := by
  rw [words_eq_scan]
  exact (Text.laid_inRow solid).eq_scan.symm

end Reckoner
