import Mathlib.Data.List.SplitBy
import Reckoner.Text.Line
import Reckoner.Text.Word

/-! Single-pass word scan. The scan splits at each blank: the text before it determines the
words before it, and likewise after it. -/
namespace Reckoner

namespace Text

theorem utf8ByteSize_ofList (cs : List Char) : (String.ofList cs).utf8ByteSize = byteSize cs := by
  have added (n : Nat) : cs.foldl (fun n c => n + c.utf8Size) n = n + (String.ofList cs).utf8ByteSize := by
    induction cs generalizing n with
    | nil => rfl
    | cons c cs ih =>
      have first : (String.ofList [c]).utf8ByteSize = c.utf8Size := String.utf8ByteSize_singleton
      rw [List.foldl_cons,ih,← List.singleton_append,String.ofList_append,String.utf8ByteSize_append,first,
        Nat.add_assoc]
  simpa [byteSize] using (added 0).symm

@[simp] theorem byteSize_nil : byteSize [] = 0 := rfl

theorem byteSize_singleton (c : Char) : byteSize [c] = c.utf8Size := Nat.zero_add _

@[simp] theorem byteSize_append (front rest : List Char) :
    byteSize (front ++ rest) = byteSize front + byteSize rest := by
  rw [← utf8ByteSize_ofList,String.ofList_append,String.utf8ByteSize_append,utf8ByteSize_ofList,
    utf8ByteSize_ofList]

theorem byteSize_toList (text : String) : byteSize text.toList = text.utf8ByteSize := by
  rw [← utf8ByteSize_ofList,String.ofList_toList]

theorem byteSize_cons (c : Char) (cs : List Char) : byteSize (c :: cs) = byteSize [c] + byteSize cs :=
  byteSize_append [c] cs

theorem byteSize_pos {cs : List Char} (filled : cs ≠ []) : 0 < byteSize cs := by
  rw [Nat.pos_iff_ne_zero,← utf8ByteSize_ofList,ne_eq,String.utf8ByteSize_eq_zero_iff,
    String.ofList_eq_empty_iff]
  exact filled

/-- The pending word, if non-empty. -/
def ended (start : Nat) (word : List Char) : List Word :=
  if word = [] then [] else [⟨.ofList word,start,start + byteSize word⟩]

/-- Words of the text from offset `start` on, where `word` is the part already read of the
current one. -/
def scan (start : Nat) (word : List Char) : List Char → List Word
  | [] => ended start word
  | c :: cs =>
    if isBlank c then ended start word ++ scan (start + byteSize (word ++ [c])) [] cs
    else scan start (word ++ [c]) cs

variable {start : Nat} {word run cs : List Char}

theorem scan_blank {c : Char} (blank : isBlank c = true) :
    scan start word (c :: cs) = ended start word ++ scan (start + byteSize (word ++ [c])) [] cs := by
  rw [scan,if_pos blank]

theorem scan_solid {c : Char} (solid : isBlank c = false) :
    scan start word (c :: cs) = scan start (word ++ [c]) cs := by
  rw [scan,if_neg (by simp [solid])]

/-- The scan of a concatenation at a blank is the concatenation of the scans. -/
theorem scan_append_blank {front rest : List Char} {c : Char} (blank : isBlank c = true) :
    scan start word (front ++ c :: rest) =
      scan start word front ++ scan (start + byteSize (word ++ front ++ [c])) [] rest := by
  induction front generalizing start word with
  | nil => rw [List.nil_append,scan_blank blank,List.append_nil,scan]
  | cons d front ih =>
    rw [List.cons_append]
    cases kind : isBlank d with
    | true =>
      rw [scan_blank kind,scan_blank kind,ih,List.append_assoc]
      simp [Nat.add_assoc,byteSize_cons d (front ++ [c])]
    | false =>
      rw [scan_solid kind,scan_solid kind,ih]
      simp

theorem scan_append_solid (solid : ∀ c ∈ run, isBlank c = false) :
    scan start word (run ++ cs) = scan start (word ++ run) cs := by
  induction run generalizing word with
  | nil => simp
  | cons c run ih =>
    obtain ⟨first,rest⟩ := List.forall_mem_cons.mp solid
    rw [List.cons_append,scan_solid first,ih rest]
    simp

theorem scan_append_blanks (blank : ∀ c ∈ run, isBlank c = true) :
    scan start [] (run ++ cs) = scan (start + byteSize run) [] cs := by
  induction run generalizing start with
  | nil => simp
  | cons c run ih =>
    obtain ⟨first,rest⟩ := List.forall_mem_cons.mp blank
    rw [List.cons_append,scan_blank first,ih rest,byteSize_cons]
    simp [ended,Nat.add_assoc]

theorem scan_eq_ended (stops : ∀ c ∈ cs.head?, isBlank c = true) :
    scan start word cs = ended start word ++ scan (start + byteSize word) [] cs := by
  cases cs with
  | nil => simp [scan,ended]
  | cons c cs =>
    have blank : isBlank c = true := stops c rfl
    rw [scan_blank blank,scan_blank blank]
    simp [ended,Nat.add_assoc]

theorem uniform_of_mem_runs {source : String} (member : run ∈ runs source) :
    (∀ c ∈ run, isBlank c = true) ∨ ∀ c ∈ run, isBlank c = false := by
  have chain := List.isChain_of_mem_splitBy member
  clear member
  cases run with
  | nil => exact .inl nofun
  | cons first rest =>
    have same : ∀ c ∈ rest, isBlank c = isBlank first := by
      induction rest generalizing first with
      | nil => exact nofun
      | cons c rest ih =>
        obtain ⟨step,chain⟩ := List.isChain_cons_cons.mp chain
        have step : isBlank first = isBlank c := by simpa using step
        exact List.forall_mem_cons.mpr ⟨step.symm,fun d member => (ih c chain d member).trans step.symm⟩
    cases kind : isBlank first with
    | true => exact .inl (List.forall_mem_cons.mpr ⟨kind,fun c member => (same c member).trans kind⟩)
    | false => exact .inr (List.forall_mem_cons.mpr ⟨kind,fun c member => (same c member).trans kind⟩)

theorem placeRuns_eq_scan {offset : Nat} {parts : List (List Char)} (nonempty : [] ∉ parts)
    (uniform : ∀ run ∈ parts, (∀ c ∈ run, isBlank c = true) ∨ ∀ c ∈ run, isBlank c = false)
    (alternate : parts.IsChain fun a b =>
      ∃ ha hb, (isBlank (a.getLast ha) == isBlank (b.head hb)) = false) :
    (placeRuns offset #[] parts).toList = scan offset [] parts.flatten := by
  induction parts generalizing offset with
  | nil => rfl
  | cons run rest ih =>
    obtain ⟨filled,nonempty⟩ := List.ne_and_not_mem_of_not_mem_cons nonempty
    obtain ⟨kind,uniform⟩ := List.forall_mem_cons.mp uniform
    have tail : (placeRuns (offset + byteSize run) #[] rest).toList =
        scan (offset + byteSize run) [] rest.flatten := ih nonempty uniform alternate.tail
    rw [placeRuns,List.flatten_cons,utf8ByteSize_ofList]
    rcases kind with blank | solid
    · rw [scan_append_blanks blank,← tail,if_pos (List.all_eq_true.mpr blank)]
    · obtain ⟨c,cs,rfl⟩ := List.exists_cons_of_ne_nil filled.symm
      have notBlank : (c :: cs).all isBlank = false := by
        simp [solid c (by simp)]
      have stops : ∀ d ∈ rest.flatten.head?, isBlank d = true := by
        intro d first
        cases rest with
        | nil => cases first
        | cons next rest =>
          obtain ⟨⟨_,hb,differs⟩,_⟩ := List.isChain_cons_cons.mp alternate
          rw [solid _ (List.getLast_mem _)] at differs
          obtain ⟨e,es,rfl⟩ := List.exists_cons_of_ne_nil hb
          cases first
          simpa using differs
      rw [scan_append_solid solid,List.nil_append,scan_eq_ended stops,← tail,if_neg (by simp [notBlank]),
        placeRuns_eq_append]
      simp [ended]

end Text

theorem words_eq_scan (source : String) : words source = Text.scan 0 [] source.toList := by
  have alternate := List.isChain_getLast_head_splitBy
    (fun a b => Text.isBlank a == Text.isBlank b) source.toList
  have placed : (Text.placeRuns 0 #[] (Text.runs source)).toList =
      Text.scan 0 [] (Text.runs source).flatten :=
    Text.placeRuns_eq_scan (List.nil_notMem_splitBy _ _) (fun run => Text.uniform_of_mem_runs) alternate
  rw [words,placed,Text.runs,List.flatten_splitBy]

namespace Text

theorem scan_texts (start other : Nat) (word cs : List Char) :
    (scan start word cs).map Word.text = (scan other word cs).map Word.text := by
  have same (start other : Nat) (word : List Char) :
      (ended start word).map Word.text = (ended other word).map Word.text := by
    unfold ended
    split <;> rfl
  induction cs generalizing start other word with
  | nil => exact same start other word
  | cons c cs ih =>
    cases kind : isBlank c with
    | true => rw [scan_blank kind,scan_blank kind,List.map_append,List.map_append,same start other,ih]
    | false => rw [scan_solid kind,scan_solid kind,ih]

end Text

theorem words_append_blank (front rest : String) : ∃ added,
    words (front ++ " " ++ rest) = words front ++ added ∧
      added.map Word.text = (words rest).map Word.text := by
  have split : Text.scan 0 [] (front.toList ++ ' ' :: rest.toList) = Text.scan 0 [] front.toList ++
      Text.scan (0 + Text.byteSize ([] ++ front.toList ++ [' '])) [] rest.toList :=
    Text.scan_append_blank rfl
  rw [words_eq_scan,words_eq_scan,words_eq_scan,String.toList_append,String.toList_append,
    List.append_assoc]
  exact ⟨_,split,Text.scan_texts _ _ _ _⟩

end Reckoner
