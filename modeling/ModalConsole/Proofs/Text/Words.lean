import Mathlib.Data.List.TakeWhile
import ModalConsole.Text.Blank

/-!
# Words and trimming

`words` walks over a text once; this file relates it to the cuts at the first blank.

* `words_of_solid`: a text that starts with a character that is not blank has as its first word
  what stands before its first blank. `words_append_of_solid`: the same for a text that is put
  together; `words_append_blanks`: blanks at the end add no word.
* **`words_eq_nil_iff`**: a text has no word iff it consists of blanks.
* `dropEndWhile_append`, `dropEndWhile_of_getLast?`: what is dropped at the end of a text.
  `trim_append_cons`: a character inside that is not blank bounds what trimming drops.
* `SolidEnds`: a text that neither begins nor ends with a blank. Trimming makes a text one
  (`solidEnds_trim`) and leaves it alone if it is one (`SolidEnds.trim_eq`, `trim_of_solid`).
* **`trim_between_blanks`**: blanks around a text do not count when it is trimmed.
-/

namespace ModalConsole.Text

/-! ## Words -/

theorem words_cons_blank {c : Char} {rest : List Char} (h : isBlank c = true) :
    words (c :: rest) = words rest := by
  simp only [words, h, if_true]

theorem words_trimStart (s : List Char) : words (trimStart s) = words s := by
  induction s with
  | nil => rfl
  | cons c rest ih =>
    unfold trimStart at ih ⊢
    by_cases h : isBlank c = true
    · rw [List.dropWhile_cons_of_pos h, words_cons_blank h, ih]
    · rw [List.dropWhile_cons_of_neg h]

/-- The first word ends at the first blank, and the other words follow it. -/
theorem words_of_solid (c : Char) (rest : List Char) (h : isBlank c = false) :
    words (c :: rest) = (c :: rest).takeWhile (!isBlank ·) ::
      words ((c :: rest).dropWhile (!isBlank ·)) := by
  induction rest generalizing c with
  | nil => simp [words, startsSolid, h]
  | cons d rest ih =>
    rw [List.takeWhile_cons_of_pos (by simp [h]), List.dropWhile_cons_of_pos (by simp [h]), words]
    simp only [h, Bool.false_eq_true, if_false, startsSolid, Bool.not_eq_true']
    cases hd : isBlank d with
    | true => simp [hd]
    | false => simp only [if_true]; rw [ih d hd, extendFirst]

theorem solid_of_trimStart_cons {s : List Char} {c : Char} {rest : List Char}
    (h : trimStart s = c :: rest) : isBlank c = false := by
  have := List.head?_dropWhile_not isBlank s
  unfold trimStart at h
  rw [h] at this
  simpa using this

theorem solid_of_head?_trimStart {s : List Char} {c : Char}
    (h : (trimStart s).head? = some c) : isBlank c = false := by
  obtain ⟨rest, hcons⟩ := List.head?_eq_some_iff.mp h
  exact solid_of_trimStart_cons hcons

/-- What stands before the first blank of a text without its leading blanks, if anything does,
is the first word of the text. -/
theorem words_head? (s : List Char) :
    (words s).head? =
      let word := (trimStart s).takeWhile (!isBlank ·)
      if word.isEmpty then none else some word := by
  rw [← words_trimStart]
  cases ht : trimStart s with
  | nil => rfl
  | cons c rest =>
    have hc := solid_of_trimStart_cons ht
    rw [words_of_solid c rest hc]
    simp [hc]

theorem words_eq_nil_iff (s : List Char) : words s = [] ↔ ∀ c ∈ s, isBlank c = true := by
  rw [← words_trimStart]
  cases ht : trimStart s with
  | nil => simpa [words] using List.dropWhile_eq_nil_iff.mp ht
  | cons c rest =>
    have hc := solid_of_trimStart_cons ht
    rw [words_of_solid c rest hc]
    refine ⟨fun h => absurd h (by simp), fun h => ?_⟩
    have hmem : c ∈ trimStart s := ht ▸ List.mem_cons_self
    have hmem : c ∈ s := (List.dropWhile_suffix isBlank).subset hmem
    rw [h c hmem] at hc
    exact absurd hc (by simp)

section Solid

variable {word rest : List Char} (hword : ∀ c ∈ word, isBlank c = false)
  (hrest : ∀ c, rest.head? = some c → isBlank c = true)
include hword hrest

theorem takeWhile_solid_append : (word ++ rest).takeWhile (!isBlank ·) = word := by
  rw [List.takeWhile_append_of_pos (by simpa using hword)]
  cases rest with
  | nil => rw [List.takeWhile_nil, List.append_nil]
  | cons c rest => rw [List.takeWhile_cons_of_neg (by simp [hrest c rfl]), List.append_nil]

theorem dropWhile_solid_append : (word ++ rest).dropWhile (!isBlank ·) = rest := by
  rw [List.dropWhile_append_of_pos (by simpa using hword)]
  cases rest with
  | nil => rfl
  | cons c rest => exact List.dropWhile_cons_of_neg (by simp [hrest c rfl])

/-- A text without blanks is the first word of a text that it begins, if a blank follows. -/
theorem words_append_of_solid (hne : word ≠ []) : words (word ++ rest) = word :: words rest := by
  have htake := takeWhile_solid_append hword hrest
  have hdrop := dropWhile_solid_append hword hrest
  cases word with
  | nil => exact absurd rfl hne
  | cons c tail =>
    rw [List.cons_append] at htake hdrop ⊢
    rw [words_of_solid c (tail ++ rest) (hword c List.mem_cons_self), htake, hdrop]

end Solid

theorem startsSolid_append_blanks (s : List Char) {gap : List Char}
    (hgap : ∀ c ∈ gap, isBlank c = true) : startsSolid (s ++ gap) = startsSolid s := by
  cases s with
  | nil =>
    cases gap with
    | nil => rfl
    | cons c gap => simp [startsSolid, hgap c List.mem_cons_self]
  | cons c rest => rfl

/-- Blanks at the end of a text add no word. -/
theorem words_append_blanks (s : List Char) {gap : List Char}
    (hgap : ∀ c ∈ gap, isBlank c = true) : words (s ++ gap) = words s := by
  induction s with
  | nil => exact (words_eq_nil_iff gap).mpr hgap
  | cons c rest ih =>
    simp only [List.cons_append, words, startsSolid_append_blanks rest hgap, ih]

/-! ## Trimming -/

theorem trimStart_append_of_blank {before : List Char} (hbefore : ∀ c ∈ before, isBlank c = true)
    (s : List Char) : trimStart (before ++ s) = trimStart s :=
  List.dropWhile_append_of_pos hbefore

theorem trimStart_of_head? {s : List Char} (h : ∀ c, s.head? = some c → isBlank c = false) :
    trimStart s = s := by
  cases s with
  | nil => rfl
  | cons c rest => exact List.dropWhile_cons_of_neg (by simp [h c rfl])

theorem dropEndWhile_eq_nil {p : Char → Bool} {s : List Char} (h : ∀ c ∈ s, p c = true) :
    dropEndWhile p s = [] := by
  induction s with
  | nil => rfl
  | cons c rest ih =>
    rw [dropEndWhile, ih fun d hd => h d (List.mem_cons_of_mem c hd)]
    exact if_pos (h c List.mem_cons_self)

/-- An end of characters to drop is dropped first. -/
theorem dropEndWhile_append {p : Char → Bool} {dropped : List Char}
    (hdropped : ∀ c ∈ dropped, p c = true) (s : List Char) :
    dropEndWhile p (s ++ dropped) = dropEndWhile p s := by
  induction s with
  | nil => exact dropEndWhile_eq_nil hdropped
  | cons c rest ih => rw [List.cons_append, dropEndWhile, dropEndWhile, ih]

/-- What is dropped at the end of a text is a run of the characters to drop. -/
theorem exists_eq_dropEndWhile_append (p : Char → Bool) (s : List Char) :
    ∃ dropped, s = dropEndWhile p s ++ dropped ∧ ∀ c ∈ dropped, p c = true := by
  induction s with
  | nil => exact ⟨[], rfl, by simp⟩
  | cons c rest ih =>
    obtain ⟨dropped, hrest, hdropped⟩ := ih
    rw [dropEndWhile]
    cases hkept : dropEndWhile p rest with
    | nil =>
      rw [hkept, List.nil_append] at hrest
      subst hrest
      simp only
      split_ifs with hc
      · exact ⟨c :: rest, rfl, List.forall_mem_cons.mpr ⟨hc, hdropped⟩⟩
      · exact ⟨rest, rfl, hdropped⟩
    | cons d kept =>
      rw [hkept] at hrest
      exact ⟨dropped, congrArg (c :: ·) hrest, hdropped⟩

theorem not_of_getLast?_dropEndWhile {p : Char → Bool} {s : List Char} {c : Char}
    (h : (dropEndWhile p s).getLast? = some c) : p c = false := by
  induction s with
  | nil => cases h
  | cons d rest ih =>
    rw [dropEndWhile] at h
    cases hkept : dropEndWhile p rest with
    | nil =>
      rw [hkept] at h
      simp only at h
      split_ifs at h with hd
      · cases h
      · obtain rfl : d = c := Option.some.inj h
        exact Bool.eq_false_iff.mpr hd
    | cons e kept =>
      rw [hkept] at h ih
      exact ih (List.getLast?_cons_cons.symm.trans h)

/-- Nothing is dropped of a text that ends with a character to keep. -/
theorem dropEndWhile_of_getLast? {p : Char → Bool} {s : List Char}
    (h : ∀ c, s.getLast? = some c → p c = false) : dropEndWhile p s = s := by
  obtain ⟨dropped, hs, hdropped⟩ := exists_eq_dropEndWhile_append p s
  cases hlast : dropped.getLast? with
  | none =>
    rw [List.getLast?_eq_none_iff.mp hlast, List.append_nil] at hs
    exact hs.symm
  | some c =>
    have hdrop := hdropped c (List.mem_of_getLast? hlast)
    have hkeep := h c (by rw [hs, List.getLast?_append, hlast]; rfl)
    rw [hkeep] at hdrop
    cases hdrop

theorem dropEndWhile_append_cons {p : Char → Bool} {mark : Char} (hmark : p mark = false)
    (before after : List Char) :
    dropEndWhile p (before ++ mark :: after) = before ++ mark :: dropEndWhile p after := by
  induction before with
  | nil =>
    rw [List.nil_append, List.nil_append, dropEndWhile]
    cases dropEndWhile p after with
    | nil => simp [hmark]
    | cons c kept => rfl
  | cons c rest ih =>
    rw [List.cons_append, dropEndWhile, ih]
    cases rest <;> rfl

/-- A text that neither begins nor ends with a blank. -/
structure SolidEnds (s : List Char) : Prop where
  head : ∀ c, s.head? = some c → isBlank c = false
  last : ∀ c, s.getLast? = some c → isBlank c = false

theorem solidEnds_trim (s : List Char) : SolidEnds (trim s) where
  head := by
    intro c hc
    obtain ⟨dropped, hstart, -⟩ := exists_eq_dropEndWhile_append isBlank (trimStart s)
    obtain ⟨rest, hkept⟩ : ∃ rest, dropEndWhile isBlank (trimStart s) = c :: rest :=
      List.head?_eq_some_iff.mp hc
    rw [hkept] at hstart
    exact solid_of_trimStart_cons hstart
  last := fun _ => not_of_getLast?_dropEndWhile

theorem SolidEnds.trim_eq {s : List Char} (h : SolidEnds s) : trim s = s := by
  rw [trim, trimStart_of_head? h.head]
  exact dropEndWhile_of_getLast? h.last

theorem trim_of_solid {s : List Char} (h : ∀ c ∈ s, isBlank c = false) : trim s = s :=
  SolidEnds.trim_eq
    ⟨fun c hc => h c (List.mem_of_head? hc), fun c hc => h c (List.mem_of_getLast? hc)⟩

/-- **Blanks around a text do not count** when it is trimmed. -/
theorem trim_between_blanks {before after : List Char} (hbefore : ∀ c ∈ before, isBlank c = true)
    (hafter : ∀ c ∈ after, isBlank c = true) (s : List Char) :
    trim (before ++ s ++ after) = trim s := by
  rw [trim, List.append_assoc, trimStart_append_of_blank hbefore, trim, trimEnd, trimEnd]
  by_cases hs : ∀ c ∈ s, isBlank c = true
  · have hstart : trimStart s = [] := List.dropWhile_eq_nil_iff.mpr hs
    rw [trimStart_append_of_blank hs, dropEndWhile_eq_nil, hstart]
    · rfl
    · exact fun c hc => hafter c ((List.dropWhile_suffix isBlank).subset hc)
  · have hstart : trimStart s ≠ [] := fun h => hs (List.dropWhile_eq_nil_iff.mp h)
    have happend : trimStart (s ++ after) = trimStart s ++ after := by
      unfold trimStart at hstart ⊢
      rw [List.dropWhile_append, if_neg (by simpa using hstart)]
    rw [happend, dropEndWhile_append hafter]

theorem trim_trimStart (s : List Char) : trim (trimStart s) = trim s := by
  rw [trim, trimStart_of_head? fun _ => solid_of_head?_trimStart]
  rfl

theorem trim_trimEnd (s : List Char) : trim (trimEnd s) = trim s := by
  obtain ⟨dropped, hs, hdropped⟩ := exists_eq_dropEndWhile_append isBlank s
  have htrim := trim_between_blanks (fun _ h => absurd h List.not_mem_nil) hdropped (trimEnd s)
  rw [List.nil_append, trimEnd, ← hs] at htrim
  exact htrim.symm

theorem mem_of_mem_trim {s : List Char} {c : Char} (h : c ∈ trim s) : c ∈ s := by
  obtain ⟨dropped, hs, -⟩ := exists_eq_dropEndWhile_append isBlank (trimStart s)
  have hstart : c ∈ trimStart s := by
    rw [hs]
    exact List.mem_append_left _ h
  exact (List.dropWhile_suffix isBlank).subset hstart

/-- What is not blank inside a text stays when the text is trimmed. -/
theorem trim_append_cons {mark : Char} (hmark : isBlank mark = false) (before after : List Char) :
    trim (before ++ mark :: after) = trimStart before ++ mark :: trimEnd after := by
  have hstart : trimStart (before ++ mark :: after) = trimStart before ++ mark :: after := by
    unfold trimStart
    rw [List.dropWhile_append]
    split_ifs with hbefore
    · rw [List.isEmpty_iff.mp hbefore, List.nil_append]
      exact List.dropWhile_cons_of_neg (by simp [hmark])
    · rfl
  rw [trim, hstart, trimEnd, dropEndWhile_append_cons hmark]
  rfl

end ModalConsole.Text
