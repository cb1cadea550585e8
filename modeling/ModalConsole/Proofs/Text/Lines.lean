import ModalConsole.Proofs.Text.Words

/-!
# Lines and cuts

* `lines_append`: a text with a line feed in it starts with what stands before, as a line of its
  own. `lines_of_not_mem`: without one it is a single line.
* `splitAtFirst_append`: the cut at the first occurrence of a mark. `splitAtFirst_eq_none_iff`:
  there is none iff the mark is missing.
* `MoreReturns`: a text with carriage returns put before some of its line feeds. It has the same
  lines up to the blanks at their ends (`map_trim_lines`).
-/

namespace ModalConsole.Text

theorem dropReturn_of_not_mem {s : List Char} (h : '\r' ∉ s) : dropReturn s = s := by
  induction s with
  | nil => rfl
  | cons c rest ih =>
    rw [List.mem_cons, not_or] at h
    have hc : c ≠ '\r' := Ne.symm h.1
    cases rest with
    | nil => simp [dropReturn, hc]
    | cons d rest => rw [dropReturn, ih h.2]; simp [hc]

theorem linesFrom_append {s : List Char} (h : '\n' ∉ s) (current rest : List Char) :
    linesFrom current (s ++ '\n' :: rest) =
      dropReturn (current.reverse ++ s) :: linesFrom [] rest := by
  induction s generalizing current with
  | nil => simp [linesFrom]
  | cons c s ih =>
    rw [List.mem_cons, not_or] at h
    rw [List.cons_append, linesFrom, if_neg (Ne.symm h.1), ih h.2]
    simp

/-- The first line of a text ends at the first line feed. -/
theorem lines_append {s : List Char} (h : '\n' ∉ s) (rest : List Char) :
    lines (s ++ '\n' :: rest) = dropReturn s :: lines rest := by
  simpa [lines] using linesFrom_append h [] rest

theorem linesFrom_of_not_mem {s : List Char} (h : '\n' ∉ s) (current : List Char) :
    linesFrom current s =
      if current.reverse ++ s = [] then [] else [current.reverse ++ s] := by
  induction s generalizing current with
  | nil => simp [linesFrom]
  | cons c s ih =>
    rw [List.mem_cons, not_or] at h
    rw [linesFrom, if_neg (Ne.symm h.1), ih h.2]
    simp

/-- A text without a line feed is a single line, unless it is empty. -/
theorem lines_of_not_mem {s : List Char} (h : '\n' ∉ s) (hne : s ≠ []) : lines s = [s] := by
  simpa [lines, hne] using linesFrom_of_not_mem h []

/-- The first occurrence of a mark is the one behind a text that has none. -/
theorem splitAtFirst_append {mark : Char} {s : List Char} (h : mark ∉ s) (rest : List Char) :
    splitAtFirst mark (s ++ mark :: rest) = some (s, rest) := by
  induction s with
  | nil => simp [splitAtFirst]
  | cons c s ih =>
    rw [List.mem_cons, not_or] at h
    rw [List.cons_append, splitAtFirst, if_neg (Ne.symm h.1), ih h.2]
    rfl

theorem splitAtFirst_eq_none_iff {mark : Char} {s : List Char} :
    splitAtFirst mark s = none ↔ mark ∉ s := by
  constructor
  · intro hnone hmem
    obtain ⟨before, after, rfl, hbefore⟩ := List.eq_append_cons_of_mem hmem
    rw [splitAtFirst_append hbefore] at hnone
    cases hnone
  · intro hmem
    induction s with
    | nil => rfl
    | cons c rest ih =>
      rw [List.mem_cons, not_or] at hmem
      rw [splitAtFirst, if_neg (Ne.symm hmem.1), ih hmem.2, Option.map_none]

/-! ## Carriage returns -/

/-- Only a carriage return at the end is dropped. -/
theorem dropReturn_concat (s : List Char) (c : Char) :
    dropReturn (s ++ [c]) = if c = '\r' then s else s ++ [c] := by
  induction s with
  | nil => by_cases hc : c = '\r' <;> simp [dropReturn, hc]
  | cons d rest ih =>
    rw [List.cons_append, dropReturn, ih]
    · by_cases hc : c = '\r' <;> simp [hc]
    · simp

theorem trim_dropReturn (s : List Char) : trim (dropReturn s) = trim s := by
  have hnone : ∀ c ∈ ([] : List Char), isBlank c = true := by simp
  have hreturn : ∀ c ∈ ['\r'], isBlank c = true := List.forall_mem_singleton.mpr (by decide)
  rcases List.eq_nil_or_concat s with rfl | ⟨start, last, rfl⟩
  · rfl
  · rw [List.concat_eq_append, dropReturn_concat]
    split_ifs with hlast
    · subst hlast
      exact (trim_between_blanks hnone hreturn start).symm
    · rfl

/-- The second text is the first one, with a carriage return put before some of its line feeds. -/
inductive MoreReturns : List Char → List Char → Prop
  | nil : MoreReturns [] []
  | keep (c : Char) {s t : List Char} : MoreReturns s t → MoreReturns (c :: s) (c :: t)
  | put {s t : List Char} : MoreReturns s t → MoreReturns ('\n' :: s) ('\r' :: '\n' :: t)

theorem map_trim_linesFrom {s t : List Char} (h : MoreReturns s t) (current : List Char) :
    (linesFrom current t).map trim = (linesFrom current s).map trim := by
  induction h generalizing current with
  | nil => rfl
  | keep c _ ih =>
    rw [linesFrom, linesFrom]
    split_ifs with hc
    · rw [List.map_cons, List.map_cons, ih]
    · exact ih (c :: current)
  | put _ ih =>
    have hreturn : dropReturn (('\r' :: current).reverse) = current.reverse := by
      rw [List.reverse_cons, dropReturn_concat, if_pos rfl]
    rw [linesFrom, if_neg (by decide), linesFrom, if_pos rfl, linesFrom, if_pos rfl, List.map_cons,
      List.map_cons, ih, hreturn, trim_dropReturn]

/-- **Carriage returns before line feeds** do not count in trimmed lines. -/
theorem map_trim_lines {s t : List Char} (h : MoreReturns s t) :
    (lines t).map trim = (lines s).map trim :=
  map_trim_linesFrom h []

end ModalConsole.Text
