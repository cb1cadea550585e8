import Mathlib.Tactic.SplitIfs
import ModalConsole.Proofs.Text.Words
import ModalConsole.Text.LetterCase

/-!
# Lower-casing is done after one round

The tables say which characters are capitals. None of them lower-cases into another capital or
into a blank.

* `CaseRun.clears r t`: the small letters of the run `r` lie outside the run `t`. It compares
  only the ends of the runs and, where every second code point counts, their parity; so it can be
  evaluated for all pairs of runs (`shiftedRuns_clear`).
* **`lower_lower`**: lower-casing twice is lower-casing once.
* **`isBlank_of_mem_lower`**: a text without blanks keeps having none. `SolidEnds.lower`: a text
  without blanks at its ends does too.
* `head?_lower_ne_dash`: a text that does not begin with a dash keeps not doing so.
-/

namespace ModalConsole.Text

/-! ## Runs that stay clear of each other -/

theorem CaseRun.contains_iff (r : CaseRun) (n : Nat) :
    r.contains n = true ↔ r.first ≤ n ∧ n ≤ r.last ∧ (n - r.first) % r.step = 0 := by
  simp [CaseRun.contains, and_assoc]

/-- Do the small letters of the run `r` lie outside the run `t`? -/
def CaseRun.clears (r t : CaseRun) : Bool :=
  let low := (r.first + r.shift).toNat
  let high := (r.last + r.shift).toNat
  high.blt t.first || t.last.blt low ||
    (t.step == 2 && (r.step == 2 || r.first == r.last) && (low + t.first) % 2 == 1)

theorem CaseRun.not_contains_of_clears {r t : CaseRun} (h : r.clears t = true)
    (hpos : 0 ≤ r.first + r.shift) {n m : Nat} (hn : r.contains n = true)
    (hm : (m : Int) = n + r.shift) : t.contains m = false := by
  obtain ⟨hfirst, hlast, hstep⟩ := (r.contains_iff n).mp hn
  refine Bool.eq_false_iff.mpr fun ht => ?_
  obtain ⟨htfirst, htlast, htstep⟩ := (t.contains_iff m).mp ht
  simp only [clears, Bool.or_eq_true, Bool.and_eq_true, Nat.blt_eq, beq_iff_eq] at h
  rcases h with (h | h) | ⟨⟨h2, h | h⟩, hodd⟩
  · omega
  · omega
  -- Both runs take every second code point, and the shift leads from one half to the other.
  · rw [h] at hstep
    rw [h2] at htstep
    omega
  · rw [h2] at htstep
    omega

/-- The capitals of ASCII. -/
def asciiCapitals : CaseRun := ⟨0x41, 0x5A, 1, 32⟩

/-- The runs whose letters have a single small letter. -/
def shiftedRuns : List CaseRun := asciiCapitals :: caseRuns

/-- The characters that lower-casing changes: those runs, and the capital I with a dot above. -/
def changedRuns : List CaseRun := ⟨0x130, 0x130, 1, 0⟩ :: shiftedRuns

/-- The blanks, as runs. -/
def blankRuns : List CaseRun :=
  [⟨9, 13, 1, 0⟩, ⟨0x20, 0x20, 1, 0⟩, ⟨0x85, 0x85, 1, 0⟩, ⟨0xA0, 0xA0, 1, 0⟩,
    ⟨0x1680, 0x1680, 1, 0⟩, ⟨0x2000, 0x200A, 1, 0⟩, ⟨0x2028, 0x2029, 1, 0⟩,
    ⟨0x202F, 0x202F, 1, 0⟩, ⟨0x205F, 0x205F, 1, 0⟩, ⟨0x3000, 0x3000, 1, 0⟩]

/-- No small letter is changed by lower-casing, and none is blank. -/
theorem shiftedRuns_clear :
    (shiftedRuns.all fun r => (changedRuns ++ blankRuns).all r.clears) = true := by
  decide +kernel

theorem shiftedRuns_positive : ∀ r ∈ shiftedRuns, 0 ≤ r.first + r.shift := by decide +kernel

theorem changedRuns_positive : ∀ t ∈ changedRuns ++ blankRuns, 0 < t.first := by decide +kernel

theorem isBlank_iff (c : Char) :
    isBlank c = true ↔ ∃ t ∈ blankRuns, t.contains c.toNat = true := by
  simp only [isBlank, blankRuns, List.mem_cons, List.not_mem_nil, or_false, exists_eq_or_imp,
    exists_eq_left, CaseRun.contains_iff, Bool.or_eq_true, Bool.and_eq_true, decide_eq_true_eq,
    beq_iff_eq, Nat.mod_one, and_true]
  omega

/-! ## One character -/

theorem toNat_ofNat (n : Nat) : (Char.ofNat n).toNat = n ∨ (Char.ofNat n).toNat = 0 := by
  by_cases hn : n.isValidChar
  · rw [Char.ofNat, dif_pos hn]
    exact Or.inl rfl
  · rw [Char.ofNat, dif_neg hn]
    exact Or.inr rfl

theorem asciiCapitals_contains (c : Char) :
    asciiCapitals.contains c.toNat = ('A' ≤ c && c ≤ 'Z') := by
  simp only [CaseRun.contains, asciiCapitals, Nat.mod_one, beq_self_eq_true, Bool.and_true]
  rfl

/-- A character in none of the runs stays as it is. -/
theorem lowerChar_of_unchanged {c : Char} (h : ∀ t ∈ changedRuns, t.contains c.toNat = false) :
    lowerChar c = [c] := by
  have hdot : c.toNat ≠ 0x130 := fun hc => by
    have := h _ List.mem_cons_self
    rw [hc] at this
    exact absurd this (by decide)
  have hascii := h asciiCapitals (List.mem_cons_of_mem _ List.mem_cons_self)
  rw [asciiCapitals_contains] at hascii
  have hrun : caseRuns.find? (·.contains c.toNat) = none :=
    List.find?_eq_none.mpr fun t ht => by
      simp [h t (List.mem_cons_of_mem _ (List.mem_cons_of_mem _ ht))]
  simp only [lowerChar, hascii, hdot, hrun, Bool.false_eq_true, if_false, ite_self]

/-- A character that lower-casing changes is the capital I with a dot above, or in a run. -/
theorem lowerChar_cases (c : Char) :
    lowerChar c = [c] ∨ lowerChar c = ['i', '\u0307'] ∨
      ∃ r ∈ shiftedRuns, r.contains c.toNat = true ∧
        lowerChar c = [Char.ofNat (c.toNat + r.shift).toNat] := by
  unfold lowerChar
  simp only
  split_ifs with hsmall hascii hdot
  · rw [← asciiCapitals_contains] at hascii
    exact Or.inr (Or.inr ⟨asciiCapitals, List.mem_cons_self, hascii, rfl⟩)
  · exact Or.inl rfl
  · exact Or.inr (Or.inl rfl)
  · cases hr : caseRuns.find? (·.contains c.toNat) with
    | none => exact Or.inl rfl
    | some r =>
      exact Or.inr (Or.inr ⟨r, List.mem_cons_of_mem _ (List.mem_of_find?_eq_some hr),
        by simpa using List.find?_some hr, rfl⟩)

/-- A small letter is in none of the runs. -/
theorem small_clear {r : CaseRun} (hr : r ∈ shiftedRuns) {n : Nat} (hn : r.contains n = true)
    {t : CaseRun} (ht : t ∈ changedRuns ++ blankRuns) :
    t.contains (Char.ofNat ((n : Int) + r.shift).toNat).toNat = false := by
  have hclear := List.all_eq_true.mp (List.all_eq_true.mp shiftedRuns_clear r hr) t ht
  have hpos := shiftedRuns_positive r hr
  have hfirst := ((r.contains_iff n).mp hn).1
  rcases toNat_ofNat ((n : Int) + r.shift).toNat with h | h
  · rw [h]
    exact CaseRun.not_contains_of_clears hclear hpos hn (Int.toNat_of_nonneg (by omega))
  · have := changedRuns_positive t ht
    rw [h, Bool.eq_false_iff, ne_eq, CaseRun.contains_iff]
    omega

/-- A character that lower-casing leaves as it is, wherever it stands. -/
def IsSettled (c : Char) : Prop := c ≠ 'Σ' ∧ lowerChar c = [c]

theorem settled_of_unchanged {c : Char} (h : ∀ t ∈ changedRuns, t.contains c.toNat = false) :
    IsSettled c := by
  refine ⟨?_, lowerChar_of_unchanged h⟩
  rintro rfl
  exact absurd h (by decide)

theorem settled_of_mem_lowerChar {c d : Char} (hc : c ≠ 'Σ') (hd : d ∈ lowerChar c) :
    IsSettled d := by
  rcases lowerChar_cases c with h | h | ⟨r, hr, hn, h⟩
  · rw [h, List.mem_singleton] at hd
    subst hd
    exact ⟨hc, h⟩
  · rw [h, List.mem_cons, List.mem_singleton] at hd
    rcases hd with rfl | rfl
    · exact ⟨by decide, by decide⟩
    · exact ⟨by decide, by decide⟩
  · rw [h, List.mem_singleton] at hd
    subst hd
    exact settled_of_unchanged fun t ht => small_clear hr hn (List.mem_append_left _ ht)

theorem isBlank_of_mem_lowerChar {c d : Char} (hc : isBlank c = false) (hd : d ∈ lowerChar c) :
    isBlank d = false := by
  rcases lowerChar_cases c with h | h | ⟨r, hr, hn, h⟩
  · rw [h, List.mem_singleton] at hd
    rwa [hd]
  · rw [h, List.mem_cons, List.mem_singleton] at hd
    rcases hd with rfl | rfl
    · decide
    · decide
  · rw [h, List.mem_singleton] at hd
    subst hd
    refine Bool.eq_false_iff.mpr fun hb => ?_
    obtain ⟨t, ht, hcontains⟩ := (isBlank_iff _).mp hb
    rw [small_clear hr hn (List.mem_append_right _ ht)] at hcontains
    exact absurd hcontains (by simp)

/-! ## Texts -/

theorem lowerSigma_cases (before after : List Char) :
    lowerSigma before after = 'ς' ∨ lowerSigma before after = 'σ' := by
  unfold lowerSigma
  split
  · exact Or.inl rfl
  · exact Or.inr rfl

/-- A character of a lower-cased text is a form of the capital sigma, or comes from another
character of the text. -/
theorem mem_lowerFrom {d : Char} (s : List Char) :
    ∀ before, d ∈ lowerFrom before s → d = 'ς' ∨ d = 'σ' ∨ ∃ c ∈ s, c ≠ 'Σ' ∧ d ∈ lowerChar c := by
  induction s with
  | nil => intro before h; exact absurd h List.not_mem_nil
  | cons c rest ih =>
    intro before h
    have later : ∀ b, d ∈ lowerFrom b rest →
        d = 'ς' ∨ d = 'σ' ∨ ∃ c' ∈ c :: rest, c' ≠ 'Σ' ∧ d ∈ lowerChar c' := fun b hb =>
      (ih b hb).imp_right (Or.imp_right fun ⟨c', hc', h⟩ => ⟨c', List.mem_cons_of_mem _ hc', h⟩)
    rw [lowerFrom] at h
    split at h
    · rcases List.mem_cons.mp h with rfl | h
      · exact (lowerSigma_cases before rest).imp_right Or.inl
      · exact later _ h
    · rename_i hc
      rcases List.mem_append.mp h with h | h
      · exact Or.inr (Or.inr ⟨c, List.mem_cons_self, hc, h⟩)
      · exact later _ h

theorem settled_of_mem_lower {s : List Char} {d : Char} (h : d ∈ lower s) : IsSettled d := by
  rcases mem_lowerFrom s [] h with rfl | rfl | ⟨c, -, hc, hd⟩
  · exact ⟨by decide, by decide⟩
  · exact ⟨by decide, by decide⟩
  · exact settled_of_mem_lowerChar hc hd

theorem lowerFrom_of_settled {s : List Char} (h : ∀ c ∈ s, IsSettled c) (before : List Char) :
    lowerFrom before s = s := by
  induction s generalizing before with
  | nil => rfl
  | cons c rest ih =>
    obtain ⟨hsigma, hc⟩ := h c List.mem_cons_self
    rw [lowerFrom, if_neg hsigma, hc, ih fun d hd => h d (List.mem_cons_of_mem c hd)]
    rfl

/-- **Lower-casing is idempotent.** -/
theorem lower_lower (s : List Char) : lower (lower s) = lower s :=
  lowerFrom_of_settled (fun _ => settled_of_mem_lower) []

/-- **Lower-casing makes no blanks.** -/
theorem isBlank_of_mem_lower {s : List Char} (hs : ∀ c ∈ s, isBlank c = false) {d : Char}
    (h : d ∈ lower s) : isBlank d = false := by
  rcases mem_lowerFrom s [] h with rfl | rfl | ⟨c, hc, -, hd⟩
  · decide
  · decide
  · exact isBlank_of_mem_lowerChar (hs c hc) hd

/-! ## Trimmed texts -/

theorem lowerChar_ne_nil (c : Char) : lowerChar c ≠ [] := by
  rcases lowerChar_cases c with h | h | ⟨r, -, -, h⟩ <;> rw [h] <;> exact List.cons_ne_nil _ _

/-- A character becomes at least one character, and no blank unless it is one. -/
theorem lowerFrom_cons (before : List Char) (c : Char) (rest : List Char) :
    ∃ forms, forms ≠ [] ∧ (isBlank c = false → ∀ d ∈ forms, isBlank d = false) ∧
      lowerFrom before (c :: rest) = forms ++ lowerFrom (c :: before) rest := by
  rw [lowerFrom]
  split_ifs with hc
  · refine ⟨[lowerSigma before rest], List.cons_ne_nil _ _, fun _ d hd => ?_, rfl⟩
    rw [List.mem_singleton.mp hd]
    rcases lowerSigma_cases before rest with h | h <;> rw [h] <;> decide
  · exact ⟨lowerChar c, lowerChar_ne_nil c, fun hblank _ => isBlank_of_mem_lowerChar hblank, rfl⟩

theorem lowerFrom_ne_nil {s : List Char} (h : s ≠ []) (before : List Char) :
    lowerFrom before s ≠ [] := by
  cases s with
  | nil => exact absurd rfl h
  | cons c rest =>
    obtain ⟨forms, hne, -, hforms⟩ := lowerFrom_cons before c rest
    rw [hforms]
    exact List.append_ne_nil_of_left_ne_nil hne _

/-- The last character of a lower-cased text is no blank unless the last of the text is one. -/
theorem isBlank_of_getLast?_lowerFrom {s : List Char} {before : List Char} {d : Char}
    (hs : ∀ c, s.getLast? = some c → isBlank c = false)
    (hd : (lowerFrom before s).getLast? = some d) : isBlank d = false := by
  induction s generalizing before with
  | nil => cases hd
  | cons c rest ih =>
    obtain ⟨forms, hne, hsolid, hforms⟩ := lowerFrom_cons before c rest
    rw [hforms, List.getLast?_append] at hd
    cases rest with
    | nil =>
      have hmem : d ∈ forms := List.mem_of_getLast? hd
      exact hsolid (hs c rfl) d hmem
    | cons e rest =>
      have hf := List.getLast?_eq_some_getLast
        (lowerFrom_ne_nil (List.cons_ne_nil e rest) (c :: before))
      rw [hf, Option.some_or] at hd
      exact ih (fun c' hc' => hs c' (List.getLast?_cons_cons.trans hc')) (hf.trans hd)

/-- **Lower-casing leaves a trimmed text trimmed.** -/
theorem SolidEnds.lower {s : List Char} (h : SolidEnds s) : SolidEnds (lower s) where
  head := by
    intro d hd
    cases s with
    | nil => cases hd
    | cons c rest =>
      obtain ⟨forms, hne, hsolid, hforms⟩ := lowerFrom_cons [] c rest
      rw [Text.lower, hforms, List.head?_append, List.head?_eq_some_head hne, Option.some_or,
        ← List.head?_eq_some_head hne] at hd
      exact hsolid (h.head c rfl) d (List.mem_of_head? hd)
  last := fun _ => isBlank_of_getLast?_lowerFrom h.last

/-! ## Dashes -/

/-- No small letter is a dash. -/
theorem shiftedRuns_clear_dash :
    (shiftedRuns.all (·.clears ⟨0x2D, 0x2D, 1, 0⟩)) = true := by
  decide +kernel

theorem eq_dash_of_mem_lowerChar {c : Char} (h : '-' ∈ lowerChar c) : c = '-' := by
  rcases lowerChar_cases c with hc | hc | ⟨r, hr, hn, hc⟩
  · rw [hc, List.mem_singleton] at h
    exact h.symm
  · rw [hc] at h
    exact absurd h (by decide)
  · rw [hc, List.mem_singleton] at h
    have hdash : ('-' : Char).toNat = ((c.toNat : Int) + r.shift).toNat := by
      rcases toNat_ofNat ((c.toNat : Int) + r.shift).toNat with hsame | hzero
      · rw [← hsame, ← h]
      · rw [← h] at hzero
        exact absurd hzero (by decide)
    have hfirst := ((r.contains_iff c.toNat).mp hn).1
    have hpos := shiftedRuns_positive r hr
    have hclear := CaseRun.not_contains_of_clears
      (List.all_eq_true.mp shiftedRuns_clear_dash r hr) hpos hn (m := ('-' : Char).toNat)
      (by rw [hdash]; exact Int.toNat_of_nonneg (by omega))
    exact absurd hclear (by decide)

/-- Lower-casing puts no dash at the beginning of a text. -/
theorem head?_lower_ne_dash {s : List Char} (h : s.head? ≠ some '-') :
    (lower s).head? ≠ some '-' := by
  intro hlower
  cases s with
  | nil => cases hlower
  | cons c rest =>
    rw [lower, lowerFrom] at hlower
    split at hlower
    · rcases lowerSigma_cases [] rest with hsigma | hsigma <;> rw [hsigma] at hlower <;>
        exact absurd (Option.some.inj hlower) (by decide)
    · rw [List.head?_append, List.head?_eq_some_head (lowerChar_ne_nil c), Option.some_or] at hlower
      have hmem := List.head_mem (lowerChar_ne_nil c)
      rw [Option.some.inj hlower] at hmem
      exact h (congrArg some (eq_dash_of_mem_lowerChar hmem))

end ModalConsole.Text
