import Mathlib.Tactic.Linarith
import ModalConsole.Economy.Basic
import ModalConsole.Economy.Record
import ModalConsole.Proofs.Binary64.Order
import ModalConsole.Proofs.Binary64.Whole
import ModalConsole.Proofs.Text.Digits
import ModalConsole.Proofs.Text.Words

/-!
# The texts of amounts

An amount is scaled to hundredths, rounded to a whole number of them, and scaled back; the outcome
is written whole, or with two places less the zeros at their end. Each of these steps rounds once
more, and the scaling can leave the range of the numbers.

* `IsAmountText`: plain numerals with at most two places.
* `whole_of_rounded_twice`, `not_dvd_roundHalfEven_hundredths`: an outcome that is not whole is not
  written as if it was, so dropping zeros never leaves a bare point.
* `hundredfold_lt_iff`: up to `amountLimit` there is room for the hundredths.
* **`isAmountText_iff_le_limit`**: an amount up to `amountLimit`, of either sign, has a plain
  numeral; any greater one is written as infinity, also if it is finite.
  `finite_shown_as_infinity`: such a balance.
-/

namespace ModalConsole

open Text

/-- A plain numeral with at most two places: perhaps a minus sign, digits, and perhaps a point with
one or two more digits, the last of which is not zero. -/
inductive IsAmountText : List Char → Prop
  | whole (negative : Bool) {ds : List Char} :
    ds ≠ [] → (∀ c ∈ ds, c.isDigit = true) → IsAmountText (Binary64.signText negative ++ ds)
  | places (negative : Bool) {ds es : List Char} :
    ds ≠ [] → (∀ c ∈ ds, c.isDigit = true) →
    es ≠ [] → (∀ c ∈ es, c.isDigit = true) → es.length ≤ 2 → es.getLast? ≠ some '0' →
    IsAmountText (Binary64.signText negative ++ (ds ++ '.' :: es))

/-- The greatest amount that is written as a numeral. -/
def amountLimit : Binary64 := .ofDecimal false ⟨17976931348623156, 290⟩

namespace Binary64

/-! ## Rounding twice -/

/-- A number `w / 100` is rounded to a grid of `t` points for each unit, and from there to
hundredths. If these come out as the whole number `k`, the point of the grid was whole, or `w / 100`
itself. -/
theorem whole_of_rounded_twice {w t point k : Nat} (hpoint : IsNearest (w * t) 100 point)
    (hplaces : IsNearest (100 * point) t (100 * k)) : point = t * k ∨ w = 100 * k := by
  have hlow : 200 * (t * k) ≤ 200 * point + t := by linarith [hplaces.le]
  have hhigh : 200 * point ≤ 200 * (t * k) + t := by linarith [hplaces.ge]
  rcases le_or_gt t 100 with hcoarse | hfine
  · -- a hundredth is less than half the way between two points
    exact Or.inl (by omega)
  · -- all roundings together lead less than a hundredth away
    have hlow' : 200 * point ≤ 2 * (w * t) + 100 := by linarith [hpoint.le]
    have hhigh' : 2 * (w * t) ≤ 200 * point + 100 := by linarith [hpoint.ge]
    refine Or.inr (le_antisymm (Nat.lt_succ_iff.mp ?_) (Nat.lt_succ_iff.mp ?_))
    · refine Nat.lt_of_mul_lt_mul_left (a := t) ?_
      nlinarith
    · refine Nat.lt_of_mul_lt_mul_left (a := t) ?_
      nlinarith

/-- A number of hundredths that is not near to a whole number does not become one when it is rounded
to hundredths again. -/
theorem not_dvd_roundHalfEven_hundredths {w : Nat}
    (hfinite : (nearestRank (w * unitsOfOne) 100).val < infinityRank)
    (hfraction : ¬ unitsOfOne ∣ units (nearestRank (w * unitsOfOne) 100)) :
    ¬ 100 ∣ roundHalfEven (100 * units (nearestRank (w * unitsOfOne) 100)) unitsOfOne := by
  rintro ⟨k, hk⟩
  have hplaces :=
    roundHalfEven_isNearest (100 * units (nearestRank (w * unitsOfOne) 100)) unitsOfOne_pos
  have hpos := Nat.two_pow_pos (gridShift (w * unitsOfOne) 100)
  have hpoint :=
    roundHalfEven_isNearest (w * unitsOfOne) (Nat.mul_pos (show 0 < 100 by decide) hpos)
  have hunits := units_nearestRank (by decide) hfinite
  rw [hk, hunits] at hplaces
  generalize roundHalfEven (w * unitsOfOne) _ = point at hunits hplaces hpoint
  have hgrid := unitsOfOne_dvd_or_dvd (gridShift (w * unitsOfOne) 100)
  generalize 2 ^ gridShift (w * unitsOfOne) 100 = grid at hunits hplaces hpoint hgrid hpos
  rcases hgrid with hcoarse | ⟨t, ht⟩
  · rw [hunits] at hfraction
    exact hfraction (hcoarse.mul_left _)
  · -- in points of the grid
    have hpoint' : IsNearest (w * t) 100 point := by
      refine .of_mul hpos ?_
      rw [← Nat.mul_assoc, Nat.mul_comm grid w, Nat.mul_assoc, ← ht, Nat.mul_comm grid]
      exact hpoint
    have hplaces' : IsNearest (100 * point) t (100 * k) := by
      refine .of_mul hpos ?_
      rw [← ht, Nat.mul_comm grid, Nat.mul_assoc]
      exact hplaces
    rcases whole_of_rounded_twice hpoint' hplaces' with rfl | rfl
    · rw [hunits, ht] at hfraction
      exact hfraction (Dvd.intro k (by ring))
    · have hsame : nearestRank (100 * k * unitsOfOne) 100 = nearestRank (k * unitsOfOne) 1 := by
        refine nearestRank_congr (by decide) Nat.one_pos ?_
        ring
      rw [hsame] at hfinite hfraction
      exact hfraction (unitsOfOne_dvd_units_nearestRank (Nat.dvd_mul_left _ _) hfinite)

/-! ## Scaling to hundredths and back -/

variable {negative : Bool} {rank : Fin (infinityRank + 1)}

/-- The rank of a hundred. -/
def hundredRank : Fin (infinityRank + 1) := ⟨1028 * binade + 100 * 2 ^ 46, by decide⟩

theorem units_hundredRank : units hundredRank = 100 * unitsOfOne := by
  have hunits : units hundredRank = 100 * 2 ^ 46 * 2 ^ 1028 :=
    units_point (Or.inr (by decide)) (by decide)
  rw [hunits, Nat.mul_assoc, pow_mul_pow_eq rfl]

theorem ofNat_hundred : ofNat 100 = signed false hundredRank := by
  rw [ofNat, ofUnits, ← units_hundredRank, nearestRank_units]

theorem hundredRank_ne : hundredRank.val ≠ infinityRank ∧ hundredRank.val ≠ 0 := by
  decide

/-- The greatest finite magnitude is whole. -/
theorem unitsOfOne_dvd_units_last : unitsOfOne ∣ units (infinityRank - 1) := by
  have hlast : infinityRank - 1 = 2045 * binade + (2 ^ 53 - 1) := by decide
  rw [hlast, units_point (Or.inr (by decide)) (by decide)]
  exact (unitsOfOne_dvd_pow (by decide)).mul_left _

theorem mul_hundred (negative : Bool) (rank : Fin (infinityRank + 1)) :
    signed negative rank * ofNat 100 = signed negative (nearestRank (100 * units rank) 1) := by
  have hsign : (negative != false) = negative := Bool.bne_false negative
  obtain ⟨hhundred, hne⟩ := hundredRank_ne
  rw [ofNat_hundred]
  show mul _ _ = _
  simp only [mul, hsign, hhundred, decide_false, Bool.or_false, decide_eq_true_eq]
  split_ifs with hrank hzero
  · rw [hrank, decide_eq_false hne] at hzero
    exact absurd hzero (by decide)
  · have hlast : units infinityRank * 1 ≤ 100 * units rank := by
      rw [hrank]
      omega
    rw [nearestRank_eq_last Nat.one_pos hlast]
    rfl
  · rw [ofUnits, units_hundredRank, nearestRank_congr unitsOfOne_pos Nat.one_pos]
    ring

theorem div_hundred (hfinite : rank.val < infinityRank) :
    signed negative rank / ofNat 100 = signed negative (nearestRank (units rank) 100) := by
  have hsign : (negative != false) = negative := Bool.bne_false negative
  obtain ⟨hhundred, hne⟩ := hundredRank_ne
  rw [ofNat_hundred]
  show div _ _ = _
  simp only [div, hsign, hfinite.ne, hhundred, hne, if_false]
  rw [ofUnits, units_hundredRank, nearestRank_congr (Nat.mul_pos (by decide) unitsOfOne_pos)
    (show 0 < 100 by decide)]
  ring

/-- A finite number is rounded to a whole one, which is finite as well. -/
theorem round_signed (hfinite : rank.val < infinityRank) :
    ∃ w, (signed negative rank).round = signed negative (nearestRank (w * unitsOfOne) 1) ∧
      (nearestRank (w * unitsOfOne) 1).val < infinityRank := by
  refine ⟨(2 * units rank + unitsOfOne) / (2 * unitsOfOne), ?_, ?_⟩
  · simp only [round, if_neg hfinite.ne]
    rfl
  · obtain ⟨m, hlast⟩ := unitsOfOne_dvd_units_last
    have hunits : units rank ≤ units (infinityRank - 1) :=
      units_le_units (b := ⟨infinityRank - 1, by omega⟩) (by simp only; omega)
    have hpos := unitsOfOne_pos
    have hwhole : (2 * units rank + unitsOfOne) / (2 * unitsOfOne) ≤ m := by
      refine Nat.lt_succ_iff.mp (Nat.div_lt_of_lt_mul ?_)
      rw [hlast] at hunits
      linarith
    have hbound : (2 * units rank + unitsOfOne) / (2 * unitsOfOne) * unitsOfOne ≤
        units (infinityRank - 1) * 1 := by
      rw [hlast, Nat.mul_one, Nat.mul_comm unitsOfOne]
      exact Nat.mul_le_mul_right _ hwhole
    have hle : (nearestRank _ 1).val ≤
        (⟨infinityRank - 1, by omega⟩ : Fin (infinityRank + 1)).val :=
      nearestRank_le Nat.one_pos hbound
    exact hle.trans_lt (Nat.sub_lt (by decide) Nat.one_pos)

/-- Hundredths for which there is room are a whole number of hundredths, rounded once. -/
theorem hundredths_signed (h : (nearestRank (100 * units rank) 1).val < infinityRank) :
    ∃ w, (signed negative rank).hundredths = signed negative (nearestRank (w * unitsOfOne) 100) ∧
      (nearestRank (w * unitsOfOne) 100).val < infinityRank := by
  obtain ⟨w, hround, hfinite⟩ : ∃ w, (signed negative _).round = _ ∧ _ := round_signed h
  obtain ⟨m, hm⟩ := unitsOfOne_dvd_units_nearestRank (Nat.dvd_mul_left unitsOfOne w) hfinite
  refine ⟨m, ?_, ?_⟩
  · rw [hundredths, mul_hundred, hround, div_hundred hfinite, hm, Nat.mul_comm]
  · rw [Nat.mul_comm, ← hm]
    exact (nearestRank_le (by decide) (by omega)).trans_lt hfinite

/-- Where there is no room for the hundredths, they are infinite. -/
theorem hundredths_signed_of_le (h : ¬ (nearestRank (100 * units rank) 1).val < infinityRank) :
    (signed negative rank).hundredths = infinity negative := by
  have hlast : nearestRank (100 * units rank) 1 = Fin.last infinityRank :=
    Fin.ext (le_antisymm (Fin.is_le _) (not_lt.mp h))
  rw [hundredths, mul_hundred, hlast, ofNat_hundred]
  show div _ _ = _
  simp only [round, Fin.val_last, if_true, div, hundredRank_ne.1, if_false, Bool.bne_false]

/-! ## Writing hundredths -/

theorem isAmountText_fixedChars_zero (hfinite : rank.val < infinityRank) :
    IsAmountText (fixedChars 0 (signed negative rank)) := by
  simp only [fixedChars, hfinite.ne, if_false, if_true]
  exact .whole negative (decimal_ne_nil _) (isDigit_of_mem_decimal _)

/-- Two places of which not both are zero leave at least one when zeros at the end are dropped. -/
theorem isAmountText_fixedChars_two (hfinite : rank.val < infinityRank)
    (hplaces : ¬ 100 ∣ roundHalfEven (100 * units rank) unitsOfOne) :
    IsAmountText (dropEndWhile (· == '0') (fixedChars 2 (signed negative rank))) := by
  rw [Nat.mul_comm] at hplaces
  simp only [fixedChars, hfinite.ne, if_false, show (2 : Nat) ≠ 0 by decide,
    show Nat.pow 10 2 = 100 from rfl]
  generalize roundHalfEven (units rank * 100) unitsOfOne = n at hplaces
  have hlt : n % 100 < 10 ^ 2 := Nat.mod_lt n (by decide)
  have hlength : (paddedDecimal 2 (n % 100)).length = 2 := length_paddedDecimal (by decide) hlt
  have hdigits := isDigit_of_mem_paddedDecimal 2 (n % 100)
  have hvalue := digitsValue_paddedDecimal 2 (n % 100)
  obtain ⟨zeros, hsplit, hzeros⟩ :=
    exists_eq_dropEndWhile_append (· == '0') (paddedDecimal 2 (n % 100))
  rw [← List.append_assoc, dropEndWhile_append_cons (by decide), List.append_assoc]
  have hlast : (dropEndWhile (· == '0') (paddedDecimal 2 (n % 100))).getLast? ≠ some '0' :=
    fun h => absurd (not_of_getLast?_dropEndWhile h) (by decide)
  generalize dropEndWhile (· == '0') (paddedDecimal 2 (n % 100)) = kept at hsplit hlast
  rw [hsplit] at hlength hdigits hvalue
  rw [List.length_append] at hlength
  refine .places negative (decimal_ne_nil _) (isDigit_of_mem_decimal _) ?_
    (fun c hc => hdigits c (List.mem_append_left _ hc)) (by omega) hlast
  rintro rfl
  rw [List.nil_append, digitsValue_of_zeros hzeros] at hvalue
  exact hplaces (Nat.dvd_of_mod_eq_zero hvalue.symm)

/-! ## The limit -/

/-- The rank of the limit. -/
def limitRank : Fin (infinityRank + 1) := ⟨9188604247731475578, by decide⟩

/-- The rank behind the limit. -/
def nextRank : Fin (infinityRank + 1) := ⟨9188604247731475579, by decide⟩

/-- There is room for the hundredths of the limit, and none for those of the next number. -/
theorem limitRank_spec : amountLimit = signed false limitRank ∧
    (nearestRank (100 * units limitRank) 1).val < infinityRank ∧
    ¬ (nearestRank (100 * units nextRank) 1).val < infinityRank := by
  decide +kernel

/-- Up to the limit, and no further, there is room for the hundredths. -/
theorem hundredfold_lt_iff (rank : Fin (infinityRank + 1)) :
    (nearestRank (100 * units rank) 1).val < infinityRank ↔ rank.val ≤ limitRank.val := by
  have hmono : ∀ {a b : Fin (infinityRank + 1)}, a.val ≤ b.val →
      (nearestRank (100 * units a) 1).val ≤ (nearestRank (100 * units b) 1).val := by
    intro a b hle
    have := units_le_units hle
    exact nearestRank_mono Nat.one_pos Nat.one_pos (by omega)
  constructor
  · intro h
    by_contra hbeyond
    have hnext : nextRank.val ≤ rank.val := not_le.mp hbeyond
    exact limitRank_spec.2.2 ((hmono hnext).trans_lt h)
  · exact fun hle => (hmono hle).trans_lt limitRank_spec.2.1

end Binary64

/-! ## The texts of all amounts -/

section Texts

open Binary64

variable {negative : Bool} {rank : Fin (infinityRank + 1)}

theorem isAmountText_amountChars (h : rank.val ≤ limitRank.val) :
    IsAmountText (amountChars (signed negative rank)) := by
  obtain ⟨w, hhundredths, hfinite⟩ : ∃ w, (signed negative rank).hundredths = _ ∧ _ :=
    hundredths_signed ((hundredfold_lt_iff rank).mpr h)
  simp only [amountChars, hhundredths]
  split_ifs with hintegral
  · exact isAmountText_fixedChars_zero hfinite
  · refine isAmountText_fixedChars_two hfinite (not_dvd_roundHalfEven_hundredths hfinite ?_)
    intro hwhole
    simp [isIntegral, hfinite.ne, Nat.mod_eq_zero_of_dvd hwhole] at hintegral

theorem amountChars_of_limit_lt (h : limitRank.val < rank.val) :
    amountChars (signed negative rank) = signText negative ++ ['i', 'n', 'f'] := by
  have hroom := mt (hundredfold_lt_iff rank).mp (not_le.mpr h)
  simp only [amountChars, hundredths_signed_of_le hroom]
  cases negative <;> rfl

/-- A numeral consists of digits, a sign and a point. -/
theorem IsAmountText.isDigit_or_mem {s : List Char} (h : IsAmountText s) :
    ∀ c ∈ s, c.isDigit = true ∨ c ∈ ['-', '.'] := by
  have hsign : ∀ negative, ∀ c ∈ signText negative, c ∈ ['-', '.'] := by
    intro negative
    cases negative <;> simp [signText]
  intro c hc
  cases h with
  | whole negative _ hds =>
    rcases List.mem_append.mp hc with hc | hc
    · exact Or.inr (hsign negative c hc)
    · exact Or.inl (hds c hc)
  | places negative _ hds _ hes =>
    rcases List.mem_append.mp hc with hc | hc
    · exact Or.inr (hsign negative c hc)
    rcases List.mem_append.mp hc with hc | hc
    · exact Or.inl (hds c hc)
    rcases List.mem_cons.mp hc with rfl | hc
    · exact Or.inr (by decide)
    · exact Or.inl (hes c hc)

/-- No word is a numeral. -/
theorem not_isAmountText_of_mem {s : List Char} {c : Char} (hc : c ∈ s)
    (hletter : c.isDigit = false ∧ c ∉ ['-', '.']) : ¬ IsAmountText s := by
  intro h
  rcases h.isDigit_or_mem c hc with hdigit | hmark
  · rw [hletter.1] at hdigit
    cases hdigit
  · exact hletter.2 hmark

theorem not_isAmountText_infinity (negative : Bool) :
    ¬ IsAmountText (signText negative ++ ['i', 'n', 'f']) :=
  not_isAmountText_of_mem (List.mem_append_right _ List.mem_cons_self) (by decide)

/-- **Amounts up to a limit have plain numerals.** The text of an amount is a numeral with at most
two places iff the amount is at most `amountLimit`, whatever its sign. Any greater amount, finite or
not, is written as infinity, and what is no number as such. -/
theorem isAmountText_iff_le_limit (x : Binary64) :
    (IsAmountText (amountChars x) ↔ amountLimit.neg.le x = true ∧ x.le amountLimit = true) ∧
    (amountChars x = ['i', 'n', 'f'] ↔ amountLimit.lt x = true) ∧
    (amountChars x = ['-', 'i', 'n', 'f'] ↔ x.lt amountLimit.neg = true) := by
  rw [limitRank_spec.1]
  cases x with
  | nan =>
    have htext : amountChars nan = ['N', 'a', 'N'] := rfl
    have hword : ¬ IsAmountText ['N', 'a', 'N'] :=
      not_isAmountText_of_mem List.mem_cons_self (by decide)
    simp [htext, hword, le, lt]
  | signed negative rank =>
    simp only [neg, Bool.not_false, le_signed_iff, lt_signed_iff]
    rcases le_or_gt rank.val limitRank.val with hle | hlt
    · have htext : IsAmountText (amountChars (signed negative rank)) := isAmountText_amountChars hle
      have hword : ∀ sign, amountChars (signed negative rank) ≠ signText sign ++ ['i', 'n', 'f'] :=
        fun sign h => not_isAmountText_infinity sign (h ▸ htext)
      have hplus : amountChars (signed negative rank) ≠ ['i', 'n', 'f'] := hword false
      have hminus : amountChars (signed negative rank) ≠ ['-', 'i', 'n', 'f'] := hword true
      simp only [htext, hplus, hminus, true_iff, false_iff, place]
      cases negative <;> simp <;> omega
    · have htext : amountChars (signed negative rank) = signText negative ++ ['i', 'n', 'f'] :=
        amountChars_of_limit_lt hlt
      have hword := not_isAmountText_infinity negative
      simp only [htext, hword, false_iff, place]
      cases negative <;> simp [signText] <;> omega

/-- **A finite balance that is shown as infinity.** An economy that keeps the rules has a whole
number of coins, and they are reported without a digit. -/
theorem finite_shown_as_infinity :
    let rich : Economy := ⟨.ofDecimal false ⟨1, 307⟩, .one, .one⟩
    rich.isValid = true ∧ rich.balance.isFinite = true ∧ rich.balance.isIntegral = true ∧
      amountChars rich.balance = ['i', 'n', 'f'] ∧ ¬ IsAmountText (amountChars rich.balance) ∧
      rich.report = "You have inf Coins." := by
  intro rich
  have htext : amountChars rich.balance = ['i', 'n', 'f'] := by decide +kernel
  refine ⟨by decide +kernel, by decide +kernel, by decide +kernel, htext, ?_, ?_⟩
  · rw [htext]
    exact not_isAmountText_infinity false
  · rw [Economy.report, formatAmount, htext]
    rfl

end Texts

end ModalConsole
