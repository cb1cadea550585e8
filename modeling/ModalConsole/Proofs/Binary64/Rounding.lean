import Mathlib.Data.Nat.Log
import Mathlib.Tactic.Ring
import ModalConsole.Binary64.Basic

/-!
# Rounding to the nearest magnitude

A quotient `num / den` of units is rounded in two steps: the size of the quotient fixes a grid, and
the nearest point of the grid is taken. Quotients are compared without division: `num / den` is at
most `num' / den'` iff `num * den' ≤ num' * den`.

* `roundHalfEven_isNearest`: what the second step finds. `roundHalfEven_mono`: it is monotone.
* **`nearestRank_mono`**: so is the whole rounding. Hence a quotient has one nearest rank however it
  is written (`nearestRank_congr`).
* **`nearestRank_units`**: a magnitude rounds to its own rank. With the other one, a quotient on
  either side of a magnitude is rounded to the same side of its rank (`le_nearestRank`,
  `nearestRank_le`), and magnitudes are in the order of their ranks (`units_lt_units`).
-/

namespace ModalConsole

theorem unitsOfOne_pos : 0 < unitsOfOne := by
  decide +kernel

/-- The rank of one has the exponent in the middle and no other bit. -/
theorem Binary64.units_one : units (1023 * binade) = unitsOfOne := by
  decide +kernel

/-! ## The nearest natural number -/

/-- `r` is the natural number nearest to `num / den`, and even if another one is as near. -/
structure IsNearest (num den r : Nat) : Prop where
  le : 2 * (den * r) ≤ 2 * num + den
  ge : 2 * num ≤ 2 * (den * r) + den
  even_of_eq : 2 * (den * r) = 2 * num + den ∨ 2 * num = 2 * (den * r) + den → r % 2 = 0

theorem roundHalfEven_isNearest (num : Nat) {den : Nat} (hden : 0 < den) :
    IsNearest num den (roundHalfEven num den) := by
  have hdiv := Nat.div_add_mod num den
  have hmod := Nat.mod_lt num hden
  have hsucc : den * (num / den + 1) = den * (num / den) + den := Nat.mul_succ _ _
  simp only [roundHalfEven]
  split_ifs with hlow hhigh
  · constructor <;> omega
  · constructor <;> omega
  · -- a half: the quotient itself if it is even, else the number above
    rcases Nat.mod_two_eq_zero_or_one (num / den) with heven | hodd
    · rw [heven, Nat.add_zero]
      constructor <;> omega
    · rw [hodd]
      constructor <;> omega

theorem roundHalfEven_mul (c : Nat) {den : Nat} (hden : 0 < den) :
    roundHalfEven (c * den) den = c := by
  simp [roundHalfEven, Nat.mul_div_cancel c hden, hden]

theorem roundHalfEven_mono {num den num' den' : Nat} (hden : 0 < den) (hden' : 0 < den')
    (h : num * den' ≤ num' * den) : roundHalfEven num den ≤ roundHalfEven num' den' := by
  have hr := roundHalfEven_isNearest num hden
  have hr' := roundHalfEven_isNearest num' hden'
  generalize roundHalfEven num den = r at hr
  generalize roundHalfEven num' den' = r' at hr'
  by_contra hlt
  have hstep : den * (r' + 1) ≤ den * r := Nat.mul_le_mul_left _ (by omega)
  have hhigh : 2 * (den * r') + den ≤ 2 * num := by
    have := hr.le
    rw [Nat.mul_succ] at hstep
    omega
  -- so both quotients are the midpoint of `r'` and `r' + 1`, and these are not both even
  have hmiddle : (2 * (den * r') + den) * den' = (2 * (den' * r') + den') * den := by ring
  have hdouble : 2 * num * den' ≤ 2 * num' * den := by
    rw [Nat.mul_assoc, Nat.mul_assoc]
    exact Nat.mul_le_mul_left 2 h
  have hleft : (2 * (den * r') + den) * den' ≤ 2 * num * den' := Nat.mul_le_mul_right _ hhigh
  have hright : 2 * num' * den ≤ (2 * (den' * r') + den') * den := Nat.mul_le_mul_right _ hr'.ge
  have hnum : 2 * num = 2 * (den * r') + den := by
    refine le_antisymm (Nat.le_of_mul_le_mul_right ?_ hden') hhigh
    exact hdouble.trans (hright.trans hmiddle.ge)
  have hnum' : 2 * num' = 2 * (den' * r') + den' := by
    refine le_antisymm hr'.ge (Nat.le_of_mul_le_mul_right ?_ hden)
    exact hmiddle.ge.trans (hleft.trans hdouble)
  have heven' : r' % 2 = 0 := hr'.even_of_eq (Or.inr hnum')
  have hle : den * r ≤ den * (r' + 1) := by
    have := hr.le
    rw [Nat.mul_succ]
    omega
  obtain rfl : r = r' + 1 := by
    have := Nat.le_of_mul_le_mul_left hle hden
    omega
  have heven : (r' + 1) % 2 = 0 := hr.even_of_eq (Or.inl (by rw [Nat.mul_succ]; omega))
  omega

theorem le_roundHalfEven {c num den : Nat} (hden : 0 < den) (h : c * den ≤ num) :
    c ≤ roundHalfEven num den := by
  have hmono : roundHalfEven (c * den) den ≤ roundHalfEven num den :=
    roundHalfEven_mono hden hden (Nat.mul_le_mul_right den h)
  rwa [roundHalfEven_mul c hden] at hmono

theorem roundHalfEven_le {c num den : Nat} (hden : 0 < den) (h : num ≤ c * den) :
    roundHalfEven num den ≤ c := by
  have hmono : roundHalfEven num den ≤ roundHalfEven (c * den) den :=
    roundHalfEven_mono hden hden (Nat.mul_le_mul_right den h)
  rwa [roundHalfEven_mul c hden] at hmono

namespace Binary64

/-! ## The grid -/

/-- The binary exponent of the grid on which a quotient is rounded. -/
def gridShift (num den : Nat) : Nat := (num / den).log2 - 52

/-- The rank of the nearest point of the grid, if ranks went on for ever. -/
def gridRank (num den : Nat) : Nat :=
  gridShift num den * binade + roundHalfEven num (den * 2 ^ gridShift num den)

theorem nearestRank_val (num den : Nat) :
    (nearestRank num den).val = min (gridRank num den) infinityRank := rfl

variable {num den num' den' : Nat}

theorem gridShift_mono (hden : 0 < den) (hden' : 0 < den') (h : num * den' ≤ num' * den) :
    gridShift num den ≤ gridShift num' den' := by
  have hdiv : num / den ≤ num' / den' := by
    rw [Nat.le_div_iff_mul_le hden']
    refine Nat.le_of_mul_le_mul_right ?_ hden
    calc num / den * den' * den = num / den * den * den' := by ring
      _ ≤ num * den' := Nat.mul_le_mul_right _ (Nat.div_mul_le_self num den)
      _ ≤ num' * den := h
  have hlog : (num / den).log2 ≤ (num' / den').log2 := by
    simp only [Nat.log2_eq_log_two]
    exact Nat.log_mono_right hdiv
  unfold gridShift
  omega

/-- The grid is fine enough: a quotient lies below its point number `2 ^ 53`. -/
theorem lt_of_gridShift (hden : 0 < den) :
    num < 2 ^ 53 * (den * 2 ^ gridShift num den) := by
  have hlog : num / den < 2 ^ ((num / den).log2 + 1) := Nat.lt_log2_self
  have hpow : 2 ^ ((num / den).log2 + 1) ≤ 2 ^ (53 + gridShift num den) :=
    Nat.pow_le_pow_right (by decide) (by unfold gridShift; omega)
  have hlt := (Nat.div_lt_iff_lt_mul hden).mp (hlog.trans_le hpow)
  rwa [pow_add, Nat.mul_assoc, Nat.mul_comm (2 ^ gridShift num den)] at hlt

/-- The grid is no finer than needed: a quotient on a coarse grid is not below its point number
`2 ^ 52`. -/
theorem le_of_gridShift (hden : 0 < den) (h : 0 < gridShift num den) :
    2 ^ 52 * (den * 2 ^ gridShift num den) ≤ num := by
  have hlog : (num / den).log2 = 52 + gridShift num den := by
    unfold gridShift at h ⊢
    omega
  have hne : num / den ≠ 0 := by
    intro hzero
    rw [gridShift, hzero] at h
    simp at h
  have hle := (Nat.le_div_iff_mul_le hden).mp (Nat.log2_self_le hne)
  rwa [hlog, pow_add, Nat.mul_assoc, Nat.mul_comm (2 ^ gridShift num den)] at hle

theorem gridRank_mono (hden : 0 < den) (hden' : 0 < den') (h : num * den' ≤ num' * den) :
    gridRank num den ≤ gridRank num' den' := by
  have hgrid : 0 < den * 2 ^ gridShift num den := Nat.mul_pos hden (Nat.two_pow_pos _)
  have hgrid' : 0 < den' * 2 ^ gridShift num' den' := Nat.mul_pos hden' (Nat.two_pow_pos _)
  unfold gridRank
  rcases (gridShift_mono hden hden' h).eq_or_lt with heq | hlt
  · rw [← heq] at hgrid' ⊢
    refine Nat.add_le_add_left (roundHalfEven_mono hgrid hgrid' ?_) _
    calc num * (den' * 2 ^ gridShift num den) = num * den' * 2 ^ gridShift num den := by ring
      _ ≤ num' * den * 2 ^ gridShift num den := Nat.mul_le_mul_right _ h
      _ = num' * (den * 2 ^ gridShift num den) := by ring
  · -- on the finer grid at most `2 ^ 53` points count, on the coarser at least `2 ^ 52`
    have hfine : roundHalfEven num (den * 2 ^ gridShift num den) ≤ 2 ^ 53 :=
      roundHalfEven_le hgrid (lt_of_gridShift hden).le
    have hcoarse : 2 ^ 52 ≤ roundHalfEven num' (den' * 2 ^ gridShift num' den') :=
      le_roundHalfEven hgrid' (le_of_gridShift hden' (by omega))
    have hshift : (gridShift num den + 1) * binade ≤ gridShift num' den' * binade :=
      Nat.mul_le_mul_right _ hlt
    have hbinade : binade = 2 ^ 52 := rfl
    rw [hbinade] at hshift ⊢
    omega

/-! ## The nearest rank -/

/-- **Rounding is monotone.** -/
theorem nearestRank_mono (hden : 0 < den) (hden' : 0 < den') (h : num * den' ≤ num' * den) :
    (nearestRank num den).val ≤ (nearestRank num' den').val := by
  rw [nearestRank_val, nearestRank_val]
  have := gridRank_mono hden hden' h
  omega

/-- A quotient has one nearest rank, however it is written. -/
theorem nearestRank_congr (hden : 0 < den) (hden' : 0 < den') (h : num * den' = num' * den) :
    nearestRank num den = nearestRank num' den' :=
  Fin.ext (le_antisymm (nearestRank_mono hden hden' h.le) (nearestRank_mono hden' hden h.ge))

/-! ## Magnitudes -/

theorem gridShift_of_log2 {shift : Nat} (hlog : num.log2 = 52 + shift) :
    gridShift num 1 = shift := by
  rw [gridShift, Nat.div_one, hlog]
  omega

theorem gridRank_units (rank : Nat) : gridRank (units rank) 1 = rank := by
  have hbinade : binade = 2 ^ 52 := rfl
  unfold units
  split_ifs with h
  · -- the ranks of the finest grid are the numbers of units
    have hlog : gridShift rank 1 = 0 := by
      have hlt : Nat.log 2 rank < 52 + 1 := Nat.log_lt_of_lt_pow' (by decide) (by omega)
      rw [gridShift, Nat.div_one, Nat.log2_eq_log_two]
      omega
    have hround : roundHalfEven rank 1 = rank := by
      simpa using roundHalfEven_mul rank Nat.one_pos
    simp [gridRank, hlog, hround]
  · -- otherwise the significand has 53 bits, of which the rank leaves out the first
    have hdiv := Nat.div_add_mod rank binade
    have hmod : rank % binade < 2 ^ 52 := Nat.mod_lt _ (by decide)
    obtain ⟨e, he⟩ : ∃ e, rank / binade = e + 1 := by
      have hpos : 0 < rank / binade := Nat.div_pos (by omega) (by decide)
      exact ⟨rank / binade - 1, by omega⟩
    generalize rank % binade = fraction at hdiv hmod
    rw [he] at hdiv ⊢
    rw [Nat.add_sub_cancel, Nat.pow_eq]
    have hpow : 0 < 2 ^ e := Nat.two_pow_pos e
    have hlog : ((binade + fraction) * 2 ^ e).log2 = 52 + e := by
      have hne : (binade + fraction) * 2 ^ e ≠ 0 := (Nat.mul_pos (by omega) hpow).ne'
      rw [Nat.log2_eq_iff hne, pow_succ, pow_add]
      constructor
      · exact Nat.mul_le_mul_right _ (by omega)
      · have hlt : (binade + fraction) * 2 ^ e < 2 ^ 53 * 2 ^ e :=
          Nat.mul_lt_mul_of_pos_right (by omega) hpow
        omega
    rw [gridRank, gridShift_of_log2 hlog, Nat.one_mul, roundHalfEven_mul _ hpow]
    rw [Nat.mul_succ, Nat.mul_comm] at hdiv
    omega

/-- **A magnitude rounds to its own rank.** -/
theorem nearestRank_units (rank : Fin (infinityRank + 1)) :
    nearestRank (units rank) 1 = rank := by
  have hle : rank.val ≤ infinityRank := Nat.le_of_lt_succ rank.isLt
  apply Fin.ext
  rw [nearestRank_val, gridRank_units, Nat.min_eq_left hle]

theorem units_zero : units 0 = 0 := rfl

theorem nearestRank_zero : nearestRank 0 1 = 0 := by
  have hzero : nearestRank (units 0) 1 = 0 := nearestRank_units 0
  rwa [units_zero] at hzero

theorem le_nearestRank {rank : Fin (infinityRank + 1)} (hden : 0 < den)
    (h : units rank * den ≤ num) : rank.val ≤ (nearestRank num den).val := by
  have hmono : (nearestRank (units rank) 1).val ≤ (nearestRank num den).val :=
    nearestRank_mono Nat.one_pos hden (by omega)
  rwa [nearestRank_units] at hmono

theorem nearestRank_le {rank : Fin (infinityRank + 1)} (hden : 0 < den)
    (h : num ≤ units rank * den) : (nearestRank num den).val ≤ rank.val := by
  have hmono : (nearestRank num den).val ≤ (nearestRank (units rank) 1).val :=
    nearestRank_mono hden Nat.one_pos (by omega)
  rwa [nearestRank_units] at hmono

theorem units_lt_units {a b : Fin (infinityRank + 1)} (h : a.val < b.val) :
    units a < units b := by
  by_contra hle
  have hrank : b.val ≤ (nearestRank (units a) 1).val := le_nearestRank Nat.one_pos (by omega)
  rw [nearestRank_units] at hrank
  omega

theorem units_le_units {a b : Fin (infinityRank + 1)} (h : a.val ≤ b.val) :
    units a ≤ units b := by
  rcases h.eq_or_lt with heq | hlt
  · rw [heq]
  · exact (units_lt_units hlt).le

end Binary64

end ModalConsole
