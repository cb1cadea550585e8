import Mathlib.Tactic.Linarith
import ModalConsole.Proofs.Binary64.Rounding

/-!
# The magnitude that a quotient is rounded to

`nearestRank` gives the place of a magnitude in the list of all of them. Its units are a multiple of
the width of the grid that it was rounded on.

* `IsNearest.of_mul`: what is nearest to a quotient is nearest to it in lower terms.
* `units_point`: the magnitude at a point of a grid.
* **`units_nearestRank`**: the units of the nearest magnitude, unless that is infinite.
* **`unitsOfOne_dvd_units_nearestRank`**: whole numbers are rounded to whole numbers.
-/

namespace ModalConsole

/-- What is nearest to a quotient is nearest to it in lower terms. -/
theorem IsNearest.of_mul {num den r c : Nat} (hc : 0 < c) (h : IsNearest (c * num) (c * den) r) :
    IsNearest num den r := by
  obtain ⟨hle, hge, heven⟩ := h
  refine ⟨Nat.le_of_mul_le_mul_left ?_ hc, Nat.le_of_mul_le_mul_left ?_ hc, fun htie => heven ?_⟩
  · linarith
  · linarith
  · rcases htie with hup | hdown
    · exact Or.inl (by linarith [congrArg (c * ·) hup])
    · exact Or.inr (by linarith [congrArg (c * ·) hdown])

namespace Binary64

variable {num den : Nat}

/-- A point of a grid that is no finer than needed has itself as its magnitude. -/
theorem units_point {shift point : Nat} (hlow : shift = 0 ∨ 2 ^ 52 ≤ point)
    (hhigh : point ≤ 2 ^ 53) : units (shift * binade + point) = point * 2 ^ shift := by
  have hbinade : binade = 2 ^ 52 := rfl
  have hpos : 0 < binade := by decide
  rcases lt_or_ge point (2 ^ 52) with hsmall | hlarge
  · obtain rfl : shift = 0 := hlow.resolve_right (by omega)
    rw [Nat.zero_mul, Nat.zero_add, units, if_pos (by omega), pow_zero, Nat.mul_one]
  · -- the significand without its first bit, or the first point of the next grid
    obtain ⟨fraction, rfl⟩ := Nat.exists_eq_add_of_le hlarge
    rcases hhigh.eq_or_lt with hlast | hinner
    · have hrank : shift * binade + (2 ^ 52 + fraction) = (shift + 2) * binade := by
        rw [hlast, hbinade]
        ring
      rw [hrank, hlast, units, if_neg (by rw [Nat.add_mul]; omega), Nat.mul_mod_left,
        Nat.mul_div_cancel _ hpos, Nat.pow_eq, hbinade, show shift + 2 - 1 = shift + 1 from rfl]
      ring
    · have hrank : shift * binade + (2 ^ 52 + fraction) = fraction + (shift + 1) * binade := by
        rw [← hbinade]
        ring
      have hmod : fraction < binade := by omega
      rw [hrank, units, if_neg (by rw [Nat.add_mul]; omega), Nat.add_mul_mod_self_right,
        Nat.mod_eq_of_lt hmod, Nat.add_mul_div_right _ _ hpos, Nat.div_eq_of_lt hmod, Nat.pow_eq,
        Nat.zero_add, Nat.add_sub_cancel, hbinade]

/-- **The units of the nearest magnitude.** -/
theorem units_nearestRank (hden : 0 < den) (hfinite : (nearestRank num den).val < infinityRank) :
    units (nearestRank num den) =
      roundHalfEven num (den * 2 ^ gridShift num den) * 2 ^ gridShift num den := by
  have hgrid : 0 < den * 2 ^ gridShift num den := Nat.mul_pos hden (Nat.two_pow_pos _)
  have hrank : (nearestRank num den).val = gridRank num den := by
    rw [nearestRank_val] at hfinite ⊢
    omega
  rw [hrank, gridRank]
  refine units_point ?_ (roundHalfEven_le hgrid (lt_of_gridShift hden).le)
  rcases Nat.eq_zero_or_pos (gridShift num den) with hzero | hpos
  · exact Or.inl hzero
  · exact Or.inr (le_roundHalfEven hgrid (le_of_gridShift hden hpos))

/-- The width of a grid divides one, or one divides it. -/
theorem unitsOfOne_dvd_or_dvd (shift : Nat) :
    unitsOfOne ∣ 2 ^ shift ∨ 2 ^ shift ∣ unitsOfOne := by
  unfold unitsOfOne
  generalize 1074 = exponent
  exact (le_total exponent shift).imp (Nat.pow_dvd_pow 2) (Nat.pow_dvd_pow 2)

theorem unitsOfOne_dvd_pow {shift : Nat} (h : 1074 ≤ shift) : unitsOfOne ∣ 2 ^ shift := by
  revert h
  unfold unitsOfOne
  generalize 1074 = exponent
  exact Nat.pow_dvd_pow 2

theorem pow_mul_pow_eq {a b : Nat} (h : a + b = 1074) : 2 ^ a * 2 ^ b = unitsOfOne := by
  revert h
  unfold unitsOfOne
  generalize 1074 = exponent
  rintro rfl
  exact (Nat.pow_add 2 a b).symm

/-- **Whole numbers are rounded to whole numbers.** -/
theorem unitsOfOne_dvd_units_nearestRank (hwhole : unitsOfOne ∣ num)
    (hfinite : (nearestRank num 1).val < infinityRank) :
    unitsOfOne ∣ units (nearestRank num 1) := by
  rw [units_nearestRank Nat.one_pos hfinite, Nat.one_mul]
  generalize gridShift num 1 = shift
  rcases unitsOfOne_dvd_or_dvd shift with hcoarse | hfine
  · exact hcoarse.mul_left _
  · -- on a grid that is finer than one, a whole number is a point
    obtain ⟨point, rfl⟩ := hfine.trans hwhole
    rwa [Nat.mul_comm _ point, roundHalfEven_mul _ (Nat.two_pow_pos shift),
      Nat.mul_comm]

end Binary64

end ModalConsole
