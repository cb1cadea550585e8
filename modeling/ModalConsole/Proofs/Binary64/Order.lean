import ModalConsole.Proofs.Binary64.Rounding

/-!
# How arithmetic keeps the order

Numbers that are not negative have the order of their magnitudes, and infinity is a magnitude like
the others: a sum or a product that reaches it is rounded to it (`add_signed`, `mul_signed`).

* `zero_le_iff`, `one_le_iff`: which numbers are at least zero or one.
* **`le_add_signed`**: adding what is not negative never decreases. **`one_le_mul`**: the product of
  two numbers that are at least one is at least one. **`zero_le_sub`**: what is less can be taken
  away. **`isFinite_add`**: a small amount leaves a finite number finite.
* `add_mono`, `mul_mono`, `sub_signed_le`: sums and products are monotone, and what is taken away
  lowers. `isFinite_of_le`: what is below a finite number is finite.
-/

namespace ModalConsole.Binary64

variable {x y z : Binary64} {a b : Fin (infinityRank + 1)}

/-! ## The order -/

theorem place_false (a : Fin (infinityRank + 1)) : place false a = a.val := rfl

theorem place_true (a : Fin (infinityRank + 1)) : place true a = -(a.val : Int) := rfl

theorem le_signed_iff {s t : Bool} :
    (signed s a).le (signed t b) = true ↔ place s a ≤ place t b :=
  decide_eq_true_iff

theorem lt_signed_iff {s t : Bool} :
    (signed s a).lt (signed t b) = true ↔ place s a < place t b :=
  decide_eq_true_iff

theorem signed_le_signed_iff : (signed false a).le (signed false b) = true ↔ a.val ≤ b.val := by
  rw [le_signed_iff, place_false, place_false, Int.ofNat_le]

theorem le_trans (hxy : x.le y = true) (hyz : y.le z = true) : x.le z = true := by
  cases x with
  | nan => cases hxy
  | signed s a =>
    cases y with
    | nan => cases hxy
    | signed t b =>
      cases z with
      | nan => cases hyz
      | signed u c =>
        rw [le_signed_iff] at *
        omega

/-- What is compared at all is at least itself. -/
theorem le_self_of_le (h : x.le y = true) : y.le y = true := by
  cases y with
  | nan => cases x <;> cases h
  | signed s a =>
    rw [le_signed_iff]

/-- The rank of one. -/
def oneRank : Fin (infinityRank + 1) := nearestRank (1 * unitsOfOne) 1

theorem one_eq : one = signed false oneRank := rfl

theorem units_oneRank : units oneRank = unitsOfOne := by
  have hrank := nearestRank_units ⟨1023 * binade, by decide⟩
  rw [units_one] at hrank
  rw [oneRank, Nat.one_mul, hrank]
  exact units_one

theorem zero_eq : zero = signed false 0 := by
  rw [zero, ofNat, ofUnits, Nat.zero_mul, nearestRank_zero]

theorem zero_le_signed (a : Fin (infinityRank + 1)) : zero.le (signed false a) = true := by
  rw [zero_eq, signed_le_signed_iff]
  exact Nat.zero_le _

theorem zero_le_iff : zero.le x = true ↔ (∃ a, x = signed false a) ∨ x = signed true 0 := by
  constructor
  · intro h
    cases x with
    | nan => cases h
    | signed s a =>
      cases s with
      | false => exact Or.inl ⟨a, rfl⟩
      | true =>
        rw [zero_eq, le_signed_iff, place_false, place_true] at h
        have ha : a = 0 := by
          apply Fin.ext
          have : (0 : Fin (infinityRank + 1)).val = 0 := rfl
          omega
        rw [ha]
        exact Or.inr rfl
  · rintro (⟨a, rfl⟩ | rfl)
    · exact zero_le_signed a
    · rw [zero_eq, le_signed_iff]
      decide

/-- What is at least zero is a number that is not below zero. -/
theorem zero_le_iff_not_lt : zero.le x = true ↔ x ≠ nan ∧ x.lt zero = false := by
  cases x with
  | nan => simp [zero_eq, le]
  | signed s a =>
    rw [zero_eq, le_signed_iff, ← Bool.not_eq_true, lt_signed_iff]
    simp

theorem one_le_iff : one.le x = true ↔ ∃ a, x = signed false a ∧ unitsOfOne ≤ units a := by
  rw [one_eq]
  constructor
  · intro h
    cases x with
    | nan => cases h
    | signed s a =>
      cases s with
      | false =>
        have hunits := units_le_units (signed_le_signed_iff.mp h)
        rw [units_oneRank] at hunits
        exact ⟨a, rfl, hunits⟩
      | true =>
        have hone : 0 < oneRank.val := by
          refine Nat.pos_of_ne_zero fun hzero => unitsOfOne_pos.ne ?_
          rw [← units_oneRank, hzero, units_zero]
        rw [le_signed_iff, place_false, place_true] at h
        omega
  · rintro ⟨a, rfl, ha⟩
    rw [signed_le_signed_iff]
    by_contra hlt
    have := units_lt_units (not_le.mp hlt)
    rw [units_oneRank] at this
    omega

theorem zero_le_one : zero.le one = true := zero_le_signed oneRank

/-! ## Sums -/

theorem nearestRank_eq_last {num den : Nat} (hden : 0 < den)
    (h : units infinityRank * den ≤ num) : nearestRank num den = Fin.last infinityRank := by
  have hle : (Fin.last infinityRank).val ≤ (nearestRank num den).val := le_nearestRank hden h
  exact Fin.ext (le_antisymm (Fin.is_le _) hle)

theorem add_signed (a b : Fin (infinityRank + 1)) :
    signed false a + signed false b = signed false (nearestRank (units a + units b) 1) := by
  show add _ _ = _
  by_cases ha : a.val = infinityRank
  · have hlast : a = Fin.last infinityRank := Fin.ext ha
    rw [nearestRank_eq_last Nat.one_pos (by rw [ha]; omega)]
    simp [add, hlast]
  by_cases hb : b.val = infinityRank
  · have hlast : b = Fin.last infinityRank := Fin.ext hb
    rw [nearestRank_eq_last Nat.one_pos (by rw [hb]; omega)]
    simp [add, ha, hlast]
  have hsum : signedUnits false a + signedUnits false b = ((units a + units b : Nat) : Int) := by
    simp [signedUnits]
  simp only [add, ha, hb, if_false, hsum, Int.natAbs_natCast]
  split_ifs with hzero
  · have hzero : units a + units b = units (0 : Fin (infinityRank + 1)) := by
      exact_mod_cast hzero
    rw [hzero, nearestRank_units]
    rfl
  · have hneg : decide (((units a + units b : Nat) : Int) < 0) = false :=
      decide_eq_false (by omega)
    rw [hneg]
    rfl

/-- A zero that is negative adds nothing. -/
theorem negative_zero_add (b : Fin (infinityRank + 1)) :
    signed true 0 + signed false b = signed false b := by
  show add _ _ = _
  have hfinite : (0 : Fin (infinityRank + 1)).val ≠ infinityRank := by decide
  have hsum : signedUnits true 0 + signedUnits false b = (units b : Int) := by
    simp [signedUnits, units_zero]
  simp only [add, hfinite, if_false, hsum, Int.natAbs_natCast]
  split_ifs with hb hzero
  · rfl
  · have hzero : units b = units (0 : Fin (infinityRank + 1)) := by
      exact_mod_cast hzero
    rw [← nearestRank_units b, hzero, nearestRank_units]
    rfl
  · have hneg : decide ((units b : Int) < 0) = false := decide_eq_false (by omega)
    rw [hneg, ofUnits, nearestRank_units]

/-- **Adding what is not negative never decreases.** -/
theorem le_add_signed (hx : zero.le x = true) (b : Fin (infinityRank + 1)) :
    x.le (x + signed false b) = true := by
  rcases zero_le_iff.mp hx with ⟨a, rfl⟩ | rfl
  · rw [add_signed, signed_le_signed_iff]
    exact le_nearestRank Nat.one_pos (by omega)
  · rw [negative_zero_add]
    rw [le_signed_iff, place_false, place_true]
    omega

theorem isFinite_iff {s : Bool} : (signed s a).isFinite = true ↔ a.val < infinityRank := by
  have := a.isLt
  simp only [isFinite, bne_iff_ne, ne_eq]
  omega

/-- The amount of twelve is too small to lead from the greatest finite number to infinity. -/
theorem nearestRank_add_twelve : (nearestRank
    (units (infinityRank - 1) + units (nearestRank (12 * unitsOfOne) 1)) 1).val < infinityRank := by
  decide +kernel

/-- **A finite number stays finite when a small amount is added.** -/
theorem isFinite_add (hx : (signed false a).isFinite = true)
    (hb : (signed false b).le (ofNat 12) = true) :
    (signed false a + signed false b).isFinite = true := by
  rw [isFinite_iff] at hx
  have ha : units a ≤ units (infinityRank - 1) :=
    units_le_units (b := ⟨infinityRank - 1, by omega⟩) (by simp only; omega)
  have hb := units_le_units (signed_le_signed_iff.mp hb)
  rw [add_signed, isFinite_iff]
  exact (nearestRank_mono Nat.one_pos Nat.one_pos (by omega)).trans_lt nearestRank_add_twelve

/-- In sums and in comparisons, a number that is not negative counts as its magnitude. -/
theorem exists_magnitude (hx : zero.le x = true) : ∃ a,
    (∀ b, x + signed false b = signed false a + signed false b) ∧
    (∀ y : Binary64, x.le y = (signed false a).le y) ∧
    ∀ y : Binary64, y.le x = y.le (signed false a) := by
  rcases zero_le_iff.mp hx with ⟨a, rfl⟩ | rfl
  · exact ⟨a, fun _ => rfl, fun _ => rfl, fun _ => rfl⟩
  · refine ⟨0, fun b => ?_, fun y => ?_, fun y => ?_⟩
    · have hsum : units (0 : Fin (infinityRank + 1)) + units b = units b := Nat.zero_add _
      rw [negative_zero_add, add_signed, hsum, nearestRank_units]
    · cases y <;> rfl
    · cases y <;> rfl

/-- **Sums of numbers that are not negative are monotone.** -/
theorem add_mono {x' y' : Binary64} (hx : zero.le x = true) (hy : one.le y = true)
    (hxx' : x.le x' = true) (hyy' : y.le y' = true) : (x + y).le (x' + y') = true := by
  obtain ⟨a, hadd, hle, -⟩ := exists_magnitude hx
  obtain ⟨a', hadd', -, hge⟩ := exists_magnitude (le_trans hx hxx')
  obtain ⟨b, rfl, -⟩ := one_le_iff.mp hy
  obtain ⟨b', rfl, -⟩ := one_le_iff.mp (le_trans hy hyy')
  rw [hle, hge] at hxx'
  have hunits := units_le_units (signed_le_signed_iff.mp hxx')
  have hunits' := units_le_units (signed_le_signed_iff.mp hyy')
  rw [hadd, hadd', add_signed, add_signed, signed_le_signed_iff]
  exact nearestRank_mono Nat.one_pos Nat.one_pos (by omega)

theorem isFinite_of_le (hx : zero.le x = true) (hxy : x.le y = true) (hy : y.isFinite = true) :
    x.isFinite = true := by
  rcases zero_le_iff.mp hx with ⟨a, rfl⟩ | rfl
  · cases y with
    | nan => cases hxy
    | signed t b =>
      rw [isFinite_iff] at hy ⊢
      rw [le_signed_iff, place_false] at hxy
      cases t with
      | true =>
        rw [place_true] at hxy
        omega
      | false =>
        rw [place_false] at hxy
        omega
  · rw [isFinite_iff]
    decide

/-! ## Products and differences -/

theorem mul_signed (ha : unitsOfOne ≤ units a) (hb : unitsOfOne ≤ units b) :
    signed false a * signed false b =
      signed false (nearestRank (units a * units b) unitsOfOne) := by
  have hpos : ∀ {c : Fin (infinityRank + 1)}, unitsOfOne ≤ units c → c.val ≠ 0 := by
    intro c hc hzero
    rw [hzero] at hc
    exact absurd unitsOfOne_pos (not_lt.mpr hc)
  show mul _ _ = _
  simp only [mul, hpos ha, hpos hb, decide_false, Bool.or_self, Bool.false_eq_true, if_false]
  split_ifs with hinf
  · -- infinity times what is at least one
    have hle : units infinityRank * unitsOfOne ≤ units a * units b := by
      rcases Bool.or_eq_true _ _ ▸ hinf with h | h
      · have hunits := congrArg units (of_decide_eq_true h)
        rw [← hunits]
        exact Nat.mul_le_mul_left _ hb
      · have hunits := congrArg units (of_decide_eq_true h)
        rw [← hunits, Nat.mul_comm (units a)]
        exact Nat.mul_le_mul_left _ ha
    rw [nearestRank_eq_last unitsOfOne_pos hle]
    rfl
  · rfl

/-- **The product of two numbers that are at least one is at least one.** -/
theorem one_le_mul (hx : one.le x = true) (hy : one.le y = true) : one.le (x * y) = true := by
  obtain ⟨a, rfl, ha⟩ := one_le_iff.mp hx
  obtain ⟨b, rfl, hb⟩ := one_le_iff.mp hy
  rw [mul_signed ha hb, one_eq, signed_le_signed_iff]
  refine le_nearestRank unitsOfOne_pos ?_
  rw [units_oneRank]
  exact Nat.mul_le_mul ha hb

/-- Products of numbers that are at least one are monotone. -/
theorem mul_mono {x' y' : Binary64} (hx : one.le x = true) (hy : one.le y = true)
    (hxx' : x.le x' = true) (hyy' : y.le y' = true) : (x * y).le (x' * y') = true := by
  obtain ⟨a, rfl, ha⟩ := one_le_iff.mp hx
  obtain ⟨b, rfl, hb⟩ := one_le_iff.mp hy
  obtain ⟨a', rfl, ha'⟩ := one_le_iff.mp (le_trans hx hxx')
  obtain ⟨b', rfl, hb'⟩ := one_le_iff.mp (le_trans hy hyy')
  have hunits := units_le_units (signed_le_signed_iff.mp hxx')
  have hunits' := units_le_units (signed_le_signed_iff.mp hyy')
  rw [mul_signed ha hb, mul_signed ha' hb', signed_le_signed_iff]
  refine nearestRank_mono unitsOfOne_pos unitsOfOne_pos (Nat.mul_le_mul_right _ ?_)
  exact Nat.mul_le_mul hunits hunits'

theorem sub_signed (ha : a.val ≠ infinityRank) (h : b.val < a.val) :
    signed false a - signed false b = signed false (nearestRank (units a - units b) 1) := by
  have hb : b.val ≠ infinityRank := by
    have := a.isLt
    omega
  have hunits := units_lt_units h
  have hdiff :
      signedUnits false a + signedUnits (!false) b = ((units a - units b : Nat) : Int) := by
    simp only [signedUnits, Bool.not_false, if_true, Bool.false_eq_true, if_false]
    omega
  have hneg : decide (((units a - units b : Nat) : Int) < 0) = false := decide_eq_false (by omega)
  show add (signed false a) (neg (signed false b)) = _
  simp only [neg, add, ha, hb, if_false, hdiff, hneg, Int.natAbs_natCast]
  rw [if_neg (by omega)]
  rfl

/-- **What is less can be taken away.** -/
theorem zero_le_sub (h : (signed false b).lt x = true) : zero.le (x - signed false b) = true := by
  cases x with
  | nan => cases h
  | signed s a =>
    cases s with
    | true =>
      rw [lt_signed_iff, place_false, place_true] at h
      omega
    | false =>
      rw [lt_signed_iff, place_false, place_false, Int.ofNat_lt] at h
      by_cases ha : a.val = infinityRank
      · have hb : b.val ≠ infinityRank := by omega
        show zero.le (add (signed false a) (neg (signed false b))) = true
        simp only [neg, add, ha, hb, decide_false, Bool.false_and, Bool.false_eq_true, if_false,
          if_true]
        exact zero_le_signed a
      · rw [sub_signed ha h]
        exact zero_le_signed _

/-- What is taken away from a finite number lowers it. -/
theorem sub_signed_le (hx : x.isFinite = true) (h : (signed false b).lt x = true) :
    (x - signed false b).le x = true := by
  cases x with
  | nan => cases h
  | signed s a =>
    cases s with
    | true =>
      rw [lt_signed_iff, place_false, place_true] at h
      omega
    | false =>
      rw [lt_signed_iff, place_false, place_false, Int.ofNat_lt] at h
      rw [isFinite_iff] at hx
      rw [sub_signed hx.ne h, signed_le_signed_iff]
      exact nearestRank_le Nat.one_pos (by omega)

end ModalConsole.Binary64
