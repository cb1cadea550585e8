import Mathlib.Tactic.Linarith
import Mathlib.Tactic.SplitIfs
import ModalConsole.Screen.Cells

/-!
# Pixels and cells along one axis

Along one axis of an area, `extent` pixels are spread evenly over `cells` cells. Cell `n` begins at
pixel `n * extent / cells`, which need not be whole, so places are compared without division: the
start of a cell as `n * extent`, a pixel as `pixel * cells`.

* `Axis.le_scale_iff`, `Axis.lt_scaleEnd_iff`: what `scale` and `scaleEnd` round. All else that is
  said of them follows from these two.
* `middle`: the pixel in the middle of a cell. `Axis.scale_middle_le`, `Axis.scale_middle`: the cell
  that it lies in is not behind, and on an axis with two pixels for each cell it is the same one.
* **`Axis.lt_scaleEnd_of_middle_le`**, **`Axis.scale_le_of_le_middle`**: an interval that holds the
  middle of a cell is drawn on the cell. `Axis.le_middle_of_scale_lt`,
  `Axis.middle_le_of_lt_scaleEnd`: of the cells that an interval is drawn on, only those at its ends
  can have their middle outside.
-/

namespace ModalConsole

/-! ## Clamping -/

section Clamp

variable {low high n : Int}

theorem clampInt_bounds (h : low ≤ high) (n : Int) :
    low ≤ clampInt low high n ∧ clampInt low high n ≤ high := by
  unfold clampInt
  omega

theorem clampInt_of_mem (hlow : low ≤ n) (hhigh : n ≤ high) : clampInt low high n = n := by
  unfold clampInt
  omega

theorem clampInt_mono {m : Int} (h : n ≤ m) : clampInt low high n ≤ clampInt low high m := by
  unfold clampInt
  omega

end Clamp

namespace Screen

/-- Pixels that are spread over cells of a grid. -/
structure Axis (extent : Int) (cells : Nat) : Prop where
  extent_pos : 0 < extent
  cells_pos : 0 < cells
  cells_le : cells ≤ maxCoordinate

namespace Axis

variable {extent value value' : Int} {cells n cell : Nat}

/-! ## Rounding down and up -/

/-- A cell is not behind the one that a pixel lies in iff it begins at the pixel or before. -/
theorem le_scale_iff (h : Axis extent cells) : n ≤ scale value extent cells ↔
    (n : Int) * extent ≤ clampInt 0 (extent - 1) value * cells := by
  have hpos := h.extent_pos
  have hcells := h.cells_pos
  have hgrid := h.cells_le
  obtain ⟨hlow, hhigh⟩ := clampInt_bounds (show 0 ≤ extent - 1 by omega) value
  have hoff : (decide (extent ≤ 0) || decide (cells = 0)) = false := by
    simp only [Bool.or_eq_false_iff, decide_eq_false_iff_not]
    omega
  rw [← Int.le_ediv_iff_mul_le hpos]
  simp only [scale, asCoordinate, hoff, Bool.false_eq_true, if_false]
  generalize clampInt 0 (extent - 1) value = pixel at hlow hhigh
  have hnonneg : 0 ≤ pixel * cells / extent :=
    Int.ediv_nonneg (Int.mul_nonneg hlow (Int.natCast_nonneg cells)) hpos.le
  have hlt : pixel * cells / extent < cells := by
    refine Int.ediv_lt_of_lt_mul hpos ?_
    nlinarith
  split_ifs <;> omega

/-- A cell is before the end of an interval iff it begins before the end. -/
theorem lt_scaleEnd_iff (h : Axis extent cells) : n < scaleEnd value extent cells ↔
    (n : Int) * extent < clampInt 0 extent value * cells := by
  have hpos := h.extent_pos
  have hgrid := h.cells_le
  obtain ⟨hlow, hhigh⟩ := clampInt_bounds hpos.le value
  simp only [scaleEnd, asCoordinate, if_neg (not_le.mpr hpos)]
  generalize clampInt 0 extent value = pixel at hlow hhigh
  have hnonneg : 0 ≤ (pixel * cells + extent - 1) / extent := by
    refine Int.ediv_nonneg ?_ hpos.le
    have := Int.mul_nonneg hlow (Int.natCast_nonneg cells)
    omega
  have hle : (pixel * cells + extent - 1) / extent ≤ cells := by
    refine Int.lt_add_one_iff.mp (Int.ediv_lt_of_lt_mul hpos ?_)
    nlinarith
  have hround : (n : Int) + 1 ≤ (pixel * cells + extent - 1) / extent ↔
      (n : Int) * extent < pixel * cells := by
    rw [Int.le_ediv_iff_mul_le hpos, Int.add_mul]
    omega
  rw [← hround]
  split_ifs <;> omega

theorem scale_lt (h : Axis extent cells) : scale value extent cells < cells := by
  have hpos := h.extent_pos
  have hhigh := (clampInt_bounds (show 0 ≤ extent - 1 by omega) value).2
  have hcells := h.cells_pos
  rw [← not_le, h.le_scale_iff, not_le]
  nlinarith

theorem scaleEnd_le (h : Axis extent cells) : scaleEnd value extent cells ≤ cells := by
  have hhigh := (clampInt_bounds h.extent_pos.le value).2
  rw [← not_lt, h.lt_scaleEnd_iff, not_lt, Int.mul_comm (cells : Int)]
  exact Int.mul_le_mul_of_nonneg_right hhigh (Int.natCast_nonneg cells)

theorem scale_mono (h : Axis extent cells) (hle : value ≤ value') :
    scale value extent cells ≤ scale value' extent cells := by
  rw [h.le_scale_iff]
  have hself := h.le_scale_iff.mp (le_refl (scale value extent cells))
  exact hself.trans
    (Int.mul_le_mul_of_nonneg_right (clampInt_mono hle) (Int.natCast_nonneg cells))

theorem scaleEnd_mono (h : Axis extent cells) (hle : value ≤ value') :
    scaleEnd value extent cells ≤ scaleEnd value' extent cells := by
  rw [← not_lt, h.lt_scaleEnd_iff, not_lt]
  have hself := not_lt.mp (mt h.lt_scaleEnd_iff.mpr (lt_irrefl (scaleEnd value' extent cells)))
  exact (Int.mul_le_mul_of_nonneg_right (clampInt_mono hle) (Int.natCast_nonneg cells)).trans hself

/-- What begins before the screen begins in the first cell. -/
theorem scale_of_nonpos (h : Axis extent cells) (hvalue : value ≤ 0) :
    scale value extent cells = 0 := by
  have hpos := h.extent_pos
  have hclamp : clampInt 0 (extent - 1) value = 0 := by
    unfold clampInt
    omega
  rw [← Nat.lt_one_iff, ← not_le, h.le_scale_iff, hclamp]
  omega

/-- What begins before an end on the screen or behind it begins in a cell before that end. -/
theorem scale_lt_scaleEnd (h : Axis extent cells) (hlt : value < value') (hpos : 0 < value') :
    scale value extent cells < scaleEnd value' extent cells := by
  have hextent := h.extent_pos
  have hcells : (0 : Int) < cells := by exact_mod_cast h.cells_pos
  have hclamp : clampInt 0 (extent - 1) value < clampInt 0 extent value' := by
    unfold clampInt
    omega
  rw [h.lt_scaleEnd_iff]
  exact (h.le_scale_iff.mp (le_refl (scale value extent cells))).trans_lt
    (Int.mul_lt_mul_of_pos_right hclamp hcells)

end Axis

/-! ## The middle of a cell -/

/-- The pixel in the middle of a cell. -/
def middle (cell : Nat) (extent : Int) (cells : Nat) : Int :=
  (2 * (cell : Int) + 1) * extent / (2 * cells)

namespace Axis

variable {extent value : Int} {cells cell : Nat}

/-- The middle of a cell, rounded down to a pixel. -/
theorem middle_bounds (h : Axis extent cells) (cell : Nat) :
    2 * (middle cell extent cells * cells) ≤ 2 * (cell * extent) + extent ∧
      2 * (cell * extent) + extent < 2 * (middle cell extent cells * cells) + 2 * cells := by
  have hcells : (0 : Int) < 2 * cells := by
    have := h.cells_pos
    omega
  have hle := Int.ediv_mul_le ((2 * (cell : Int) + 1) * extent) hcells.ne'
  have hlt := Int.lt_ediv_add_one_mul_self ((2 * (cell : Int) + 1) * extent) hcells
  unfold middle
  constructor <;> linarith

/-- The middle of a cell lies on the axis. -/
theorem middle_mem (h : Axis extent cells) (hcell : cell < cells) :
    0 ≤ middle cell extent cells ∧ middle cell extent cells < extent := by
  have hpos := h.extent_pos
  have hcells : (0 : Int) < cells := by exact_mod_cast h.cells_pos
  obtain ⟨hle, -⟩ := h.middle_bounds cell
  constructor
  · unfold middle
    positivity
  · have hcell : (cell : Int) + 1 ≤ cells := by exact_mod_cast hcell
    nlinarith

theorem clampInt_middle (h : Axis extent cells) (hcell : cell < cells) :
    clampInt 0 (extent - 1) (middle cell extent cells) = middle cell extent cells := by
  obtain ⟨hnonneg, hlt⟩ := h.middle_mem hcell
  exact clampInt_of_mem hnonneg (by omega)

/-- The cell that the middle of a cell lies in is not behind it. -/
theorem scale_middle_le (h : Axis extent cells) (hcell : cell < cells) :
    scale (middle cell extent cells) extent cells ≤ cell := by
  obtain ⟨hle, -⟩ := h.middle_bounds cell
  have hpos := h.extent_pos
  rw [← Nat.lt_succ_iff, ← not_le, h.le_scale_iff, h.clampInt_middle hcell]
  push_cast
  linarith

/-- With a pixel for each cell, the middle of a cell lies in it or in the one before. -/
theorem le_scale_middle_succ (h : Axis extent cells) (hcell : cell < cells)
    (hwide : cells ≤ extent) : cell ≤ scale (middle cell extent cells) extent cells + 1 := by
  obtain ⟨-, hlt⟩ := h.middle_bounds cell
  cases cell with
  | zero => exact Nat.zero_le _
  | succ cell =>
    rw [Nat.add_le_add_iff_right, h.le_scale_iff, h.clampInt_middle hcell]
    push_cast at hlt ⊢
    linarith

/-- With two pixels for each cell, the middle of a cell lies behind its start. -/
theorem start_lt_middle (h : Axis extent cells) (cell : Nat) (hfine : 2 * cells ≤ extent) :
    (cell : Int) * extent < middle cell extent cells * cells := by
  obtain ⟨-, hlt⟩ := h.middle_bounds cell
  linarith

/-- **With two pixels for each cell, the middle of a cell lies in it.** -/
theorem scale_middle (h : Axis extent cells) (hcell : cell < cells) (hfine : 2 * cells ≤ extent) :
    scale (middle cell extent cells) extent cells = cell := by
  refine le_antisymm (h.scale_middle_le hcell) ?_
  rw [h.le_scale_iff, h.clampInt_middle hcell]
  exact (h.start_lt_middle cell hfine).le

/-! ## Intervals that hold the middle of a cell -/

/-- An interval that begins before the middle of a cell is drawn from there on. -/
theorem scale_le_of_le_middle (h : Axis extent cells) (hcell : cell < cells)
    (hle : value ≤ middle cell extent cells) : scale value extent cells ≤ cell :=
  (h.scale_mono hle).trans (h.scale_middle_le hcell)

/-- An interval that ends behind the middle of a cell is drawn up to it. -/
theorem lt_scaleEnd_of_middle_le (h : Axis extent cells) (hcell : cell < cells)
    (hfine : 2 * cells ≤ extent) (hle : middle cell extent cells ≤ value) :
    cell < scaleEnd value extent cells := by
  obtain ⟨hnonneg, hlt⟩ := h.middle_mem hcell
  have hclamp : middle cell extent cells ≤ clampInt 0 extent value := by
    unfold clampInt
    omega
  rw [h.lt_scaleEnd_iff]
  exact (h.start_lt_middle cell hfine).trans_le
    (Int.mul_le_mul_of_nonneg_right hclamp (Int.natCast_nonneg cells))

/-- Behind the first cell that an interval is drawn on, the middle of a cell is not before the
interval. -/
theorem le_middle_of_scale_lt (h : Axis extent cells) (hvalue : value < extent)
    (hlt : scale value extent cells < cell) : value ≤ middle cell extent cells := by
  obtain ⟨-, hmiddle⟩ := h.middle_bounds cell
  have hcells : (0 : Int) < cells := by exact_mod_cast h.cells_pos
  have hclamp : value ≤ clampInt 0 (extent - 1) value := by
    unfold clampInt
    omega
  rw [← not_le, h.le_scale_iff, not_le] at hlt
  have hstart : value * cells < middle cell extent cells * cells + cells := by
    have := Int.mul_le_mul_of_nonneg_right hclamp hcells.le
    have := h.extent_pos
    linarith
  by_contra hbefore
  nlinarith

/-- Before the last cell that an interval is drawn on, the middle of a cell is not behind the
interval. -/
theorem middle_le_of_lt_scaleEnd (h : Axis extent cells)
    (hlt : cell + 1 < scaleEnd value extent cells) : middle cell extent cells ≤ value := by
  obtain ⟨hmiddle, -⟩ := h.middle_bounds cell
  have hpos := h.extent_pos
  have hcells : (0 : Int) < cells := by exact_mod_cast h.cells_pos
  rw [h.lt_scaleEnd_iff] at hlt
  push_cast at hlt
  have hclamp : clampInt 0 extent value ≤ value ∨ clampInt 0 extent value = 0 := by
    unfold clampInt
    omega
  rcases hclamp with hle | hzero
  · have hend := Int.mul_le_mul_of_nonneg_right hle hcells.le
    nlinarith
  · -- an interval that ends before the screen has no end to be before
    rw [hzero] at hlt
    nlinarith [Int.natCast_nonneg cell]

end Axis

end Screen

end ModalConsole
