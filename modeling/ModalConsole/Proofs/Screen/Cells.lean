import ModalConsole.Proofs.Screen.Axis

/-!
# Cells and pixels of an area

The two axes of an area together.

* `CellRect.OnGrid`: areas with at least one cell whose coordinates are all on the grid.
* `CellRect.Within`: rectangles that lie within other ones.
* `pixelOf_add`: the pixel of a cell is the middle of it along both axes.
* `touched`: the cells that a region reaches, at least one in each direction. `toCells_eq_touched`:
  it is drawn on these, as long as they are few enough for a rectangle.
* **`cellOf_pixelOf`**: how far the way from a cell to its pixel and back leads.
-/

namespace ModalConsole

/-! ## Areas -/

namespace CellRect

/-- An area on the grid: it has at least one cell, and no coordinate beyond the last. -/
structure OnGrid (area : CellRect) : Prop where
  width_pos : 0 < area.width
  height_pos : 0 < area.height
  right_le : area.right ≤ maxCoordinate
  bottom_le : area.bottom ≤ maxCoordinate

theorem contains_iff {r : CellRect} {column row : Nat} : r.contains column row = true ↔
    (r.x ≤ column ∧ column < r.right) ∧ r.y ≤ row ∧ row < r.bottom := by
  simp only [contains, Bool.and_eq_true, decide_eq_true_eq, and_assoc]

/-- A cell of a rectangle is some columns and rows behind the first one. -/
theorem exists_of_contains {r : CellRect} {column row : Nat} (h : r.contains column row = true) :
    ∃ i j, (i < r.width ∧ j < r.height) ∧ column = r.x + i ∧ row = r.y + j := by
  obtain ⟨⟨hleft, hcolumn⟩, htop, hrow⟩ := contains_iff.mp h
  obtain ⟨i, rfl⟩ := Nat.exists_eq_add_of_le hleft
  obtain ⟨j, rfl⟩ := Nat.exists_eq_add_of_le htop
  exact ⟨i, j, ⟨Nat.lt_of_add_lt_add_left hcolumn, Nat.lt_of_add_lt_add_left hrow⟩, rfl, rfl⟩

/-- A rectangle lies within another one. -/
structure Within (inner outer : CellRect) : Prop where
  x_le : outer.x ≤ inner.x
  right_le : inner.right ≤ outer.right
  y_le : outer.y ≤ inner.y
  bottom_le : inner.bottom ≤ outer.bottom

theorem Within.refl (r : CellRect) : r.Within r := ⟨le_rfl, le_rfl, le_rfl, le_rfl⟩

theorem Within.contains {inner outer : CellRect} {column row : Nat} (h : inner.Within outer)
    (hcell : inner.contains column row = true) : outer.contains column row = true := by
  obtain ⟨⟨hleft, hright⟩, htop, hbottom⟩ := contains_iff.mp hcell
  exact contains_iff.mpr ⟨⟨h.x_le.trans hleft, hright.trans_le h.right_le⟩,
    h.y_le.trans htop, hbottom.trans_le h.bottom_le⟩

theorem fitted_of_le {width height : Nat} (h : width * height ≤ maxCells) (x y : Nat) :
    fitted x y width height = ⟨x, y, width, height⟩ := by
  simp only [fitted, fittingSize, if_pos h]

end CellRect

namespace Screen

variable {size : PixelSize} {area : CellRect} {r : Region} {column row : Nat}

theorem axis_columns (h : area.OnGrid) (hsize : 0 < size.width) : Axis size.width area.width :=
  ⟨hsize, h.width_pos, (Nat.le_add_left _ _).trans h.right_le⟩

theorem axis_rows (h : area.OnGrid) (hsize : 0 < size.height) : Axis size.height area.height :=
  ⟨hsize, h.height_pos, (Nat.le_add_left _ _).trans h.bottom_le⟩

/-! ## The pixel of a cell -/

/-- The pixel of a cell, or of the nearest one in the area. -/
theorem pixelOf_eq (hcolumns : Axis size.width area.width) (hrows : Axis size.height area.height)
    (column row : Nat) : pixelOf column row size area =
      (middle (min (column - area.x) (area.width - 1)) size.width area.width,
        middle (min (row - area.y) (area.height - 1)) size.height area.height) := by
  have hnonneg : ∀ (n : Nat) {extent : Int}, 0 < extent → 0 ≤ (2 * (n : Int) + 1) * extent :=
    fun n _ hpos => by positivity
  simp only [pixelOf, middle, Int.tdiv_eq_ediv_of_nonneg (hnonneg _ hcolumns.extent_pos),
    Int.tdiv_eq_ediv_of_nonneg (hnonneg _ hrows.extent_pos), Nat.max_eq_left hcolumns.cells_pos,
    Nat.max_eq_left hrows.cells_pos]

/-- The pixel of a cell of the area is the middle of it along both axes. -/
theorem pixelOf_add (hcolumns : Axis size.width area.width) (hrows : Axis size.height area.height)
    {i j : Nat} (hi : i < area.width) (hj : j < area.height) :
    pixelOf (area.x + i) (area.y + j) size area =
      (middle i size.width area.width, middle j size.height area.height) := by
  rw [pixelOf_eq hcolumns hrows, Nat.add_sub_cancel_left, Nat.add_sub_cancel_left,
    Nat.min_eq_left (Nat.le_sub_one_of_lt hi), Nat.min_eq_left (Nat.le_sub_one_of_lt hj)]

/-! ## The cells of a region -/

/-- The cell behind those that an interval of pixels is drawn on, of which there is at least one. -/
def spanEnd (start stop extent : Int) (cells : Nat) : Nat :=
  max (scaleEnd stop extent cells) (scale start extent cells + 1)

theorem Axis.spanEnd_le {start stop extent : Int} {cells : Nat} (h : Axis extent cells) :
    spanEnd start stop extent cells ≤ cells :=
  max_le h.scaleEnd_le h.scale_lt

theorem scale_lt_spanEnd (start stop extent : Int) (cells : Nat) :
    scale start extent cells < spanEnd start stop extent cells :=
  Nat.lt_of_succ_le (le_max_right _ _)

/-- The cells of an area that a region reaches, at least one in each direction. -/
def touched (r : Region) (size : PixelSize) (area : CellRect) : CellRect :=
  let column := scale r.x size.width area.width
  let row := scale r.y size.height area.height
  { x := area.x + column
    y := area.y + row
    width := spanEnd r.x r.right size.width area.width - column
    height := spanEnd r.y r.bottom size.height area.height - row }

theorem touched_right (r : Region) (size : PixelSize) (area : CellRect) :
    (touched r size area).right = area.x + spanEnd r.x r.right size.width area.width := by
  have := scale_lt_spanEnd r.x r.right size.width area.width
  simp only [touched, CellRect.right]
  omega

theorem touched_bottom (r : Region) (size : PixelSize) (area : CellRect) :
    (touched r size area).bottom = area.y + spanEnd r.y r.bottom size.height area.height := by
  have := scale_lt_spanEnd r.y r.bottom size.height area.height
  simp only [touched, CellRect.bottom]
  omega

theorem touched_contains_add_iff {i j : Nat} :
    (touched r size area).contains (area.x + i) (area.y + j) = true ↔
      (scale r.x size.width area.width ≤ i ∧ i < spanEnd r.x r.right size.width area.width) ∧
      scale r.y size.height area.height ≤ j ∧ j < spanEnd r.y r.bottom size.height area.height := by
  rw [CellRect.contains_iff, touched_right, touched_bottom]
  simp only [touched, Nat.add_le_add_iff_left, Nat.add_lt_add_iff_left]

theorem touched_width_le (h : Axis size.width area.width) (r : Region) :
    (touched r size area).width ≤ area.width :=
  (Nat.sub_le _ _).trans h.spanEnd_le

theorem touched_height_le (h : Axis size.height area.height) (r : Region) :
    (touched r size area).height ≤ area.height :=
  (Nat.sub_le _ _).trans h.spanEnd_le

/-- The cells that a region reaches are cells of the area. -/
theorem touched_within_area (hcolumns : Axis size.width area.width)
    (hrows : Axis size.height area.height) (r : Region) : (touched r size area).Within area where
  x_le := Nat.le_add_right _ _
  right_le := (touched_right r size area).trans_le (Nat.add_le_add_left hcolumns.spanEnd_le _)
  y_le := Nat.le_add_right _ _
  bottom_le := (touched_bottom r size area).trans_le (Nat.add_le_add_left hrows.spanEnd_le _)

/-- **A region is drawn on the cells that it reaches**, if a rectangle can have so many. -/
theorem toCells_eq_touched (hcolumns : Axis size.width area.width)
    (hrows : Axis size.height area.height)
    (hfits : (touched r size area).width * (touched r size area).height ≤ maxCells) :
    toCells r size area = touched r size area := by
  have hright : spanEnd r.x r.right size.width area.width ≤ area.width := hcolumns.spanEnd_le
  have hbottom : spanEnd r.y r.bottom size.height area.height ≤ area.height := hrows.spanEnd_le
  have hwidth : max (area.x + scaleEnd r.right size.width area.width -
      (area.x + scale r.x size.width area.width)) 1 = (touched r size area).width := by
    simp only [touched, spanEnd]
    omega
  have hheight : max (area.y + scaleEnd r.bottom size.height area.height -
      (area.y + scale r.y size.height area.height)) 1 = (touched r size area).height := by
    simp only [touched, spanEnd]
    omega
  have hclipWidth : min (touched r size area).width
      (area.right - (area.x + scale r.x size.width area.width)) = (touched r size area).width := by
    simp only [touched, CellRect.right]
    omega
  have hclipHeight : min (touched r size area).height
      (area.bottom - (area.y + scale r.y size.height area.height)) =
        (touched r size area).height := by
    simp only [touched, CellRect.bottom]
    omega
  simp only [toCells, cellOf, hwidth, hheight, CellRect.fitted_of_le hfits, CellRect.clip,
    hclipWidth, hclipHeight]
  rfl

/-- On an area that is itself a rectangle, all regions are drawn on the cells that they reach. -/
theorem toCells_eq_touched_of_area (hcolumns : Axis size.width area.width)
    (hrows : Axis size.height area.height) (hcells : area.width * area.height ≤ maxCells)
    (r : Region) : toCells r size area = touched r size area :=
  toCells_eq_touched hcolumns hrows
    ((Nat.mul_le_mul (touched_width_le hcolumns r) (touched_height_le hrows r)).trans hcells)

/-! ## From a cell to its pixel and back -/

/-- **Cells and their pixels.** For every area on the grid and every scene with a pixel, the pixel
of a cell lies on the scene, also for a cell outside of the area. For a cell of the area, the
pixel's cell is never to the right of it or below it; it is the same one if there are two pixels for
each cell, and at most one column and one row off if there is one. -/
theorem cellOf_pixelOf (hgrid : area.OnGrid) (hwidth : 0 < size.width) (hheight : 0 < size.height)
    (column row : Nat) :
    let p := pixelOf column row size area
    let back := cellOf p.1 p.2 size area
    ((0 ≤ p.1 ∧ p.1 < size.width) ∧ 0 ≤ p.2 ∧ p.2 < size.height) ∧
    (area.contains column row = true → (back.1 ≤ column ∧ back.2 ≤ row) ∧
      (2 * area.width ≤ size.width → 2 * area.height ≤ size.height → back = (column, row)) ∧
      (area.width ≤ size.width → area.height ≤ size.height →
        column ≤ back.1 + 1 ∧ row ≤ back.2 + 1)) := by
  intro p back
  have hcolumns := axis_columns hgrid hwidth
  have hrows := axis_rows hgrid hheight
  constructor
  · have hcolumn : min (column - area.x) (area.width - 1) < area.width := by
      have := hgrid.width_pos
      omega
    have hrow : min (row - area.y) (area.height - 1) < area.height := by
      have := hgrid.height_pos
      omega
    rw [show p = _ from pixelOf_eq hcolumns hrows column row]
    exact ⟨hcolumns.middle_mem hcolumn, hrows.middle_mem hrow⟩
  · intro hcell
    obtain ⟨i, j, ⟨hi, hj⟩, rfl, rfl⟩ := CellRect.exists_of_contains hcell
    have hp : p = (middle i size.width area.width, middle j size.height area.height) :=
      pixelOf_add hcolumns hrows hi hj
    have hback : back = (area.x + scale (middle i size.width area.width) size.width area.width,
        area.y + scale (middle j size.height area.height) size.height area.height) := by
      simp only [back, hp, cellOf]
    rw [hback]
    refine ⟨⟨?_, ?_⟩, fun hfine hfine' => ?_, fun hwide htall => ⟨?_, ?_⟩⟩
    · exact Nat.add_le_add_left (hcolumns.scale_middle_le hi) _
    · exact Nat.add_le_add_left (hrows.scale_middle_le hj) _
    · rw [hcolumns.scale_middle hi hfine, hrows.scale_middle hj hfine']
    · exact Nat.add_le_add_left (hcolumns.le_scale_middle_succ hi hwide) _
    · exact Nat.add_le_add_left (hrows.le_scale_middle_succ hj htall) _

/-- A cell of the last row but one, in an area that does not start at the corner of the terminal. -/
theorem cellOf_pixelOf_terminal :
    CellRect.OnGrid ⟨3, 2, 80, 24⟩ ∧ 0 < desktopSize.width ∧ 0 < desktopSize.height ∧
      pixelOf 13 24 desktopSize ⟨3, 2, 80, 24⟩ = (84, 450) ∧
      cellOf 84 450 desktopSize ⟨3, 2, 80, 24⟩ = (13, 24) := by
  have hgrid : CellRect.OnGrid ⟨3, 2, 80, 24⟩ :=
    ⟨by decide, by decide, by decide, by decide⟩
  have hwidth : 0 < desktopSize.width := by decide
  have hheight : 0 < desktopSize.height := by decide
  obtain ⟨-, hcell⟩ := cellOf_pixelOf hgrid hwidth hheight 13 24
  exact ⟨hgrid, hwidth, hheight, by decide, (hcell (by decide)).2.1 (by decide) (by decide)⟩

end Screen

end ModalConsole
