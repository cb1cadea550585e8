import ModalConsole.Proofs.Desktop.Presses
import ModalConsole.Proofs.Screen.Cells

/-!
# Clicks on the cells of a region

A region is drawn on cells, and a click on a cell goes to the pixel in its middle. The cells round
the region outwards, so a click that hits it is on a cell that shows it, but not the other way
round: at an edge of the region a cell can show it with less than half of its width or height.

* `Axis.mem_span_of_middle_mem`, `Axis.middle_mem_iff`: the same for an interval along one axis.
* **`drawn_of_hit`**: what reacts to a click is drawn on the clicked cell.
* `contains_pixelOf_iff`: a cell that shows a region misses it only by an edge on its side.
* **`startButton_clickable_iff`**: which cells of the start button open and close the menu.
-/

namespace ModalConsole

/-! ## What a frame of the pointer hits -/

namespace Desktop

variable {d : Desktop} {p : PointerFrame} {x y : Int}

/-- Only a click on the start button opens or closes the menu. -/
theorem hit_of_toggled {isOpen : Bool} (h : (d.frame p).2 = .toggled isOpen) :
    startButton.contains p.x p.y = true :=
  (toggled_iff.mp h).2.1

/-- Only a click on an item of the open menu activates it. -/
theorem hit_of_activate {item : MenuItem} (h : (d.frame p).2 = .activate item) :
    d.menuOpen = true ∧ item.region.contains p.x p.y = true := by
  obtain ⟨-, hopen, -, hitem⟩ := activate_iff.mp h
  exact ⟨hopen, hitem⟩

/-- A new press opens or closes the menu iff it is on the start button. -/
theorem toggled_iff_of_press (hup : d.buttonDown = false) {key : Option Key}
    (hkey : key ≠ some .escape) :
    (d.frame ⟨x, y, true, key⟩).2 = .toggled (!d.menuOpen) ↔ startButton.contains x y = true := by
  rw [toggled_iff]
  exact ⟨fun h => h.2.1, fun hstart => ⟨⟨rfl, hup, hkey⟩, hstart, rfl⟩⟩

end Desktop

namespace Screen

/-! ## Intervals -/

namespace Axis

variable {start stop extent : Int} {cells cell : Nat}

/-- An interval that holds the middle of a cell is drawn on it. -/
theorem mem_span_of_middle_mem (h : Axis extent cells) (hcell : cell < cells)
    (hfine : 2 * cells ≤ extent) (hstart : start ≤ middle cell extent cells)
    (hstop : middle cell extent cells ≤ stop) :
    scale start extent cells ≤ cell ∧ cell < spanEnd start stop extent cells :=
  ⟨h.scale_le_of_le_middle hcell hstart,
    (h.lt_scaleEnd_of_middle_le hcell hfine hstop).trans_le (le_max_left _ _)⟩

/-- A cell that an interval is drawn on has its middle in the interval, but for the first and the
last one. -/
theorem middle_mem_iff (h : Axis extent cells) (hextent : start < extent)
    (hfirst : scale start extent cells ≤ cell) (hlast : cell < spanEnd start stop extent cells) :
    (start ≤ middle cell extent cells ∧ middle cell extent cells ≤ stop) ↔
      (cell = scale start extent cells → start ≤ middle cell extent cells) ∧
      (cell + 1 = spanEnd start stop extent cells → middle cell extent cells ≤ stop) := by
  refine ⟨fun ⟨hstart, hstop⟩ => ⟨fun _ => hstart, fun _ => hstop⟩, fun ⟨hstart, hstop⟩ => ⟨?_, ?_⟩⟩
  · rcases hfirst.eq_or_lt with heq | hlt
    · exact hstart heq.symm
    · exact h.le_middle_of_scale_lt hextent hlt
  · rcases (Nat.succ_le_of_lt hlast).eq_or_lt with heq | hlt
    · exact hstop heq
    · rcases lt_max_iff.mp hlt with hend | hthin
      · exact h.middle_le_of_lt_scaleEnd hend
      · -- only one cell is drawn, so it is the last one
        omega

end Axis

variable {size : PixelSize} {area : CellRect} {r : Region} {column row : Nat}

/-! ## Clicks that hit -/

/-- A click on a cell of the area hits only regions that are drawn on the cell. -/
theorem toCells_contains_of_hit (hgrid : area.OnGrid)
    (hcells : area.width * area.height ≤ maxCells) (hcell : area.contains column row = true)
    (hwide : 2 * area.width ≤ size.width) (htall : 2 * area.height ≤ size.height)
    (hhit : r.contains (pixelOf column row size area).1 (pixelOf column row size area).2 = true) :
    (toCells r size area).contains column row = true := by
  have hwidth := hgrid.width_pos
  have hheight := hgrid.height_pos
  have hcolumns := axis_columns hgrid (show 0 < size.width by omega)
  have hrows := axis_rows hgrid (show 0 < size.height by omega)
  obtain ⟨i, j, ⟨hi, hj⟩, rfl, rfl⟩ := CellRect.exists_of_contains hcell
  rw [pixelOf_add hcolumns hrows hi hj, Region.contains_iff] at hhit
  obtain ⟨⟨hleft, hright⟩, htop, hbottom⟩ := hhit
  rw [toCells_eq_touched_of_area hcolumns hrows hcells, touched_contains_add_iff]
  exact ⟨hcolumns.mem_span_of_middle_mem hi hwide hleft hright,
    hrows.mem_span_of_middle_mem hj htall htop hbottom⟩

/-- **What reacts to a click is drawn where the click is.** On a scene with two pixels for each
cell, a click on a cell of the area hits only regions that are drawn on the cell. So the menu of a
desktop opens and closes only by a click on a cell of the start button, and an item is activated
only while the menu is open, by a click on a cell of the item. -/
theorem drawn_of_hit (hgrid : area.OnGrid) (hcells : area.width * area.height ≤ maxCells)
    (hcell : area.contains column row = true) :
    (∀ (size : PixelSize) (r : Region),
      2 * area.width ≤ size.width → 2 * area.height ≤ size.height →
      r.contains (pixelOf column row size area).1 (pixelOf column row size area).2 = true →
      (toCells r size area).contains column row = true) ∧
    (2 * area.width ≤ screenWidth → 2 * area.height ≤ screenHeight →
      ∀ (d : Desktop) (p : PointerFrame), (p.x, p.y) = pixelOf column row desktopSize area →
        (∀ isOpen, (d.frame p).2 = .toggled isOpen →
          (toCells startButton desktopSize area).contains column row = true) ∧
        (∀ item, (d.frame p).2 = .activate item →
          d.menuOpen = true ∧
            (toCells item.region desktopSize area).contains column row = true)) := by
  refine ⟨fun size r => toCells_contains_of_hit hgrid hcells hcell, fun hwide htall d p hp =>
    ⟨fun isOpen htoggled => ?_, fun item hitem => ?_⟩⟩
  · refine toCells_contains_of_hit hgrid hcells hcell hwide htall ?_
    rw [← hp]
    exact Desktop.hit_of_toggled htoggled
  · obtain ⟨hopen, hregion⟩ := Desktop.hit_of_activate hitem
    refine ⟨hopen, toCells_contains_of_hit hgrid hcells hcell hwide htall ?_⟩
    rw [← hp]
    exact hregion

/-- A click in the middle of the start button, on a terminal of common size. -/
theorem drawn_of_hit_terminal :
    CellRect.OnGrid ⟨0, 0, 80, 24⟩ ∧ 80 * 24 ≤ maxCells ∧
      (CellRect.mk 0 0 80 24).contains 5 22 = true ∧
      pixelOf 5 22 desktopSize ⟨0, 0, 80, 24⟩ = (44, 450) ∧
      startButton.contains 44 450 = true ∧
      (toCells startButton desktopSize ⟨0, 0, 80, 24⟩).contains 5 22 = true := by
  have hgrid : CellRect.OnGrid ⟨0, 0, 80, 24⟩ := ⟨by decide, by decide, by decide, by decide⟩
  have hcells : 80 * 24 ≤ maxCells := by decide
  have hcell : (CellRect.mk 0 0 80 24).contains 5 22 = true := by decide
  have hhit : startButton.contains 44 450 = true := by decide
  refine ⟨hgrid, hcells, hcell, by decide, hhit, ?_⟩
  exact (drawn_of_hit hgrid hcells hcell).1 desktopSize startButton (by decide) (by decide) hhit

/-! ## Clicks on drawn cells -/

/-- A cell that shows a region misses it only by an edge of the region that lies in the cell. -/
theorem contains_pixelOf_iff (hcolumns : Axis size.width area.width)
    (hrows : Axis size.height area.height) (hx : r.x < size.width) (hy : r.y < size.height)
    (hcell : (touched r size area).contains column row = true) :
    let drawn := touched r size area
    let pixel := pixelOf column row size area
    r.contains pixel.1 pixel.2 = true ↔
      ((column = drawn.x → r.x ≤ pixel.1) ∧ (column + 1 = drawn.right → pixel.1 ≤ r.right)) ∧
      (row = drawn.y → r.y ≤ pixel.2) ∧ (row + 1 = drawn.bottom → pixel.2 ≤ r.bottom) := by
  intro drawn pixel
  have hinside := (touched_within_area hcolumns hrows r).contains hcell
  obtain ⟨i, j, ⟨hi, hj⟩, rfl, rfl⟩ := CellRect.exists_of_contains hinside
  obtain ⟨⟨hleft, hright⟩, htop, hbottom⟩ := touched_contains_add_iff.mp hcell
  rw [show pixel = _ from pixelOf_add hcolumns hrows hi hj, Region.contains_iff,
    hcolumns.middle_mem_iff hx hleft hright, hrows.middle_mem_iff hy htop hbottom,
    show drawn.right = _ from touched_right r size area,
    show drawn.bottom = _ from touched_bottom r size area]
  simp only [drawn, touched, Nat.add_assoc, Nat.add_left_cancel_iff]

/-- On every grid that is coarse enough, the start button is drawn on the cells that it reaches. -/
theorem toCells_startButton (hcolumns : Axis screenWidth area.width)
    (hrows : Axis screenHeight area.height) (hwide : 2 * (area.width : Int) ≤ screenWidth)
    (htall : 2 * (area.height : Int) ≤ screenHeight) :
    toCells startButton desktopSize area = touched startButton desktopSize area := by
  refine toCells_eq_touched hcolumns hrows ?_
  -- 37 columns are enough for the pixels before the right edge, however narrow the columns are
  have hstart : scale startButton.x screenWidth area.width < 37 := by
    rw [← not_le, hcolumns.le_scale_iff,
      show clampInt 0 (screenWidth - 1) startButton.x = 4 by decide]
    simp only [screenWidth] at hwide ⊢
    omega
  have hstop : scaleEnd startButton.right screenWidth area.width ≤ 37 := by
    rw [← not_lt, hcolumns.lt_scaleEnd_iff,
      show clampInt 0 screenWidth startButton.right = 74 by decide]
    simp only [screenWidth] at hwide ⊢
    omega
  have hwidth : (touched startButton desktopSize area).width ≤ 37 :=
    (Nat.sub_le _ _).trans (max_le hstop hstart)
  have hheight : (touched startButton desktopSize area).height ≤ 240 :=
    (touched_height_le hrows startButton).trans (by simp only [screenHeight] at htall; omega)
  exact (Nat.mul_le_mul hwidth hheight).trans (by decide)

/-- **Where the start button reacts.** On every terminal with two pixels for each cell, a cell that
shows the start button reacts to a click iff the pixel in its middle is not beyond an edge of the
button: only in the first and the last column and row can that be. A new press opens or closes the
menu on these cells and on no other that shows the button. -/
theorem startButton_clickable_iff (hwidth : 0 < area.width) (hheight : 0 < area.height)
    (hwide : 2 * (area.width : Int) ≤ screenWidth)
    (htall : 2 * (area.height : Int) ≤ screenHeight)
    (hcell : (toCells startButton desktopSize area).contains column row = true) :
    let drawn := toCells startButton desktopSize area
    let pixel := pixelOf column row desktopSize area
    let clickable := startButton.contains pixel.1 pixel.2 = true
    (clickable ↔
      ((column = drawn.x → startButton.x ≤ pixel.1) ∧
        (column + 1 = drawn.right → pixel.1 ≤ startButton.right)) ∧
      (row = drawn.y → startButton.y ≤ pixel.2) ∧
        (row + 1 = drawn.bottom → pixel.2 ≤ startButton.bottom)) ∧
    ∀ (d : Desktop) (key : Option Key), d.buttonDown = false → key ≠ some .escape →
      ((d.frame ⟨pixel.1, pixel.2, true, key⟩).2 = .toggled (!d.menuOpen) ↔ clickable) := by
  intro drawn pixel clickable
  have hcolumns : Axis screenWidth area.width :=
    ⟨by decide, hwidth, by simp only [screenWidth] at hwide; unfold maxCoordinate; omega⟩
  have hrows : Axis screenHeight area.height :=
    ⟨by decide, hheight, by simp only [screenHeight] at htall; unfold maxCoordinate; omega⟩
  have hdrawn : drawn = touched startButton desktopSize area :=
    toCells_startButton hcolumns hrows hwide htall
  refine ⟨?_, fun d key hup hkey => Desktop.toggled_iff_of_press hup hkey⟩
  rw [hdrawn]
  exact contains_pixelOf_iff hcolumns hrows (by decide) (by decide) (hdrawn ▸ hcell)

/-- The first cell of the start button reacts: its pixel is the corner of the button. -/
theorem startButton_clickable_corner :
    2 * ((80 : Nat) : Int) ≤ screenWidth ∧ 2 * ((24 : Nat) : Int) ≤ screenHeight ∧
      (toCells startButton desktopSize ⟨0, 0, 80, 24⟩).contains 0 22 = true ∧
      pixelOf 0 22 desktopSize ⟨0, 0, 80, 24⟩ = (4, 450) ∧ startButton.contains 4 450 = true := by
  have hwide : 2 * ((80 : Nat) : Int) ≤ screenWidth := by decide
  have htall : 2 * ((24 : Nat) : Int) ≤ screenHeight := by decide
  have hcell : (toCells startButton desktopSize ⟨0, 0, 80, 24⟩).contains 0 22 = true := by decide
  refine ⟨hwide, htall, hcell, by decide, ?_⟩
  exact (startButton_clickable_iff (by decide) (by decide) hwide htall hcell).1.mpr (by decide)

/-- On a terminal of common size, the last column of the start button does not react. -/
theorem startButton_last_column :
    2 * ((80 : Nat) : Int) ≤ screenWidth ∧ 2 * ((24 : Nat) : Int) ≤ screenHeight ∧
      (toCells startButton desktopSize ⟨0, 0, 80, 24⟩).contains 9 22 = true ∧
      pixelOf 9 22 desktopSize ⟨0, 0, 80, 24⟩ = (76, 450) ∧
      startButton.contains 76 450 = false ∧
      (({} : Desktop).frame ⟨76, 450, true, none⟩).2 = .idle := by
  decide

end Screen

end ModalConsole
