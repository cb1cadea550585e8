import ModalConsole.Proofs.Screen.Cells

/-!
# Regions within regions

A region is drawn on cells that may reach beyond it, and a thin one, or one that lies off the
screen, on a cell that it does not even touch. What is drawn still nests as the regions do.

* `Region.Within`: regions that lie within other ones.
* `Axis.spanEnd_mono`: along one axis, an interval within another one ends on no later cell, also
  where the interval is off the screen.
* `touched_contains_cellOf`, `touched_within_touched`: the cells that a region reaches hold all of
  its pixels, and nest as regions do.
* **`drawn_within`**: on every area that is a rectangle, regions are drawn within the area and
  within each other; so are the parts of the desktop.
-/

namespace ModalConsole

/-- A region lies within another one. -/
structure Region.Within (inner outer : Region) : Prop where
  x_le : outer.x ≤ inner.x
  right_le : inner.right ≤ outer.right
  y_le : outer.y ≤ inner.y
  bottom_le : inner.bottom ≤ outer.bottom

theorem startButton_within_taskbar : startButton.Within taskbar :=
  ⟨by decide, by decide, by decide, by decide⟩

theorem MenuItem.region_within_menuPanel (item : MenuItem) : item.region.Within menuPanel := by
  cases item <;> exact ⟨by decide, by decide, by decide, by decide⟩

theorem MenuItem.region_pos (item : MenuItem) : 0 < item.region.width ∧ 0 < item.region.height := by
  cases item <;> decide

/-- The menu of a picture is the panel with all items. -/
theorem Desktop.menu_eq_some {d : Desktop} {p : PointerFrame} {panel : Region}
    {items : List (MenuItem × Region)} (h : (d.scene p).menu = some (panel, items)) :
    panel = menuPanel ∧ items = MenuItem.all.map fun item => (item, item.region) := by
  simp only [scene, Option.ite_none_right_eq_some, Option.some.injEq, Prod.mk.injEq] at h
  exact ⟨h.2.1.symm, h.2.2.symm⟩

namespace Screen

/-- An interval that is not empty ends on no later cell than one that it lies in. -/
theorem Axis.spanEnd_mono {start stop start' stop' extent : Int} {cells : Nat}
    (h : Axis extent cells) (hlt : start < stop) (hstart : start' ≤ start) (hstop : stop ≤ stop') :
    spanEnd start stop extent cells ≤ spanEnd start' stop' extent cells := by
  refine max_le ((h.scaleEnd_mono hstop).trans (le_max_left _ _)) ?_
  rcases lt_or_ge 0 stop' with hpos | hbefore
  · exact (h.scale_lt_scaleEnd (hlt.trans_le hstop) hpos).trans_le (le_max_left _ _)
  · -- both intervals end before the screen, so both are drawn on the first cell
    rw [h.scale_of_nonpos (by omega : start ≤ 0), ← h.scale_of_nonpos (by omega : start' ≤ 0)]
    exact le_max_right _ _

variable {size : PixelSize} {area : CellRect} {r inner outer : Region}

theorem touched_pos (r : Region) (size : PixelSize) (area : CellRect) :
    0 < (touched r size area).width ∧ 0 < (touched r size area).height :=
  ⟨Nat.sub_pos_of_lt (scale_lt_spanEnd _ _ _ _), Nat.sub_pos_of_lt (scale_lt_spanEnd _ _ _ _)⟩

/-- The pixels of a region lie in the cells that the region reaches; for a pixel off the screen this
is the cell next to it. -/
theorem touched_contains_cellOf (hcolumns : Axis size.width area.width)
    (hrows : Axis size.height area.height) {x y : Int} (hx : r.x ≤ x ∧ x < r.right)
    (hy : r.y ≤ y ∧ y < r.bottom) :
    (touched r size area).contains (cellOf x y size area).1 (cellOf x y size area).2 = true := by
  -- a pixel is an interval of its own
  refine touched_contains_add_iff.mpr
    ⟨⟨hcolumns.scale_mono hx.1, (scale_lt_spanEnd x (x + 1) _ _).trans_le ?_⟩,
      hrows.scale_mono hy.1, (scale_lt_spanEnd y (y + 1) _ _).trans_le ?_⟩
  · exact hcolumns.spanEnd_mono (Int.lt_succ x) hx.1 hx.2
  · exact hrows.spanEnd_mono (Int.lt_succ y) hy.1 hy.2

/-- The cells that regions reach nest as the regions do. -/
theorem touched_within_touched (hcolumns : Axis size.width area.width)
    (hrows : Axis size.height area.height) (hwidth : 0 < inner.width) (hheight : 0 < inner.height)
    (h : inner.Within outer) : (touched inner size area).Within (touched outer size area) where
  x_le := Nat.add_le_add_left (hcolumns.scale_mono h.x_le) _
  right_le := by
    rw [touched_right, touched_right]
    exact Nat.add_le_add_left
      (hcolumns.spanEnd_mono (Int.lt_add_of_pos_right _ hwidth) h.x_le h.right_le) _
  y_le := Nat.add_le_add_left (hrows.scale_mono h.y_le) _
  bottom_le := by
    rw [touched_bottom, touched_bottom]
    exact Nat.add_le_add_left
      (hrows.spanEnd_mono (Int.lt_add_of_pos_right _ hheight) h.y_le h.bottom_le) _

/-- On an area that is itself a rectangle, regions that nest are drawn so. -/
theorem toCells_within_toCells (hgrid : area.OnGrid) (hcells : area.width * area.height ≤ maxCells)
    (hsize : 0 < size.width ∧ 0 < size.height) (hinner : 0 < inner.width ∧ 0 < inner.height)
    (h : inner.Within outer) : (toCells inner size area).Within (toCells outer size area) := by
  have hcolumns := axis_columns hgrid hsize.1
  have hrows := axis_rows hgrid hsize.2
  rw [toCells_eq_touched_of_area hcolumns hrows hcells,
    toCells_eq_touched_of_area hcolumns hrows hcells]
  exact touched_within_touched hcolumns hrows hinner.1 hinner.2 h

/-- On such an area, regions are drawn on cells of the area only. -/
theorem toCells_within_area (hgrid : area.OnGrid) (hcells : area.width * area.height ≤ maxCells)
    (hsize : 0 < size.width ∧ 0 < size.height) (r : Region) :
    (toCells r size area).Within area := by
  have hcolumns := axis_columns hgrid hsize.1
  have hrows := axis_rows hgrid hsize.2
  rw [toCells_eq_touched_of_area hcolumns hrows hcells]
  exact touched_within_area hcolumns hrows r

theorem desktopSize_pos : 0 < desktopSize.width ∧ 0 < desktopSize.height := by decide

/-- The items of the open menu are drawn within its panel. -/
theorem item_within_panel (hgrid : area.OnGrid) (hcells : area.width * area.height ≤ maxCells)
    {d : Desktop} {p : PointerFrame} {panel : Region} {items : List (MenuItem × Region)}
    (hmenu : (d.scene p).menu = some (panel, items)) {item : MenuItem × Region}
    (hitem : item ∈ items) :
    (toCells item.2 desktopSize area).Within (toCells panel desktopSize area) := by
  obtain ⟨rfl, rfl⟩ := Desktop.menu_eq_some hmenu
  obtain ⟨entry, -, rfl⟩ := List.mem_map.mp hitem
  exact toCells_within_toCells hgrid hcells desktopSize_pos entry.region_pos
    entry.region_within_menuPanel

/-- **What is drawn nests as the regions do.** On every area of the grid that is itself a rectangle,
and for every scene with a pixel, a region is drawn on at least one cell, on cells of the area only,
and on the cells of all of its pixels, those off the screen included. A region that has a pixel and
lies within another one is drawn within it. So the start button never leaves the taskbar, nor an
item of the open menu its panel. -/
theorem drawn_within (hgrid : area.OnGrid) (hcells : area.width * area.height ≤ maxCells) :
    (∀ size : PixelSize, 0 < size.width ∧ 0 < size.height →
      (∀ r : Region,
        let drawn := toCells r size area
        (0 < drawn.width ∧ 0 < drawn.height) ∧ drawn.Within area ∧
        ∀ x y, (r.x ≤ x ∧ x < r.right) → (r.y ≤ y ∧ y < r.bottom) →
          drawn.contains (cellOf x y size area).1 (cellOf x y size area).2 = true) ∧
      ∀ inner outer : Region, 0 < inner.width ∧ 0 < inner.height → inner.Within outer →
        (toCells inner size area).Within (toCells outer size area)) ∧
    ∀ (d : Desktop) (p : PointerFrame),
      let scene := d.scene p
      (toCells scene.startButton scene.size area).Within (toCells scene.taskbar scene.size area) ∧
      ∀ panel items, scene.menu = some (panel, items) → ∀ item ∈ items,
        (toCells item.2 scene.size area).Within (toCells panel scene.size area) := by
  refine ⟨fun size hsize => ⟨fun r => ?_, fun inner outer hinner =>
    toCells_within_toCells hgrid hcells hsize hinner⟩, fun d p => ⟨?_, ?_⟩⟩
  · have hcolumns := axis_columns hgrid hsize.1
    have hrows := axis_rows hgrid hsize.2
    intro drawn
    have hdrawn : drawn = touched r size area :=
      toCells_eq_touched_of_area hcolumns hrows hcells r
    refine ⟨?_, toCells_within_area hgrid hcells hsize r, ?_⟩ <;> rw [hdrawn]
    · exact touched_pos r size area
    · exact fun x y => touched_contains_cellOf hcolumns hrows
  · have hbutton : 0 < startButton.width ∧ 0 < startButton.height := by decide
    exact toCells_within_toCells hgrid hcells desktopSize_pos hbutton startButton_within_taskbar
  · exact fun panel items hmenu item => item_within_panel hgrid hcells hmenu

/-- A region beyond the edge of the scene is drawn in the last cell, within a larger one. -/
theorem drawn_within_corner :
    CellRect.OnGrid ⟨3, 2, 7, 5⟩ ∧ 7 * 5 ≤ maxCells ∧
      (0 < desktopSize.width ∧ 0 < desktopSize.height) ∧
      toCells ⟨700, 470, 1, 30⟩ desktopSize ⟨3, 2, 7, 5⟩ = ⟨9, 6, 1, 1⟩ ∧
      (CellRect.mk 9 6 1 1).Within ⟨3, 2, 7, 5⟩ ∧
      (toCells ⟨700, 470, 1, 30⟩ desktopSize ⟨3, 2, 7, 5⟩).Within
        (toCells ⟨630, 400, 200, 200⟩ desktopSize ⟨3, 2, 7, 5⟩) := by
  have hgrid : CellRect.OnGrid ⟨3, 2, 7, 5⟩ := ⟨by decide, by decide, by decide, by decide⟩
  have hdrawn : toCells ⟨700, 470, 1, 30⟩ desktopSize ⟨3, 2, 7, 5⟩ = ⟨9, 6, 1, 1⟩ := by decide
  obtain ⟨hregions, hnests⟩ := (drawn_within hgrid (by decide)).1 desktopSize desktopSize_pos
  obtain ⟨-, hinside, -⟩ := hregions ⟨700, 470, 1, 30⟩
  exact ⟨hgrid, by decide, desktopSize_pos, hdrawn, hdrawn ▸ hinside,
    hnests _ _ (by decide) ⟨by decide, by decide, by decide, by decide⟩⟩

end Screen

end ModalConsole
