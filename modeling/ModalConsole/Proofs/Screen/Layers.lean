import Mathlib.Tactic.SplitIfs
import ModalConsole.Proofs.Screen.Nesting
import ModalConsole.Screen.Drawing

/-!
# The layers of the desktop

The desktop is drawn layer over layer, on rectangles that overlap in other ways on every size of
the terminal. Texts, edges and the cursor leave the backgrounds as they are, and an item of the menu
stays within the panel, so the background of a cell tells which layer is the topmost one there.

* `Canvas.Grounds`: a drawing keeps to a rectangle and puts one background behind it, or leaves
  the ones that are there. One lemma for each way to paint: `fill_grounds`, `write_grounds`,
  `paragraph_grounds`, `box_grounds`.
* `Canvas.Stacked`: a drawing puts layers over each other within an area.
  **`Stacked.background`**, `Stacked.outside`: what it makes of the cells of the area and of all
  others.
* `drawOver`: a scene drawn over whatever was shown before; `layers`: its layers from the topmost
  one down. `drawOver_stacked`: it is a stack of these layers.
* **`draw_shows_layers`**: the backgrounds and the cursor of a drawn desktop.
-/

namespace ModalConsole

namespace Canvas

variable {f g : Canvas → Canvas} {r r' area : CellRect} {ground ground' : Option Paint}
  {column row : Nat}

/-! ## Drawings with one background -/

/-- A drawing keeps to a rectangle and puts one background behind it, or leaves the ones that are
there if it has none. -/
structure Grounds (f : Canvas → Canvas) (r : CellRect) (ground : Option Paint) : Prop where
  outside : ∀ c {column row}, r.contains column row = false → f c column row = c column row
  inside : ∀ c {column row}, r.contains column row = true →
    (f c column row).background = ground.getD (c column row).background

/-- A drawing that goes on in the same rectangle puts its own background there, if it has one. -/
theorem Grounds.comp (hf : Grounds f r ground) (hg : Grounds g r ground') :
    Grounds (fun c => g (f c)) r (ground'.or ground) where
  outside c column row hcell := (hg.outside (f c) hcell).trans (hf.outside c hcell)
  inside c column row hcell := by
    rw [hg.inside (f c) hcell, hf.inside c hcell]
    cases ground' <;> rfl

/-- A drawing that goes on inside of the rectangle does not show by its background if it has the
same one or none. -/
theorem Grounds.comp_inside (hf : Grounds f r ground) (hg : Grounds g r' ground')
    (hground : ground' = ground ∨ ground' = none)
    (hinside : ∀ {column row}, r'.contains column row = true → r.contains column row = true) :
    Grounds (fun c => g (f c)) r ground where
  outside c column row hcell := by
    have hcell' : r'.contains column row = false :=
      Bool.eq_false_iff.mpr fun h => Bool.eq_false_iff.mp hcell (hinside h)
    exact (hg.outside (f c) hcell').trans (hf.outside c hcell)
  inside c column row hcell := by
    cases hcell' : r'.contains column row with
    | false => rw [hg.outside (f c) hcell', hf.inside c hcell]
    | true =>
      rw [hg.inside (f c) hcell', hf.inside c hcell]
      rcases hground with rfl | rfl
      · cases ground' <;> rfl
      · rfl

/-- Many drawings inside of the rectangle, all with its background. -/
theorem Grounds.foldl {α : Type} {drawing : Canvas → α → Canvas} {rect : α → CellRect}
    (hf : Grounds f r ground) {items : List α}
    (hitems : ∀ item ∈ items, Grounds (drawing · item) (rect item) ground ∧ (rect item).Within r) :
    Grounds (fun c => items.foldl drawing (f c)) r ground := by
  induction items generalizing f with
  | nil => exact hf
  | cons item items ih =>
    obtain ⟨hitem, hwithin⟩ := hitems item List.mem_cons_self
    exact ih (hf.comp_inside hitem (Or.inl rfl) hwithin.contains)
      fun other hother => hitems other (List.mem_cons_of_mem item hother)

/-! ## The ways to paint -/

theorem paint_grounds {change : Nat → Nat → Cell → Cell}
    (h : ∀ column row cell, (change column row cell).background = ground.getD cell.background) :
    Grounds (·.paint r change) r ground where
  outside _ _ _ hcell := if_neg (Bool.eq_false_iff.mp hcell)
  inside _ _ _ hcell := (congrArg Cell.background (if_pos hcell)).trans (h _ _ _)

theorem fill_grounds (r : CellRect) (s : Style) : Grounds (·.fill r s) r s.background :=
  paint_grounds fun _ _ _ => rfl

theorem erase_grounds (r : CellRect) : Grounds (·.erase r) r (some .unset) :=
  paint_grounds fun _ _ _ => rfl

/-- A text without a background of its own leaves the ones behind it. -/
theorem write_grounds (r : CellRect) (offset : Nat) (text : List Char) {s : Style}
    (hs : s.background = none) : Grounds (·.write r offset text s) r none := by
  refine paint_grounds fun column row cell => ?_
  split_ifs
  · split
    · rw [Cell.styled, hs]
    · rfl
  · rfl

theorem paragraph_grounds (r : CellRect) (ground : Style) (alignment : Alignment)
    (text : List Char) {s : Style} (hs : s.background = none) :
    Grounds (·.paragraph r ground alignment text s) r ground.background :=
  (fill_grounds r ground).comp (write_grounds r _ text hs)

theorem contains_of_titleRect (h : (titleRect r).contains column row = true) :
    r.contains column row = true := by
  rw [CellRect.contains_iff] at h ⊢
  simp only [titleRect, CellRect.right, CellRect.bottom] at h ⊢
  omega

theorem box_grounds (r : CellRect) (s : Style) (title : List Char) :
    Grounds (·.box r s title) r s.background := by
  have hedges (change : Nat → Nat → Cell → Cell)
      (h : ∀ x y cell, (change x y cell).background = cell.background) :
      Grounds (fun c => (c.fill r s).paint r change) r s.background :=
    (fill_grounds r s).comp (paint_grounds h : Grounds (·.paint r change) r none)
  have htitle : Grounds (·.write (titleRect r) 0 title {}) (titleRect r) none :=
    write_grounds _ 0 title rfl
  unfold box
  refine (hedges _ fun x y cell => ?_).comp_inside htitle (Or.inr rfl) contains_of_titleRect
  split <;> rfl

/-! ## Layers over each other -/

/-- A layer of a picture: cells, and the background that it gives them. -/
structure Layer where
  rect : CellRect
  ground : Paint
  deriving DecidableEq

/-- The topmost layer on a cell, of layers that are listed from the topmost one down. -/
def topmost (layers : List Layer) (column row : Nat) : Option Layer :=
  layers.find? (·.rect.contains column row)

theorem topmost_cons (layer : Layer) (layers : List Layer) (column row : Nat) :
    topmost (layer :: layers) column row =
      if layer.rect.contains column row then some layer else topmost layers column row := by
  unfold topmost
  rw [List.find?_cons]
  cases layer.rect.contains column row <;> rfl

/-- A drawing puts layers over each other, and other things that have no background, all of them
within an area. -/
inductive Stacked (area : CellRect) : (Canvas → Canvas) → List Layer → Prop
  | bare : Stacked area id []
  | layer {f g layers r ground} (h : Stacked area f layers) (hg : Grounds g r (some ground))
      (hr : r.Within area) : Stacked area (g ∘ f) (⟨r, ground⟩ :: layers)
  | mark {f g layers r} (h : Stacked area f layers) (hg : Grounds g r none)
      (hr : r.Within area) : Stacked area (g ∘ f) layers

variable {layers : List Layer}

/-- **The topmost layer shows.** A cell has the background of the topmost layer on it, or the one
that it had before if no layer is on it. -/
theorem Stacked.background (h : Stacked area f layers) (c : Canvas) (column row : Nat) :
    (f c column row).background =
      ((topmost layers column row).map Layer.ground).getD (c column row).background := by
  -- each drawing decides about the cells of its own rectangle and leaves the rest to those before
  induction h with
  | bare => rfl
  | @layer f g layers r ground _ hg _ ih =>
    rw [Function.comp, topmost_cons]
    cases hcell : r.contains column row with
    | true => exact hg.inside (f c) hcell
    | false => rw [hg.outside (f c) hcell, ih, if_neg Bool.false_ne_true]
  | @mark f g layers r _ hg _ ih =>
    cases hcell : r.contains column row with
    | true => exact (hg.inside (f c) hcell).trans ih
    | false => rw [Function.comp, hg.outside (f c) hcell, ih]

/-- Whatever is stacked within an area leaves all other cells as they are. -/
theorem Stacked.outside (h : Stacked area f layers) (c : Canvas)
    (hcell : area.contains column row = false) : f c column row = c column row := by
  have hout : ∀ {r : CellRect}, r.Within area → r.contains column row = false := fun hr =>
    Bool.eq_false_iff.mpr fun hin => Bool.eq_false_iff.mp hcell (hr.contains hin)
  induction h with
  | bare => rfl
  | layer _ hg hr ih => exact (hg.outside _ (hout hr)).trans ih
  | mark _ hg hr ih => exact (hg.outside _ (hout hr)).trans ih

end Canvas

namespace Screen

open Canvas

variable {size : PixelSize} {area : CellRect} {scene : Scene} {column row : Nat}

/-! ## The parts of the desktop -/

/-- A scene drawn over what a terminal shows already. -/
def drawOver (scene : Scene) (area : CellRect) (now : Timestamp) : Canvas → Canvas :=
  drawCursor scene area ∘ drawMenu scene area ∘ drawButton scene area ∘
    drawTaskbar scene area now ∘ drawWallpaper area

theorem draw_eq_drawOver (scene : Scene) (area : CellRect) (now : Timestamp) :
    draw scene area now = drawOver scene area now Canvas.blank := by
  simp only [draw, drawOver, Function.comp]

/-- The panel of the open menu as a layer. -/
def menuLayer (scene : Scene) (area : CellRect) : Option Canvas.Layer :=
  scene.menu.map fun menu => ⟨toCells menu.1 scene.size area, .white⟩

/-- The layers of a scene from the topmost one down: the panel of the open menu, the start button,
the taskbar and the wallpaper. -/
def layers (scene : Scene) (area : CellRect) : List Canvas.Layer :=
  (menuLayer scene area).toList ++
    [⟨toCells scene.startButton scene.size area, .darkGray⟩,
      ⟨toCells scene.taskbar scene.size area, .gray⟩,
      ⟨area, .rgb 0 128 128⟩]

theorem drawWallpaper_grounds (area : CellRect) :
    Grounds (drawWallpaper area) area (some (.rgb 0 128 128)) :=
  fill_grounds area wallpaperStyle

theorem drawTaskbar_grounds (scene : Scene) (area : CellRect) (now : Timestamp) :
    Grounds (drawTaskbar scene area now) (toCells scene.taskbar scene.size area) (some .gray) :=
  paragraph_grounds _ taskbarStyle _ _ rfl

theorem drawButton_grounds (scene : Scene) (area : CellRect) :
    Grounds (drawButton scene area) (toCells scene.startButton scene.size area)
      (some .darkGray) :=
  paragraph_grounds _ buttonStyle _ _ rfl

theorem drawItem_grounds (scene : Scene) (area : CellRect) (item : MenuItem × Region) :
    Grounds (drawItem scene area · item) (toCells item.2 scene.size area) (some .white) :=
  paragraph_grounds _ itemGround _ _ (by cases item.1 <;> rfl)

/-- The open menu has one background as long as no item leaves the panel. -/
theorem drawMenu_grounds {panel : Region} {items : List (MenuItem × Region)}
    (hmenu : scene.menu = some (panel, items))
    (hitems : ∀ item ∈ items,
      (toCells item.2 scene.size area).Within (toCells panel scene.size area)) :
    Grounds (drawMenu scene area) (toCells panel scene.size area) (some .white) := by
  have hpanel := (erase_grounds (toCells panel scene.size area)).comp
    (box_grounds (toCells panel scene.size area) menuStyle " Lebirun ".toList)
  have hdraw : drawMenu scene area = fun c => items.foldl (drawItem scene area)
      ((c.erase (toCells panel scene.size area)).box (toCells panel scene.size area)
        menuStyle " Lebirun ".toList) := by
    funext c
    rw [drawMenu, hmenu]
  rw [hdraw]
  exact hpanel.foldl fun item hitem => ⟨drawItem_grounds scene area item, hitems item hitem⟩

/-- The cell of the cursor. -/
def cursorCell (scene : Scene) (area : CellRect) : Nat × Nat :=
  cellOf scene.cursor.1 scene.cursor.2 scene.size area

theorem drawCursor_grounds (scene : Scene) (area : CellRect) :
    Grounds (drawCursor scene area)
      ⟨(cursorCell scene area).1, (cursorCell scene area).2, 1, 1⟩ none :=
  paragraph_grounds _ {} _ _ rfl

/-- The cursor shows itself, over the background of its cell. -/
theorem drawCursor_cursorCell (scene : Scene) (area : CellRect) (c : Canvas) :
    let cell := drawCursor scene area c (cursorCell scene area).1 (cursorCell scene area).2
    cell.symbol = '▲' ∧ cell.foreground = .rgb 0 25 255 := by
  have hcell : (CellRect.mk (cursorCell scene area).1 (cursorCell scene area).2 1 1).contains
      (cursorCell scene area).1 (cursorCell scene area).2 = true := by
    simp only [CellRect.contains_iff, CellRect.right, CellRect.bottom]
    omega
  simp only [drawCursor, cursorCell, paragraph, write, fill, paint] at hcell ⊢
  simp [hcell, Alignment.offset, Cell.styled, cursorStyle]

/-! ## The whole picture -/

/-- The wallpaper is on every cell of the area, so there is a topmost layer. -/
theorem topmost_layers (scene : Scene) (hcell : area.contains column row = true) :
    ∃ layer, topmost (layers scene area) column row = some layer := by
  refine Option.isSome_iff_exists.mp (List.find?_isSome.mpr ⟨⟨area, .rgb 0 128 128⟩, ?_, hcell⟩)
  simp [layers]

/-- Every pixel counts as one of a cell of the area. -/
theorem area_contains_cellOf (hcolumns : Axis size.width area.width)
    (hrows : Axis size.height area.height) (x y : Int) :
    area.contains (cellOf x y size area).1 (cellOf x y size area).2 = true :=
  CellRect.contains_iff.mpr
    ⟨⟨Nat.le_add_right _ _, Nat.add_lt_add_left hcolumns.scale_lt _⟩,
      Nat.le_add_right _ _, Nat.add_lt_add_left hrows.scale_lt _⟩

/-- The cursor is on a cell of the area, wherever the pointer is. -/
theorem area_contains_cursorCell (hgrid : area.OnGrid) (d : Desktop) (p : PointerFrame) :
    area.contains (cursorCell (d.scene p) area).1 (cursorCell (d.scene p) area).2 = true :=
  area_contains_cellOf (axis_columns hgrid desktopSize_pos.1) (axis_rows hgrid desktopSize_pos.2)
    _ _

/-- A cell of an area is a rectangle within it. -/
theorem cell_within_area (h : area.contains column row = true) :
    (CellRect.mk column row 1 1).Within area := by
  obtain ⟨⟨hleft, hright⟩, htop, hbottom⟩ := CellRect.contains_iff.mp h
  exact ⟨hleft, hright, htop, hbottom⟩

/-- The menu, open or not, adds its layer to a stack. -/
theorem stacked_drawMenu (hgrid : area.OnGrid) (hcells : area.width * area.height ≤ maxCells)
    (d : Desktop) (p : PointerFrame) {f : Canvas → Canvas} {below : List Canvas.Layer}
    (h : Stacked area f below) : Stacked area (drawMenu (d.scene p) area ∘ f)
      ((menuLayer (d.scene p) area).toList ++ below) := by
  unfold menuLayer
  cases hmenu : (d.scene p).menu with
  | none =>
    have hclosed : drawMenu (d.scene p) area = id := by
      funext c
      rw [drawMenu, hmenu]
      rfl
    rw [hclosed]
    exact h
  | some menu =>
    have hgrounds := drawMenu_grounds hmenu fun item => item_within_panel hgrid hcells hmenu
    exact h.layer hgrounds (toCells_within_area hgrid hcells desktopSize_pos menu.1)

/-- A desktop is drawn as a stack of its layers within the area. -/
theorem drawOver_stacked (hgrid : area.OnGrid) (hcells : area.width * area.height ≤ maxCells)
    (d : Desktop) (p : PointerFrame) (now : Timestamp) :
    Stacked area (drawOver (d.scene p) area now) (layers (d.scene p) area) := by
  have hwithin := toCells_within_area hgrid hcells desktopSize_pos
  have hcursor := cell_within_area (area_contains_cursorCell hgrid d p)
  have hwallpaper : Stacked area (drawWallpaper area) [⟨area, .rgb 0 128 128⟩] :=
    Stacked.bare.layer (drawWallpaper_grounds area) (CellRect.Within.refl area)
  have htaskbar := hwallpaper.layer (drawTaskbar_grounds (d.scene p) area now) (hwithin taskbar)
  have hbutton := htaskbar.layer (drawButton_grounds (d.scene p) area) (hwithin startButton)
  exact (stacked_drawMenu hgrid hcells d p hbutton).mark (drawCursor_grounds _ area) hcursor

/-- **The topmost layer shows, and the cursor over it.** Take any area of the grid that is itself a
rectangle, any desktop, and any frame of the pointer. However the area was drawn on before, each of
its cells gets the background of the topmost layer there, of the panel of the open menu, the start
button, the taskbar and the wallpaper in this order; the cell of the cursor is one of them and
shows the cursor over that background; and no cell outside of the area changes. -/
theorem draw_shows_layers (hgrid : area.OnGrid) (hcells : area.width * area.height ≤ maxCells)
    (d : Desktop) (p : PointerFrame) (now : Timestamp) :
    let scene := d.scene p
    let cursor := cursorCell scene area
    draw scene area now = drawOver scene area now Canvas.blank ∧
    area.contains cursor.1 cursor.2 = true ∧
    ∀ before : Canvas,
      let picture := drawOver scene area now before
      (∀ column row, area.contains column row = true →
        ∃ layer, topmost (layers scene area) column row = some layer ∧
          (picture column row).background = layer.ground) ∧
      ((picture cursor.1 cursor.2).symbol = '▲' ∧
        (picture cursor.1 cursor.2).foreground = .rgb 0 25 255) ∧
      ∀ column row, area.contains column row = false →
        picture column row = before column row := by
  intro scene cursor
  have hstacked := drawOver_stacked hgrid hcells d p now
  refine ⟨draw_eq_drawOver scene area now, area_contains_cursorCell hgrid d p, fun before =>
    ⟨fun column row hcell => ?_, drawCursor_cursorCell scene area _,
      fun column row => hstacked.outside before⟩⟩
  obtain ⟨layer, hlayer⟩ := topmost_layers scene hcell
  refine ⟨layer, hlayer, ?_⟩
  rw [hstacked.background before, hlayer]
  rfl

/-- On a small terminal the panel of the open menu covers the start button. -/
theorem draw_shows_panel :
    let area : CellRect := ⟨0, 0, 8, 4⟩
    let scene := (⟨true, false⟩ : Desktop).scene ⟨700, -5, false, none⟩
    area.OnGrid ∧ area.width * area.height ≤ maxCells ∧
      (toCells scene.startButton scene.size area).contains 0 3 = true ∧
      (draw scene area ⟨0, 0⟩ 0 3).background = .white ∧
      cursorCell scene area = (7, 0) ∧ (draw scene area ⟨0, 0⟩ 7 0).symbol = '▲' := by
  intro area scene
  have hgrid : area.OnGrid := ⟨by decide, by decide, by decide, by decide⟩
  have hcells : area.width * area.height ≤ maxCells := by decide
  have hcursor : cursorCell scene area = (7, 0) := by decide
  have htop : topmost (layers scene area) 0 3 = some ⟨⟨0, 2, 3, 2⟩, .white⟩ := by decide
  obtain ⟨hdraw, -, hpicture⟩ :=
    draw_shows_layers hgrid hcells ⟨true, false⟩ ⟨700, -5, false, none⟩ ⟨0, 0⟩
  obtain ⟨hlayers, ⟨hsymbol, -⟩, -⟩ := hpicture Canvas.blank
  obtain ⟨layer, hlayer, hground⟩ := hlayers 0 3 (by decide)
  obtain rfl := Option.some.inj (hlayer.symm.trans htop)
  refine ⟨hgrid, hcells, by decide, ?_, hcursor, ?_⟩
  · rw [hdraw]
    exact hground
  · rw [hdraw]
    rw [hcursor] at hsymbol
    exact hsymbol

end Screen

end ModalConsole
