import ModalConsole.Binary64.Root
import ModalConsole.Desktop.Basic

/-!
# From pixels to cells and back

The desktop is drawn on a grid of character cells. A coordinate of the grid has 16 bits. Model of
`cell_of`, `pixel_of` and `to_cells`, with `scale`, `scale_end` and `clip`.

* `scale` rounds a pixel down to the cell that it lies in, `scaleEnd` rounds the end of an
  interval up, so that a thin region keeps a cell; both stay on the grid.
* `cellOf` gives the cell of a pixel, `pixelOf` the pixel in the middle of a cell, `toCells` the
  rectangle of cells that a region is drawn on.
* A rectangle has at most `maxCells` cells: one that has more is shrunk, keeping its shape.
-/

namespace ModalConsole

/-- The greatest coordinate on a grid. -/
def maxCoordinate : Nat := 65535

/-- The greatest number of cells in a rectangle. -/
def maxCells : Nat := 65535

/-- A rectangle of cells. -/
structure CellRect where
  x : Nat
  y : Nat
  width : Nat
  height : Nat
  deriving DecidableEq, Repr

/-- A size in pixels. -/
structure PixelSize where
  width : Int
  height : Int
  deriving DecidableEq, Repr

/-- The size of a scene. -/
def Scene.size (s : Scene) : PixelSize := ⟨s.width, s.height⟩

/-- The size of the desktop. -/
def desktopSize : PixelSize := ⟨screenWidth, screenHeight⟩

namespace CellRect

/-- The column behind the last one. -/
def right (r : CellRect) : Nat := r.x + r.width

/-- The row behind the last one. -/
def bottom (r : CellRect) : Nat := r.y + r.height

/-- Does the cell lie in the rectangle? -/
def contains (r : CellRect) (column row : Nat) : Bool :=
  r.x ≤ column && column < r.right && r.y ≤ row && row < r.bottom

/-- A size of at most `maxCells` cells with the shape of the given one. -/
def fittingSize (width height : Nat) : Nat × Nat :=
  if width * height ≤ maxCells then (width, height)
  else
    let shape := Binary64.ofNat width / Binary64.ofNat height
    let high := (Binary64.ofNat maxCells / shape).sqrt
    ((high * shape).wholePart, high.wholePart)

/-- A rectangle of at most `maxCells` cells. -/
def fitted (x y width height : Nat) : CellRect :=
  let (w, h) := fittingSize width height
  ⟨x, y, w, h⟩

/-- The part of a rectangle that ends with an area. -/
def clip (r area : CellRect) : CellRect :=
  fitted r.x r.y (min r.width (area.right - r.x)) (min r.height (area.bottom - r.y))

end CellRect

namespace Screen

/-- A number as a coordinate, or `last` if it is too large for one. -/
def asCoordinate (n last : Nat) : Nat := if n ≤ maxCoordinate then n else last

/-- The cell that the pixel `value` of `extent` pixels lies in, out of `cells` cells. -/
def scale (value extent : Int) (cells : Nat) : Nat :=
  if extent ≤ 0 || cells = 0 then 0
  else
    let scaled := (clampInt 0 (extent - 1) value * cells / extent).toNat
    min (asCoordinate scaled (cells - 1)) (cells - 1)

/-- The cell behind those that the first `value` of `extent` pixels touch, out of `cells`
cells. -/
def scaleEnd (value extent : Int) (cells : Nat) : Nat :=
  if extent ≤ 0 then 0
  else
    let scaled := ((clampInt 0 extent value * cells + extent - 1) / extent).toNat
    min (asCoordinate scaled cells) cells

/-- The cell of a pixel. -/
def cellOf (x y : Int) (size : PixelSize) (area : CellRect) : Nat × Nat :=
  (area.x + scale x size.width area.width, area.y + scale y size.height area.height)

/-- The pixel in the middle of a cell; a cell outside the area counts as the nearest one in
it. -/
def pixelOf (column row : Nat) (size : PixelSize) (area : CellRect) : Int × Int :=
  let column := min (column - area.x) (area.width - 1)
  let row := min (row - area.y) (area.height - 1)
  (((2 * (column : Int) + 1) * size.width).tdiv (2 * (max area.width 1 : Nat)),
    ((2 * (row : Int) + 1) * size.height).tdiv (2 * (max area.height 1 : Nat)))

/-- The rectangle of cells that a region is drawn on. -/
def toCells (r : Region) (size : PixelSize) (area : CellRect) : CellRect :=
  let (x, y) := cellOf r.x r.y size area
  let right := area.x + scaleEnd r.right size.width area.width
  let bottom := area.y + scaleEnd r.bottom size.height area.height
  (CellRect.fitted x y (max (right - x) 1) (max (bottom - y) 1)).clip area

end Screen

end ModalConsole
