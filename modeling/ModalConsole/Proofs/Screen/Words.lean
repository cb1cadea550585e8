import ModalConsole.Proofs.Screen.Cells

/-!
# Cells and pixels in machine words

The way from pixels to cells and back, computed on words of a fixed size: coordinates of the grid
have 16 bits and no sign, pixels have 32 bits, and products of pixels with cells 64. Here every
operation says whether its result fits (`coordinate?`, `word?`), a quotient wants a divisor, and
clamping wants its bounds in order. Where a value is converted to a coordinate, no other one stands
in for it.

* `scale?`, `scaleEnd?`, `cellOf?`, `pixelOf?`, `clip?`, `toCells?`: the functions of the screen on
  words.
* `Axis.scale?_eq`, `Axis.scaleEnd?_eq`, `Axis.middle?_eq`: along one axis of at most `maxExtent`
  pixels they have a result, the exact one.
* **`words_suffice`**: so they have on every area of the grid and every scene of that size, and the
  two roundings are monotone and keep every pixel on a cell.
-/

namespace ModalConsole.Screen

/-! ## Words -/

/-- The first integer that 32 bits with a sign do not hold. -/
def pixelLimit : Int := 2147483648

/-- The first integer that 64 bits with a sign do not hold. -/
def productLimit : Int := 9223372036854775808

/-- The words with a sign that hold the integers below a limit hold this one. -/
def IsWord (limit n : Int) : Prop := -limit ≤ n ∧ n < limit

instance (limit n : Int) : Decidable (IsWord limit n) := inferInstanceAs (Decidable (_ ∧ _))

/-- An integer as a word with a sign. -/
def word? (limit n : Int) : Option Int := if IsWord limit n then some n else none

/-- An integer as a coordinate. -/
def coordinate? (n : Int) : Option Nat :=
  if 0 ≤ n ∧ n ≤ maxCoordinate then some n.toNat else none

/-- A quotient of words, rounded towards zero. -/
def quotient? (limit n d : Int) : Option Int := if d = 0 then none else word? limit (n.tdiv d)

/-- The nearest word between two bounds. -/
def clamp? (low high n : Int) : Option Int :=
  if low ≤ high then some (clampInt low high n) else none

/-- A computation goes on with the result of its first step. -/
theorem bind_eq_of_some {α β : Type} {o : Option α} {a : α} (h : o = some a)
    (f : α → Option β) : (o >>= f) = f a := by
  rw [h]
  rfl

theorem word?_eq {limit n : Int} (h : IsWord limit n) : word? limit n = some n := if_pos h

theorem word?_of_nonneg {limit n : Int} (hn : 0 ≤ n) (h : n < limit) : word? limit n = some n :=
  word?_eq ⟨by omega, h⟩

theorem coordinate?_eq {n : Int} (hlow : 0 ≤ n) (hhigh : n ≤ maxCoordinate) :
    coordinate? n = some n.toNat :=
  if_pos ⟨hlow, hhigh⟩

theorem coordinate?_add {a b : Nat} (h : a + b ≤ maxCoordinate) :
    coordinate? ((a : Int) + b) = some (a + b) :=
  coordinate?_eq (by omega) (by omega)

theorem quotient?_eq {limit n d : Int} (hn : 0 ≤ n) (hd : 0 < d) (h : n < limit) :
    quotient? limit n d = some (n / d) := by
  rw [quotient?, if_neg hd.ne', Int.tdiv_eq_ediv_of_nonneg hn]
  exact word?_of_nonneg (Int.ediv_nonneg hn hd.le) ((Int.ediv_le_self d hn).trans_lt h)

theorem clamp?_eq {low high : Int} (h : low ≤ high) (n : Int) :
    clamp? low high n = some (clampInt low high n) := if_pos h

theorem asCoordinate_toNat {n : Int} (h : n ≤ maxCoordinate) (last : Nat) :
    asCoordinate n.toNat last = n.toNat := if_pos (by omega)

/-! ## The functions of the screen on words -/

/-- `scale` on words. -/
def scale? (value extent : Int) (cells : Nat) : Option Nat :=
  if extent ≤ 0 || cells = 0 then some 0
  else do
    let last ← word? pixelLimit (extent - 1)
    let pixel ← clamp? 0 last value
    let product ← word? productLimit (pixel * cells)
    let scaled ← quotient? productLimit product extent
    let lastCell ← coordinate? ((cells : Int) - 1)
    let cell ← coordinate? scaled
    return min cell lastCell

/-- `scaleEnd` on words. -/
def scaleEnd? (value extent : Int) (cells : Nat) : Option Nat :=
  if extent ≤ 0 then some 0
  else do
    let pixel ← clamp? 0 extent value
    let product ← word? productLimit (pixel * cells)
    let sum ← word? productLimit (product + extent)
    let raised ← word? productLimit (sum - 1)
    let scaled ← quotient? productLimit raised extent
    let cell ← coordinate? scaled
    return min cell cells

/-- `cellOf` on words. -/
def cellOf? (x y : Int) (size : PixelSize) (area : CellRect) : Option (Nat × Nat) := do
  let column ← scale? x size.width area.width
  let row ← scale? y size.height area.height
  return (← coordinate? (area.x + column), ← coordinate? (area.y + row))

/-- The pixel in the middle of a cell along one axis, on words. -/
def middle? (cell : Nat) (extent : Int) (cells : Nat) : Option Int := do
  let doubled ← word? pixelLimit (2 * cell)
  let odd ← word? pixelLimit (doubled + 1)
  let product ← word? pixelLimit (odd * extent)
  let parts ← word? pixelLimit (2 * (max cells 1 : Nat))
  quotient? pixelLimit product parts

/-- `pixelOf` on words. -/
def pixelOf? (column row : Nat) (size : PixelSize) (area : CellRect) : Option (Int × Int) := do
  let column := min (column - area.x) (area.width - 1)
  let row := min (row - area.y) (area.height - 1)
  return (← middle? column size.width area.width, ← middle? row size.height area.height)

/-- The part of a rectangle that ends with an area, on words. -/
def clip? (r area : CellRect) : Option CellRect := do
  let right ← coordinate? ((area.x : Int) + area.width)
  let bottom ← coordinate? ((area.y : Int) + area.height)
  return .fitted r.x r.y (min r.width (right - r.x)) (min r.height (bottom - r.y))

/-- `toCells` on words. -/
def toCells? (r : Region) (size : PixelSize) (area : CellRect) : Option CellRect := do
  let (x, y) ← cellOf? r.x r.y size area
  let stopX ← word? pixelLimit (r.x + r.width)
  let right ← coordinate? (area.x + (← scaleEnd? stopX size.width area.width))
  let stopY ← word? pixelLimit (r.y + r.height)
  let bottom ← coordinate? (area.y + (← scaleEnd? stopY size.height area.height))
  clip? (.fitted x y (max (right - x) 1) (max (bottom - y) 1)) area

/-! ## Along one axis -/

/-- The greatest number of pixels along an axis. With more, the middle of the last cell of the
widest grid could not be computed on words of 32 bits. -/
def maxExtent : Int := 16384

namespace Axis

variable {extent value : Int} {cells cell : Nat}

/-- The product of a pixel of an axis with the number of its cells. -/
theorem mul_bounds (h : Axis extent cells) (hextent : extent ≤ maxExtent) {pixel : Int}
    (hlow : 0 ≤ pixel) (hhigh : pixel ≤ extent) :
    0 ≤ pixel * cells ∧ pixel * cells ≤ extent * cells ∧
      pixel * cells ≤ maxExtent * maxCoordinate := by
  have hcells : (cells : Int) ≤ maxCoordinate := by exact_mod_cast h.cells_le
  have hnonneg : (0 : Int) ≤ cells := Int.natCast_nonneg cells
  refine ⟨Int.mul_nonneg hlow hnonneg, Int.mul_le_mul_of_nonneg_right hhigh hnonneg, ?_⟩
  exact Int.mul_le_mul (hhigh.trans hextent) hcells hnonneg (by decide)

theorem scale?_eq (h : Axis extent cells) (hextent : extent ≤ maxExtent) (value : Int) :
    scale? value extent cells = some (scale value extent cells) := by
  have hpos := h.extent_pos
  have hcells := h.cells_pos
  have hgrid : (cells : Int) ≤ maxCoordinate := by exact_mod_cast h.cells_le
  obtain ⟨hlow, hhigh⟩ := clampInt_bounds (show 0 ≤ extent - 1 by omega) value
  have hclamp := clamp?_eq (show 0 ≤ extent - 1 by omega) value
  generalize hpixel : clampInt 0 (extent - 1) value = pixel at hlow hhigh hclamp
  obtain ⟨hnonneg, hle, hmax⟩ := h.mul_bounds hextent hlow (by omega)
  have hlimit : pixel * cells < productLimit := hmax.trans_lt (by decide)
  have hscaled : pixel * cells / extent ≤ maxCoordinate :=
    ((Int.ediv_le_ediv hpos hle).trans (Int.mul_ediv_cancel_left _ hpos.ne').le).trans hgrid
  have hoff : (decide (extent ≤ 0) || decide (cells = 0)) = false := by
    simp only [Bool.or_eq_false_iff, decide_eq_false_iff_not]
    omega
  have hlast : word? pixelLimit (extent - 1) = some (extent - 1) :=
    word?_of_nonneg (by omega) ((Int.sub_one_lt_of_le hextent).trans (by decide))
  have hlastCell : coordinate? ((cells : Int) - 1) = some (cells - 1) := by
    rw [coordinate?_eq (by omega) (by omega)]
    exact congrArg some (by omega)
  simp only [scale?, scale, hoff, Bool.false_eq_true, if_false, hpixel, hlast, hclamp, hlastCell,
    word?_of_nonneg hnonneg hlimit, quotient?_eq hnonneg hpos hlimit,
    coordinate?_eq (Int.ediv_nonneg hnonneg hpos.le) hscaled, asCoordinate_toNat hscaled,
    Option.bind_eq_bind, Option.bind_some, Option.pure_def]

theorem scaleEnd?_eq (h : Axis extent cells) (hextent : extent ≤ maxExtent) (value : Int) :
    scaleEnd? value extent cells = some (scaleEnd value extent cells) := by
  have hpos := h.extent_pos
  have hgrid : (cells : Int) ≤ maxCoordinate := by exact_mod_cast h.cells_le
  obtain ⟨hlow, hhigh⟩ := clampInt_bounds hpos.le value
  have hclamp := clamp?_eq hpos.le value
  generalize hpixel : clampInt 0 extent value = pixel at hlow hhigh hclamp
  obtain ⟨hnonneg, hle, hmax⟩ := h.mul_bounds hextent hlow hhigh
  have hproduct : pixel * cells < productLimit := hmax.trans_lt (by decide)
  have hsum : pixel * cells + extent < productLimit :=
    (Int.add_le_add hmax hextent).trans_lt (by decide)
  have hraised : pixel * cells + extent - 1 < productLimit := by omega
  have hraisedNonneg : 0 ≤ pixel * cells + extent - 1 := by omega
  have hscaled : (pixel * cells + extent - 1) / extent ≤ maxCoordinate := by
    refine le_trans (Int.lt_add_one_iff.mp (Int.ediv_lt_of_lt_mul hpos ?_)) hgrid
    rw [Int.add_mul, Int.mul_comm (cells : Int)]
    omega
  simp only [scaleEnd?, scaleEnd, if_neg (not_le.mpr hpos), hpixel, hclamp,
    word?_of_nonneg hnonneg hproduct, word?_of_nonneg (Int.add_nonneg hnonneg hpos.le) hsum,
    word?_of_nonneg hraisedNonneg hraised, quotient?_eq hraisedNonneg hpos hraised,
    coordinate?_eq (Int.ediv_nonneg hraisedNonneg hpos.le) hscaled, asCoordinate_toNat hscaled,
    Option.bind_eq_bind, Option.bind_some, Option.pure_def]

theorem middle?_eq (h : Axis extent cells) (hextent : extent ≤ maxExtent) (hcell : cell < cells) :
    middle? cell extent cells = some (middle cell extent cells) := by
  have hpos := h.extent_pos
  have hcells := h.cells_pos
  have hgrid : (cells : Int) ≤ 65535 := by exact_mod_cast h.cells_le
  have hproduct : (2 * (cell : Int) + 1) * extent ≤ 131069 * maxExtent :=
    Int.mul_le_mul (by omega) hextent hpos.le (by decide)
  have hnonneg : 0 ≤ (2 * (cell : Int) + 1) * extent := Int.mul_nonneg (by omega) hpos.le
  have hlimit : (2 * (cell : Int) + 1) * extent < pixelLimit := hproduct.trans_lt (by decide)
  have hsmall : (131070 : Int) < pixelLimit := by decide
  have hdoubled : word? pixelLimit (2 * (cell : Int)) = some (2 * (cell : Int)) :=
    word?_of_nonneg (by omega) (by omega)
  have hodd : word? pixelLimit (2 * (cell : Int) + 1) = some (2 * (cell : Int) + 1) :=
    word?_of_nonneg (by omega) (by omega)
  have hparts : word? pixelLimit (2 * (cells : Int)) = some (2 * (cells : Int)) :=
    word?_of_nonneg (by omega) (by omega)
  -- one step after the other: to unfold `word?` on a variable is to count down from the limit
  rw [middle?, Nat.max_eq_left hcells, bind_eq_of_some hdoubled, bind_eq_of_some hodd,
    bind_eq_of_some (word?_of_nonneg hnonneg hlimit), bind_eq_of_some hparts,
    quotient?_eq hnonneg (by omega) hlimit, middle]

end Axis

/-! ## On an area -/

variable {size : PixelSize} {area : CellRect}

theorem cellOf?_eq (hgrid : area.OnGrid) (hcolumns : Axis size.width area.width)
    (hrows : Axis size.height area.height) (hwidth : size.width ≤ maxExtent)
    (hheight : size.height ≤ maxExtent) (x y : Int) :
    cellOf? x y size area = some (cellOf x y size area) := by
  have hcolumn : area.x + scale x size.width area.width ≤ maxCoordinate :=
    (Nat.add_le_add_left hcolumns.scale_lt.le _).trans hgrid.right_le
  have hrow : area.y + scale y size.height area.height ≤ maxCoordinate :=
    (Nat.add_le_add_left hrows.scale_lt.le _).trans hgrid.bottom_le
  simp only [cellOf?, cellOf, hcolumns.scale?_eq hwidth, hrows.scale?_eq hheight,
    coordinate?_add hcolumn, coordinate?_add hrow, Option.bind_eq_bind, Option.bind_some,
    Option.pure_def]

theorem pixelOf?_eq (hgrid : area.OnGrid) (hcolumns : Axis size.width area.width)
    (hrows : Axis size.height area.height) (hwidth : size.width ≤ maxExtent)
    (hheight : size.height ≤ maxExtent) (column row : Nat) :
    pixelOf? column row size area = some (pixelOf column row size area) := by
  have hcolumn : min (column - area.x) (area.width - 1) < area.width := by
    have := hgrid.width_pos
    omega
  have hrow : min (row - area.y) (area.height - 1) < area.height := by
    have := hgrid.height_pos
    omega
  simp only [pixelOf?, pixelOf_eq hcolumns hrows, hcolumns.middle?_eq hwidth hcolumn,
    hrows.middle?_eq hheight hrow, Option.bind_eq_bind, Option.bind_some, Option.pure_def]

theorem clip?_eq (hgrid : area.OnGrid) (r : CellRect) : clip? r area = some (r.clip area) := by
  simp only [clip?, CellRect.clip, CellRect.right, CellRect.bottom,
    coordinate?_add (show area.x + area.width ≤ maxCoordinate from hgrid.right_le),
    coordinate?_add (show area.y + area.height ≤ maxCoordinate from hgrid.bottom_le),
    Option.bind_eq_bind, Option.bind_some, Option.pure_def]

theorem toCells?_eq (hgrid : area.OnGrid) (hcolumns : Axis size.width area.width)
    (hrows : Axis size.height area.height) (hwidth : size.width ≤ maxExtent)
    (hheight : size.height ≤ maxExtent) {r : Region} (hright : IsWord pixelLimit r.right)
    (hbottom : IsWord pixelLimit r.bottom) :
    toCells? r size area = some (toCells r size area) := by
  have hcolumn : area.x + scaleEnd r.right size.width area.width ≤ maxCoordinate :=
    (Nat.add_le_add_left hcolumns.scaleEnd_le _).trans hgrid.right_le
  have hrow : area.y + scaleEnd r.bottom size.height area.height ≤ maxCoordinate :=
    (Nat.add_le_add_left hrows.scaleEnd_le _).trans hgrid.bottom_le
  have hstopX : word? pixelLimit (r.x + r.width) = some r.right := word?_eq hright
  have hstopY : word? pixelLimit (r.y + r.height) = some r.bottom := word?_eq hbottom
  simp only [toCells?, toCells, cellOf?_eq hgrid hcolumns hrows hwidth hheight, hstopX, hstopY,
    hcolumns.scaleEnd?_eq hwidth, hrows.scaleEnd?_eq hheight, coordinate?_add hcolumn,
    coordinate?_add hrow, clip?_eq hgrid, Option.bind_eq_bind, Option.bind_some]

/-- **Words of these sizes suffice.** On every area of the grid and every scene of at most
`maxExtent` by `maxExtent` pixels, the functions of the screen have exact results on words: for
every pixel, for every cell, for every region whose right and lower edge are words, and for every
rectangle to be clipped. Along both axes the cell that a pixel is rounded to, and the end that it is
rounded up to, grow with the pixel, and a pixel of the scene lies in a cell before the end behind
it. -/
theorem words_suffice (hgrid : area.OnGrid) (hwidth : 1 ≤ size.width ∧ size.width ≤ maxExtent)
    (hheight : 1 ≤ size.height ∧ size.height ≤ maxExtent) :
    ((∀ x y, cellOf? x y size area = some (cellOf x y size area)) ∧
      (∀ column row, pixelOf? column row size area = some (pixelOf column row size area)) ∧
      (∀ r : Region, IsWord pixelLimit r.right → IsWord pixelLimit r.bottom →
        toCells? r size area = some (toCells r size area)) ∧
      ∀ r : CellRect, clip? r area = some (r.clip area)) ∧
    ∀ axis ∈ [(size.width, area.width), (size.height, area.height)],
      (∀ value, scale? value axis.1 axis.2 = some (scale value axis.1 axis.2) ∧
        scaleEnd? value axis.1 axis.2 = some (scaleEnd value axis.1 axis.2)) ∧
      (∀ value value', value ≤ value' →
        scale value axis.1 axis.2 ≤ scale value' axis.1 axis.2 ∧
        scaleEnd value axis.1 axis.2 ≤ scaleEnd value' axis.1 axis.2) ∧
      ∀ value, 0 ≤ value → value < axis.1 →
        scale value axis.1 axis.2 < scaleEnd (value + 1) axis.1 axis.2 := by
  have hcolumns := axis_columns hgrid (Int.lt_of_lt_of_le Int.one_pos hwidth.1)
  have hrows := axis_rows hgrid (Int.lt_of_lt_of_le Int.one_pos hheight.1)
  refine ⟨⟨cellOf?_eq hgrid hcolumns hrows hwidth.2 hheight.2,
    pixelOf?_eq hgrid hcolumns hrows hwidth.2 hheight.2,
    fun r => toCells?_eq hgrid hcolumns hrows hwidth.2 hheight.2, clip?_eq hgrid⟩,
    fun axis hmem => ?_⟩
  obtain ⟨haxis, hextent⟩ : Axis axis.1 axis.2 ∧ axis.1 ≤ maxExtent := by
    rcases List.mem_cons.mp hmem with rfl | hmem
    · exact ⟨hcolumns, hwidth.2⟩
    · obtain rfl := List.mem_singleton.mp hmem
      exact ⟨hrows, hheight.2⟩
  exact ⟨fun value => ⟨haxis.scale?_eq hextent value, haxis.scaleEnd?_eq hextent value⟩,
    fun value value' hle => ⟨haxis.scale_mono hle, haxis.scaleEnd_mono hle⟩,
    fun value hlow _ => haxis.scale_lt_scaleEnd (Int.lt_succ value) (by omega)⟩

/-- The largest extents that words suffice for, with a region as far to the left and as far down as
words reach. -/
theorem words_suffice_widest :
    let size : PixelSize := ⟨16384, 1⟩
    let area : CellRect := ⟨0, 7, 65535, 1⟩
    let r : Region := ⟨-2147483648, 2147483640, 4, 7⟩
    area.OnGrid ∧ (1 ≤ size.width ∧ size.width ≤ maxExtent) ∧
      (1 ≤ size.height ∧ size.height ≤ maxExtent) ∧
      (IsWord pixelLimit r.right ∧ IsWord pixelLimit r.bottom) ∧
      pixelOf? 65534 9 size area = some (16383, 0) ∧
      toCells? r size area = some ⟨0, 7, 1, 1⟩ := by
  intro size area r
  have hgrid : area.OnGrid := ⟨by decide, by decide, by decide, by decide⟩
  have hwidth : 1 ≤ size.width ∧ size.width ≤ maxExtent := by decide
  have hheight : 1 ≤ size.height ∧ size.height ≤ maxExtent := by decide
  have hword : IsWord pixelLimit r.right ∧ IsWord pixelLimit r.bottom := by decide
  have hpixel : pixelOf 65534 9 size area = (16383, 0) := by decide
  have hcells : toCells r size area = ⟨0, 7, 1, 1⟩ := by decide
  obtain ⟨⟨-, hpixels, hregions, -⟩, -⟩ := words_suffice hgrid hwidth hheight
  refine ⟨hgrid, hwidth, hheight, hword, ?_, ?_⟩
  · rw [hpixels, hpixel]
  · rw [hregions r hword.1 hword.2, hcells]

/-- One more pixel is too many. -/
example : pixelOf? 65534 0 ⟨16385, 1⟩ ⟨0, 0, 65535, 1⟩ = none := by decide

end ModalConsole.Screen
