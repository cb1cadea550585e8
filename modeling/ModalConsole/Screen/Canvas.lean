import ModalConsole.Screen.Cells

/-!
# Canvases

A canvas gives each cell of the plane a character and a style. Painting changes the cells of a
rectangle and leaves all others as they are. Model of a `Buffer` and of the widgets `Clear`, `Block`
and `Paragraph`.

* A style sets a colour only where it has one, and adds to the weight.
* A paragraph sets its style on its whole rectangle and then writes one line of text over the
  characters there; a box sets its style, draws its edges and writes its title over the upper
  one.
-/

namespace ModalConsole

/-- A colour of a cell. -/
inductive Paint where
  /-- The colour that the terminal has by itself. -/
  | unset
  | black
  | white
  | red
  | gray
  | darkGray
  | rgb (red green blue : UInt8)
  deriving DecidableEq, Repr

/-- A character with its colours. -/
structure Cell where
  symbol : Char := ' '
  foreground : Paint := .unset
  background : Paint := .unset
  bold : Bool := false
  deriving DecidableEq, Repr

/-- A change of style. -/
structure Style where
  foreground : Option Paint := none
  background : Option Paint := none
  bold : Bool := false
  deriving DecidableEq, Repr

/-- A cell with a change of style. -/
def Cell.styled (c : Cell) (s : Style) : Cell :=
  { c with
    foreground := s.foreground.getD c.foreground
    background := s.background.getD c.background
    bold := c.bold || s.bold }

/-- Where a text stands in its line. -/
inductive Alignment where
  | left
  | center
  | right
  deriving DecidableEq, Repr

/-- The blank columns before a text of the given length. -/
def Alignment.offset (a : Alignment) (width length : Nat) : Nat :=
  match a with
  | .left => 0
  | .center => width / 2 - length / 2
  | .right => width - length

/-- The cells of the plane, by column and row. -/
abbrev Canvas := Nat → Nat → Cell

namespace Canvas

/-- The canvas that nothing was painted on. -/
def blank : Canvas := fun _ _ => {}

/-- Changes the cells of a rectangle. -/
def paint (c : Canvas) (r : CellRect) (change : Nat → Nat → Cell → Cell) : Canvas :=
  fun x y => if r.contains x y then change x y (c x y) else c x y

/-- Sets a style on a rectangle. -/
def fill (c : Canvas) (r : CellRect) (s : Style) : Canvas := c.paint r fun _ _ cell => cell.styled s

/-- Empties the cells of a rectangle. -/
def erase (c : Canvas) (r : CellRect) : Canvas := c.paint r fun _ _ _ => {}

/-- Writes a text into the first row of a rectangle, from a column of it on. -/
def write (c : Canvas) (r : CellRect) (offset : Nat) (text : List Char) (s : Style) : Canvas :=
  c.paint r fun x y cell =>
    if y = r.y && r.x + offset ≤ x then
      match text[x - (r.x + offset)]? with
      | some symbol => { cell with symbol := symbol }.styled s
      | none => cell
    else cell

/-- A line of text on a rectangle of one style. -/
def paragraph (c : Canvas) (r : CellRect) (ground : Style) (alignment : Alignment)
    (text : List Char) (s : Style) : Canvas :=
  (c.fill r ground).write r (alignment.offset r.width text.length) text s

/-- The character of the edge of a rectangle at a cell, if the cell lies on the edge. -/
def edgeSymbol (r : CellRect) (x y : Nat) : Option Char :=
  let onLeft := x = r.x
  let onTop := y = r.y
  let onRight := x + 1 = r.right
  let onBottom := y + 1 = r.bottom
  if onLeft && onTop then some '┌'
  else if onLeft && onBottom then some '└'
  else if onRight && onTop then some '┐'
  else if onRight && onBottom then some '┘'
  else if onTop || onBottom then some '─'
  else if onLeft || onRight then some '│'
  else none

/-- The part of a rectangle's upper edge between the corners. -/
def titleRect (r : CellRect) : CellRect := ⟨r.x + 1, r.y, r.width - 2, min r.height 1⟩

/-- A box with a title. -/
def box (c : Canvas) (r : CellRect) (s : Style) (title : List Char) : Canvas :=
  let framed := (c.fill r s).paint r fun x y cell =>
    match edgeSymbol r x y with
    | some symbol => { cell with symbol := symbol }
    | none => cell
  framed.write (titleRect r) 0 title {}

end Canvas

end ModalConsole
