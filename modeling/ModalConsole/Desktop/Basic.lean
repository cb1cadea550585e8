import ModalConsole.Desktop.Layout
import ModalConsole.Input

/-!
# The desktop

What a pointer does to the desktop, frame by frame, and what is to be drawn. Model of `DesktopShell`
with `frame` and `scene`.

* A click is a frame in which the button is held after a frame in which it was not.
* A click on the start button opens or closes the menu; a click on an item of the open menu
  closes it and activates the item.
* The escape key leaves the desktop and does not touch the menu.
-/

namespace ModalConsole

/-- The state of the desktop between frames. -/
structure Desktop where
  menuOpen : Bool := false
  /-- Was the button held in the last frame? -/
  buttonDown : Bool := false
  deriving DecidableEq, Repr

/-- What a frame asks for. -/
inductive DesktopAction where
  | idle
  /-- The menu has been opened or closed. -/
  | toggled (isOpen : Bool)
  | activate (item : MenuItem)
  | leave
  deriving DecidableEq, Repr

/-- The picture of a desktop. -/
structure Scene where
  width : Int
  height : Int
  taskbar : Region
  startButton : Region
  /-- The panel and the items of the menu, if it is open. -/
  menu : Option (Region × List (MenuItem × Region))
  cursor : Int × Int
  deriving DecidableEq, Repr

/-- The nearest integer to `n` from `low` up to `high`, for `low ≤ high`. -/
def clampInt (low high n : Int) : Int := max low (min n high)

namespace Desktop

/-- The item of the menu at a point. -/
def itemAt (x y : Int) : Option MenuItem := MenuItem.all.find? (·.region.contains x y)

/-- A click at a point. -/
def click (d : Desktop) (x y : Int) : Desktop × DesktopAction :=
  if startButton.contains x y then
    ({ d with menuOpen := !d.menuOpen }, .toggled (!d.menuOpen))
  else if d.menuOpen then
    match itemAt x y with
    | some item => ({ d with menuOpen := false }, .activate item)
    | none => (d, .idle)
  else (d, .idle)

/-- Takes in one frame of the pointer. -/
def frame (d : Desktop) (p : PointerFrame) : Desktop × DesktopAction :=
  let held := { d with buttonDown := p.pressed }
  if p.key = some .escape then (held, .leave)
  else if p.pressed && !d.buttonDown then held.click p.x p.y
  else (held, .idle)

/-- The picture of the desktop with the pointer of a frame. -/
def scene (d : Desktop) (p : PointerFrame) : Scene :=
  { width := screenWidth
    height := screenHeight
    taskbar := ModalConsole.taskbar
    startButton := ModalConsole.startButton
    menu := if d.menuOpen then some (menuPanel, MenuItem.all.map fun item => (item, item.region))
      else none
    cursor := (clampInt 0 (screenWidth - 1) p.x, clampInt 0 (screenHeight - 1) p.y) }

end Desktop

end ModalConsole
