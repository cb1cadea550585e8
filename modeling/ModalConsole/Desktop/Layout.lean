/-!
# The layout of the desktop

The desktop is `screenWidth` by `screenHeight` pixels, with a taskbar along its lower edge, a start
button on the bar, and a menu that opens above the button. Model of `Region` and `MenuItem`, and of
the constants that place them.

A region holds the points of all its edges.
-/

namespace ModalConsole

/-- The width of the desktop in pixels. -/
def screenWidth : Int := 640

/-- The height of the desktop in pixels. -/
def screenHeight : Int := 480

/-- A rectangle of pixels. -/
structure Region where
  x : Int
  y : Int
  width : Int
  height : Int
  deriving DecidableEq, Repr

/-- The right edge of a region. -/
def Region.right (r : Region) : Int := r.x + r.width

/-- The lower edge of a region. -/
def Region.bottom (r : Region) : Int := r.y + r.height

/-- Does the point lie in the region or on an edge of it? -/
def Region.contains (r : Region) (x y : Int) : Bool :=
  r.x ≤ x && x ≤ r.right && r.y ≤ y && y ≤ r.bottom

theorem Region.contains_iff {r : Region} {x y : Int} : r.contains x y = true ↔
    (r.x ≤ x ∧ x ≤ r.right) ∧ r.y ≤ y ∧ y ≤ r.bottom := by
  simp only [contains, Bool.and_eq_true, decide_eq_true_eq, and_assoc]

/-- The bar along the lower edge. -/
def taskbar : Region := ⟨0, 445, screenWidth, 35⟩

/-- The button that opens and closes the menu. -/
def startButton : Region := ⟨4, 450, 70, 25⟩

/-- The panel of the open menu. -/
def menuPanel : Region := ⟨4, 280, 200, 165⟩

/-- The space between the edge of the panel and its items, and between two items. -/
def menuSpacing : Int := 8

/-- The height of an item of the menu. -/
def menuItemHeight : Int := 30

/-- An item of the menu. -/
inductive MenuItem where
  /-- Leaves the desktop for the shell. -/
  | terminal
  | reboot
  | shutdown
  deriving DecidableEq, Repr

namespace MenuItem

/-- The items from top to bottom. -/
def all : List MenuItem := [terminal, reboot, shutdown]

/-- The caption of an item. -/
def label : MenuItem → String
  | terminal => "Terminal"
  | reboot => "Reboot"
  | shutdown => "Shut down"

/-- The number of items above an item. -/
def position : MenuItem → Int
  | terminal => 0
  | reboot => 1
  | shutdown => 2

/-- The region of an item. -/
def region (item : MenuItem) : Region :=
  ⟨menuPanel.x + menuSpacing,
    menuPanel.y + menuSpacing + item.position * (menuItemHeight + menuSpacing),
    menuPanel.width - 2 * menuSpacing, menuItemHeight⟩

end MenuItem

end ModalConsole
