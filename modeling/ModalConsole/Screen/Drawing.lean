import ModalConsole.Screen.Canvas
import ModalConsole.Timestamp

/-!
# Drawing the desktop

The layers of the desktop from the lowest to the highest: the wallpaper, the taskbar with the clock,
the start button, the panel of the open menu with its items, and the cursor. Model of `draw` and of
its `Theme`.
-/

namespace ModalConsole

namespace Screen

/-- The style of the wallpaper. -/
def wallpaperStyle : Style := { background := some (.rgb 0 128 128) }

/-- The style of the taskbar. -/
def taskbarStyle : Style := { background := some .gray, foreground := some .black }

/-- The style of the start button. -/
def buttonStyle : Style :=
  { background := some .darkGray, foreground := some .white, bold := true }

/-- The style of the menu. -/
def menuStyle : Style := { background := some .white, foreground := some .black }

/-- The style behind the items of the menu. -/
def itemGround : Style := { background := some .white }

/-- The style of an item's caption: red for those that stop the machine. -/
def itemStyle : MenuItem → Style
  | .terminal => { foreground := some .black }
  | .reboot => { foreground := some .red }
  | .shutdown => { foreground := some .red }

/-- The style of the cursor. -/
def cursorStyle : Style := { foreground := some (.rgb 0 25 255) }

/-- The text of the clock. -/
def clockLabel (now : Timestamp) : List Char := now.clockText.toList ++ [' ']

/-- The wallpaper. -/
def drawWallpaper (area : CellRect) (c : Canvas) : Canvas := c.fill area wallpaperStyle

/-- The taskbar with the clock at its right end. -/
def drawTaskbar (scene : Scene) (area : CellRect) (now : Timestamp) (c : Canvas) : Canvas :=
  c.paragraph (toCells scene.taskbar scene.size area) taskbarStyle .right (clockLabel now) {}

/-- The start button. -/
def drawButton (scene : Scene) (area : CellRect) (c : Canvas) : Canvas :=
  c.paragraph (toCells scene.startButton scene.size area) buttonStyle .center "Start".toList {}

/-- An item of the menu. -/
def drawItem (scene : Scene) (area : CellRect) (c : Canvas) (item : MenuItem × Region) : Canvas :=
  c.paragraph (toCells item.2 scene.size area) itemGround .left (' ' :: item.1.label.toList)
    (itemStyle item.1)

/-- The menu, if it is open. -/
def drawMenu (scene : Scene) (area : CellRect) (c : Canvas) : Canvas :=
  match scene.menu with
  | none => c
  | some (panel, items) =>
    let r := toCells panel scene.size area
    items.foldl (drawItem scene area) ((c.erase r).box r menuStyle " Lebirun ".toList)

/-- The cursor. -/
def drawCursor (scene : Scene) (area : CellRect) (c : Canvas) : Canvas :=
  let (x, y) := cellOf scene.cursor.1 scene.cursor.2 scene.size area
  c.paragraph ⟨x, y, 1, 1⟩ {} .left ['▲'] cursorStyle

/-- A scene on the cells of an area. -/
def draw (scene : Scene) (area : CellRect) (now : Timestamp) : Canvas :=
  drawCursor scene area <| drawMenu scene area <| drawButton scene area <|
    drawTaskbar scene area now <| drawWallpaper area Canvas.blank

end Screen

end ModalConsole
