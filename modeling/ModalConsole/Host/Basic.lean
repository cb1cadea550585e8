import ModalConsole.Host.Event
import ModalConsole.Host.LineEditor
import ModalConsole.Power
import ModalConsole.Screen.Cells
import ModalConsole.Terminal.Basic
import ModalConsole.Text.Digits

/-!
# Hosts: sessions on a real terminal

Model of `CrosstermTerminal`. A host takes events from a queue and writes text with control
sequences.

* The text modes write to the main screen, and a line feed also returns to the left edge. The
  desktop has a screen of its own, which is left before the next text is written or read.
* A line is read through the line editor. An interrupt requests a shutdown and ends the read
  with an empty line, or with the escape key where a key is read.
* A frame of the pointer ends at a tick or at a key. A button that goes down and up within one
  frame is reported as held in this frame and let go in the next.
* A read fails when the queue is empty.
* Time passes while the host waits for events, so the clock shows one moment from one event to the
  next.
-/

namespace ModalConsole

open Text

/-- Why a host cannot read. -/
inductive HostError where
  /-- There are no more events. -/
  | inputEnded
  deriving DecidableEq, Repr

/-- The words that report why a host cannot read. -/
def HostError.message : HostError → String
  | .inputEnded => "input thread stopped"

/-- What a host shows. -/
inductive Display where
  /-- The main screen. -/
  | text
  /-- The screen of the desktop, with the last picture drawn on it. -/
  | desktop (picture : Option Scene)
  deriving DecidableEq, Repr

/-- A terminal with its queue of events. -/
structure Host where
  events : List HostEvent
  /-- What was written so far. -/
  output : String := ""
  display : Display := .text
  pointer : PointerFrame := .resting
  /-- Was the button let go within the last frame? -/
  releasePending : Bool := false
  columns : Nat := 80
  rows : Nat := 24
  latch : PowerLatch := {}
  /-- What the clock shows while so many events are still to come. -/
  clock : Nat → Timestamp := fun _ => ⟨0, 0⟩

namespace Host

/-- What the clock shows. -/
def now (h : Host) : Timestamp := h.clock h.events.length

/-- Writes a text as it is. -/
def emit (h : Host) (text : String) : Host := { h with output := h.output ++ text }

/-! ## Control sequences -/

/-- A control sequence. -/
def controlSequence (body : String) : String := "\x1b[" ++ body

/-- The number of a colour in the palette of the terminal. -/
def paletteIndex : Color → Nat
  | .black => 0
  | .blue => 4
  | .green => 10
  | .cyan => 14
  | .red => 9
  | .magenta => 13
  | .yellow => 11
  | .gray => 7
  | .darkGray => 8
  | .white => 15

/-- Sets the colour of the text. -/
def foregroundSequence (color : Color) : String :=
  controlSequence ("38;5;" ++ decimalString (paletteIndex color) ++ "m")

/-- Sets the colour of the background. -/
def backgroundSequence (color : Color) : String :=
  controlSequence ("48;5;" ++ decimalString (paletteIndex color) ++ "m")

/-- Empties the screen and puts the cursor into its corner. -/
def clearSequence : String := controlSequence "2J" ++ controlSequence "1;1H"

/-- Shows the cursor. -/
def showCursor : String := controlSequence "?25h"

/-- Hides the cursor. -/
def hideCursor : String := controlSequence "?25l"

/-- Switches to the screen of the desktop and to reports of the mouse. -/
def enterSequence : String :=
  controlSequence "?1049h" ++ controlSequence "?1000h" ++ controlSequence "?1002h"
    ++ controlSequence "?1003h" ++ controlSequence "?1015h" ++ controlSequence "?1006h"
    ++ hideCursor

/-- Switches back to the main screen. -/
def leaveSequence : String :=
  controlSequence "?1006l" ++ controlSequence "?1015l" ++ controlSequence "?1003l"
    ++ controlSequence "?1002l" ++ controlSequence "?1000l" ++ controlSequence "?1049l"
    ++ showCursor

/-- A line end on the main screen. -/
def lineEnd : String := "\r\n"

/-- A character of a text as it is written. -/
def screenChars (c : Char) : List Char := if c = '\n' then ['\r', '\n'] else [c]

/-- A text as it is written. -/
def screenText (s : String) : String := String.ofList (s.toList.flatMap screenChars)

/-! ## The two screens -/

/-- Does the host show the desktop? -/
def inDesktop (h : Host) : Bool := h.display != .text

/-- Shows the desktop, with the pointer at rest if it was not shown before. -/
def enterDesktop (h : Host) : Host :=
  match h.display with
  | .desktop _ => h
  | .text =>
    { h with display := .desktop none, pointer := .resting, releasePending := false }.emit
      enterSequence

/-- Shows the main screen. -/
def leaveDesktop (h : Host) : Host :=
  match h.display with
  | .text => h
  | .desktop _ => { h with display := .text }.emit leaveSequence

/-- The cells of the terminal, of which there is at least one. -/
def area (h : Host) : CellRect := .fitted 0 0 (max h.columns 1) (max h.rows 1)

/-- Carries out an effect. -/
def perform (h : Host) : Effect → Host
  | .text content => h.leaveDesktop.emit (screenText content)
  | .clear => h.leaveDesktop.emit clearSequence
  | .foreground color => h.emit (foregroundSequence color)
  | .background color => h.emit (backgroundSequence color)
  | .pause _ => h
  | .randomPause _ _ => h
  | .present scene => { h.enterDesktop with display := .desktop (some scene) }

/-! ## Keys and lines -/

/-- What an event changes while a key or a line is read: the size of the terminal, and the
request that an interrupt makes. -/
def absorb (h : Host) (e : HostEvent) : Host :=
  match e.keyReport, e with
  | .interrupt, _ => { h with latch := h.latch.request .shutdown }
  | _, .resize columns rows => { h with columns := columns, rows := rows }
  | _, _ => h

/-- Takes events up to the next key; an interrupt is no key. -/
def nextKeyFrom : List HostEvent → Host → Except HostError (Option Key) × Host
  | [], h => (.error .inputEnded, { h with events := [] })
  | e :: rest, h =>
    match e.keyReport with
    | .nothing => nextKeyFrom rest (h.absorb e)
    | .interrupt => (.ok none, { h.absorb e with events := rest })
    | .key k => (.ok (some k), { h.absorb e with events := rest })

/-- Takes events up to the next key; an interrupt is no key. -/
def nextKey (h : Host) : Except HostError (Option Key) × Host := nextKeyFrom h.events h

/-- Reads a key. -/
def readKey (h : Host) : Except HostError Key × Host :=
  match h.leaveDesktop.nextKey with
  | (.ok k, h) => (.ok (k.getD .escape), h)
  | (.error e, h) => (.error e, h)

/-- Takes events up to the end of the line in the editor. -/
def readLineFrom : List HostEvent → LineEditor → Host → Except HostError String × Host
  | [], _, h => (.error .inputEnded, { h with events := [] })
  | e :: rest, editor, h =>
    match e.keyReport with
    | .nothing => readLineFrom rest editor (h.absorb e)
    | .interrupt => (.ok "", { h.absorb e with events := rest }.emit lineEnd)
    | .key k =>
      match editor.feed (some k) with
      | (editor, .pending) => readLineFrom rest editor (h.absorb e)
      | (editor, .echo text) => readLineFrom rest editor ((h.absorb e).emit text)
      | (_, .done line) => (.ok line, { h.absorb e with events := rest }.emit lineEnd)

/-- Reads a line. -/
def readLine (h : Host) : Except HostError String × Host :=
  let shown := h.leaveDesktop.emit showCursor
  readLineFrom shown.events {} shown

/-! ## Pointer frames -/

/-- The pointer after a report of the mouse, `clicked` telling whether the button went down in
this frame. -/
def movePointer (h : Host) (clicked : Bool) (motion : MouseMotion) (column row : Nat) : Host :=
  let (x, y) := Screen.pixelOf column row desktopSize h.area
  let moved := { h.pointer with x := x, y := y }
  match motion with
  | .down => { h with pointer := { moved with pressed := true } }
  | .up =>
    if clicked then { h with pointer := moved, releasePending := true }
    else { h with pointer := { moved with pressed := false } }
  | .elsewhere => { h with pointer := moved }

/-- Takes events up to the end of a frame. -/
def sampleFrom : List HostEvent → Bool → Host → Except HostError PointerFrame × Host
  | [], _, h => (.error .inputEnded, { h with events := [] })
  | .tick :: rest, _, h => (.ok h.pointer, { h with events := rest })
  | .resize columns rows :: rest, clicked, h =>
    sampleFrom rest clicked { h with columns := columns, rows := rows }
  | .mouse motion column row :: rest, clicked, h =>
    sampleFrom rest (clicked || motion == .down) (h.movePointer clicked motion column row)
  | .other :: rest, clicked, h => sampleFrom rest clicked h
  | .key e :: rest, clicked, h =>
    match (HostEvent.key e).keyReport with
    | .nothing => sampleFrom rest clicked h
    | .interrupt =>
      let pointer := { h.pointer with key := some .escape }
      (.ok pointer,
        { h with events := rest, pointer := pointer, latch := h.latch.request .shutdown })
    | .key k =>
      let pointer := { h.pointer with key := some k }
      (.ok pointer, { h with events := rest, pointer := pointer })

/-- The host at the start of a frame: a button let go within the last frame is up, and no key
has come yet. -/
def startFrame (h : Host) : Host :=
  { h with
    pointer := { h.pointer with pressed := h.pointer.pressed && !h.releasePending, key := none }
    releasePending := false }

/-- Reads one frame of the pointer. -/
def samplePointer (h : Host) : Except HostError PointerFrame × Host :=
  let started := h.enterDesktop.startFrame
  sampleFrom started.events false started

/-! ## As a terminal -/

/-- Reads a piece of input. -/
def read (kind : InputKind) (h : Host) : Except HostError Input × Host :=
  match kind with
  | .line => let (r, h) := h.readLine; (r.map .line, h)
  | .key => let (r, h) := h.readKey; (r.map .key, h)
  | .pointer => let (r, h) := h.samplePointer; (r.map .pointer, h)

/-- Hosts as terminals. -/
def terminal : Terminal Host HostError where
  perform := perform
  read := read
  clock h := some h.now

/-- Switches off whatever the host has switched on. -/
def restore (h : Host) : Host := h.leaveDesktop.emit (controlSequence "0m" ++ showCursor)

end Host

end ModalConsole
