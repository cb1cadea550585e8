import ModalConsole.Input

/-!
# Events of a terminal host

What the keyboard, the mouse and the window of a real terminal report, and the keys that a session
knows among it. Model of `HostEvent`, `map_key` and `is_interrupt`.

A key that is let go counts for nothing. Control with `c` or `C` interrupts whatever is read.
-/

namespace ModalConsole

/-- A key of the keyboard. -/
inductive KeyCode where
  | up
  | down
  | left
  | right
  | enter
  | backspace
  | escape
  | char (c : Char)
  | tab
  | backTab
  | delete
  | insert
  | home
  | endKey
  | pageUp
  | pageDown
  | null
  | function (number : Nat)
  deriving DecidableEq, Repr

/-- The key of a session that a key of the keyboard stands for. -/
def KeyCode.key : KeyCode → Key
  | up => .up
  | down => .down
  | left => .left
  | right => .right
  | enter => .enter
  | backspace => .backspace
  | escape => .escape
  | char c => .char c
  | _ => .other

/-- What happens to a key. -/
inductive KeyMotion where
  | press
  /-- The key is held and reports itself again. -/
  | again
  | release
  deriving DecidableEq, Repr

/-- The modifiers held with a key. -/
structure Modifiers where
  control : Bool := false
  shift : Bool := false
  alt : Bool := false
  deriving DecidableEq, Repr

/-- A report of the keyboard. -/
structure KeyEvent where
  code : KeyCode
  modifiers : Modifiers := {}
  motion : KeyMotion := .press
  deriving DecidableEq, Repr

/-- Is it the key that interrupts? -/
def KeyEvent.isInterrupt (e : KeyEvent) : Bool :=
  e.modifiers.control && (e.code == .char 'c' || e.code == .char 'C')

/-- A report of the mouse. -/
inductive MouseMotion where
  /-- The primary button goes down. -/
  | down
  /-- The primary button goes up. -/
  | up
  /-- Anything else that has a position. -/
  | elsewhere
  deriving DecidableEq, Repr

/-- A report of a terminal. -/
inductive HostEvent where
  | key (event : KeyEvent)
  | mouse (motion : MouseMotion) (column row : Nat)
  | resize (columns rows : Nat)
  /-- The end of a frame. -/
  | tick
  /-- A report that has no meaning, such as a change of focus. -/
  | other
  deriving DecidableEq, Repr

/-- What an event means to somebody who waits for a key. -/
inductive KeyReport where
  | nothing
  | interrupt
  | key (key : Key)
  deriving DecidableEq, Repr

/-- What an event means to somebody who waits for a key. -/
def HostEvent.keyReport : HostEvent → KeyReport
  | .key e =>
    if e.motion = .release then .nothing
    else if e.isInterrupt then .interrupt
    else .key e.code.key
  | _ => .nothing

end ModalConsole
