import ModalConsole.Desktop.Basic
import ModalConsole.Timestamp

/-!
# Terminals

What a session tells a terminal, and what a terminal has to offer to a session.

Model of the traits `Console`, `Desktop` and `Terminal`.

* An effect is one instruction to a terminal. A device carries out effects and reads one piece of
  input at a time, and may refuse to do either.
* A terminal is a device that carries out every effect.
* `traced` is a terminal that also keeps the list of calls made on it.
-/

namespace ModalConsole

/-- A colour of text or of its background. -/
inductive Color where
  | black
  | blue
  | green
  | cyan
  | red
  | magenta
  | yellow
  | gray
  | darkGray
  | white
  deriving DecidableEq, Repr

/-- An instruction to a terminal. -/
inductive Effect where
  /-- Writes a text where the cursor stands. -/
  | text (content : String)
  /-- Empties the screen. -/
  | clear
  /-- Sets the colour of what is written next. -/
  | foreground (color : Color)
  /-- Sets the background of what is written next. -/
  | background (color : Color)
  /-- Waits for a time. -/
  | pause (milliseconds : Nat)
  /-- Waits for a time drawn at random, at most `limit`. -/
  | randomPause (limit milliseconds : Nat)
  /-- Draws the desktop. -/
  | present (scene : Scene)
  deriving DecidableEq, Repr

namespace Effect

/-- Writes a line. Its text and the line feed are one effect. -/
def line (content : String) : List Effect := [.text (content ++ "\n")]

/-- Writes several lines. -/
def lines (contents : List String) : List Effect := contents.flatMap line

/-- Goes back to white on black. -/
def resetColors : List Effect := [.foreground .white, .background .black]

/-- Writes a line in a colour and goes back to white. -/
def coloredLine (color : Color) (content : String) : List Effect :=
  [.foreground color] ++ line content ++ [.foreground .white]

end Effect

/-- A device with states in `σ` that fails for a reason in `ε`. -/
structure Device (σ ε : Type) where
  /-- Carries out an effect. -/
  perform : σ → Effect → Except ε Unit × σ
  /-- Reads one piece of input of the given kind. -/
  read : InputKind → σ → Except ε Input × σ
  /-- What the clock shows beside the device, where there is a clock. -/
  clock : σ → Option Timestamp

/-- Carries out effects one after the other, up to the first that is refused. -/
def Device.performAll {σ ε : Type} (d : Device σ ε) (state : σ) :
    List Effect → Except ε Unit × σ
  | [] => (.ok (), state)
  | effect :: rest =>
    match d.perform state effect with
    | (.ok (), state) => d.performAll state rest
    | (.error reason, state) => (.error reason, state)

/-- A terminal with states in `σ` whose reads fail for a reason in `ε`. -/
structure Terminal (σ ε : Type) where
  /-- Carries out an effect. -/
  perform : σ → Effect → σ
  /-- Reads one piece of input of the given kind. -/
  read : InputKind → σ → Except ε Input × σ
  /-- What the clock shows beside the terminal, where there is a clock. -/
  clock : σ → Option Timestamp := fun _ => none

/-- Carries out effects one after the other. -/
def Terminal.performAll {σ ε : Type} (t : Terminal σ ε) (state : σ) (effects : List Effect) : σ :=
  effects.foldl t.perform state

/-- A terminal as a device that refuses no effect. -/
def Terminal.device {σ ε : Type} (t : Terminal σ ε) : Device σ ε where
  perform state effect := (.ok (), t.perform state effect)
  read := t.read
  clock := t.clock

/-- A call on a terminal. -/
inductive TerminalCall where
  | effect (effect : Effect)
  | read (kind : InputKind)
  deriving DecidableEq, Repr

/-- The terminal that keeps, beside its state, the calls made on it. -/
def Terminal.traced {σ ε : Type} (t : Terminal σ ε) : Terminal (σ × List TerminalCall) ε where
  perform := fun (state, calls) effect => (t.perform state effect, calls ++ [.effect effect])
  read := fun kind (state, calls) =>
    let (input, state) := t.read kind state
    (input, state, calls ++ [.read kind])
  clock := fun (state, _) => t.clock state

end ModalConsole
