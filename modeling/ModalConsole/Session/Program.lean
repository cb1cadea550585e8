import ModalConsole.Session.Basic

/-!
# Programs of the handlers

What a mode does with one piece of input is a program: a tree of calls on a device and of looks at
the services of the session, in the order in which they are made. Model of what the `step`
functions of the modes are written in: a borrowed `Services`, a borrowed `Terminal` and early
returns of errors.

* A program may write and read anywhere, more than once or not at all, and may give up with a
  message of its own, as with the failure of a store. Nothing in the language fixes a shape.
* `run` carries a program out on a device. A call that the device refuses ends the program there,
  and what has been changed before stays changed.
* Time passes while the device waits for input.
-/

namespace ModalConsole

/-- What a handler works on beside its device. -/
structure Services where
  session : Session
  world : World
  /-- The request to the power supply. -/
  power : PowerLatch := {}

/-- What a handler decides about the mode. -/
inductive Transition where
  | stay
  | to (mode : Mode)
  deriving DecidableEq, Repr

/-- The session when the decision is carried out. -/
def Transition.apply (s : Session) : Transition → Session
  | .stay => s
  | .to mode => s.enter mode

/-- Why a step fails. -/
inductive Failure (ε : Type) where
  /-- The terminal has refused a call. -/
  | terminal (reason : ε)
  /-- The handler has given up. -/
  | raised (message : String)
  deriving DecidableEq, Repr

/-- The words that report why a step fails, given those of the terminal. -/
def Failure.message {ε : Type} (words : ε → String) : Failure ε → String
  | terminal reason => words reason
  | raised text => text

/-- A program with a result. -/
inductive Program (α : Type) where
  | done (result : α)
  /-- Gives up. -/
  | fail (message : String)
  /-- Has the device carry out an effect. -/
  | perform (effect : Effect) (next : Program α)
  /-- Reads one piece of input. -/
  | read (kind : InputKind) (next : Input → Program α)
  /-- Looks at the services. -/
  | look (next : Services → Program α)
  /-- Changes the services. -/
  | change (f : Services → Services) (next : Program α)

namespace Program

variable {α β : Type}

/-- Goes on with the result of a program. -/
def bind : Program α → (α → Program β) → Program β
  | done result, next => next result
  | fail message, _ => .fail message
  | perform effect rest, next => .perform effect (rest.bind next)
  | read kind rest, next => .read kind fun input => (rest input).bind next
  | look rest, next => .look fun v => (rest v).bind next
  | change f rest, next => .change f (rest.bind next)

instance : Monad Program where
  pure := done
  bind := bind

/-! ## Calls on the device -/

/-- Has the device carry out effects. -/
def performAll : List Effect → Program Unit
  | [] => .done ()
  | effect :: rest => .perform effect (performAll rest)

/-- Writes a text. -/
def write (text : String) : Program Unit := performAll [.text text]

/-- Writes a line. -/
def writeLine (text : String) : Program Unit := performAll (Effect.line text)

/-- Writes several lines. -/
def writeLines (texts : List String) : Program Unit := performAll (Effect.lines texts)

/-- Writes a line in a colour. -/
def writeColored (color : Color) (text : String) : Program Unit :=
  performAll (Effect.coloredLine color text)

/-- Empties the screen. -/
def clear : Program Unit := performAll [.clear]

/-- Reads one piece of input. -/
def ask (kind : InputKind) : Program Input := .read kind .done

/-! ## The services -/

/-- The session as it is. -/
def session : Program Session := .look fun v => .done v.session

/-- The world as it is. -/
def world : Program World := .look fun v => .done v.world

/-- Changes the session. -/
def update (f : Session → Session) : Program Unit :=
  .change (fun v => { v with session := f v.session }) (.done ())

/-- Puts another store in the place of the one there is. -/
def setStore (store : Store) : Program Unit :=
  .change (fun v => { v with world := { v.world with store := store } }) (.done ())

/-- Goes on with other random words. -/
def setWords (words : RandomWords) : Program Unit :=
  .change (fun v => { v with world := { v.world with words := words } }) (.done ())

/-- Asks the power supply for something. -/
def askPower (action : PowerAction) : Program Unit :=
  .change (fun v => { v with power := v.power.request action }) (.done ())

end Program

/-! ## Runs -/

/-- The world at the moment that a clock shows, where there is a clock. -/
def World.shownBy (w : World) (clock : Option Timestamp) : World :=
  { w with now := clock.getD w.now }

/-- The services at the moment that a clock shows, where there is a clock. -/
def Services.shownBy (v : Services) (clock : Option Timestamp) : Services :=
  { v with world := v.world.shownBy clock }

/-- Carries out a program on a device. -/
def Program.run {σ ε α : Type} (d : Device σ ε) :
    Program α → Services → σ → Except (Failure ε) α × Services × σ
  | done result, v, state => (.ok result, v, state)
  | fail message, v, state => (.error (.raised message), v, state)
  | perform effect next, v, state =>
    match d.perform state effect with
    | (.ok (), state) => next.run d v state
    | (.error reason, state) => (.error (.terminal reason), v, state)
  | read kind next, v, state =>
    match d.read kind state with
    | (.ok input, state) => (next input).run d (v.shownBy (d.clock state)) state
    | (.error reason, state) => (.error (.terminal reason), v.shownBy (d.clock state), state)
  | look next, v, state => (next v).run d v state
  | change f next, v, state => next.run d (f v) state

end ModalConsole
