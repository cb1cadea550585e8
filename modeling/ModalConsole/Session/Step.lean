import ModalConsole.Session.Boot
import ModalConsole.Session.Game

/-!
# One step of a session

What the programs of the handlers come to on a terminal that carries out all effects: the mode
writes its prompt, the terminal reads one piece of input, and the mode answers it. Model of the
`step` functions of the modes by what they have done when they return.

* `prompt` and `prompted` are what the first part writes and leaves behind: it changes nothing,
  except that the notice of the manual is used up.
* `respond` is the third part. Input of a kind that the mode does not ask for changes nothing.
* `step` is what the session is after all three, given what was read.
-/

namespace ModalConsole

namespace Session

/-! ## The prompt -/

/-- What a session writes before it reads. -/
def prompt (s : Session) : List Effect :=
  match s.mode with
  | .bootMenu selected => menuScreen selected
  | .loginName _ => [.text "Write the user here: "]
  | .loginPassword _ _ => [.text "Write the user password here: "]
  | .rescue => [.text "grub rescue >> "]
  | .game => [.text "game1 > "]
  | .desktop => []
  | .manual => [.clear] ++ Effect.lines s.pager.render ++ Effect.lines s.notice.toList
  | .shell => [.foreground .gray, .text (s.address ++ " >> "), .foreground .white]
  | .switchPassword target => [.text ("Password for " ++ target.name ++ ": ")]
  | .productKey => [.text "Write the product key here: "]

/-- The session after its prompt: a notice is shown only once. -/
def prompted (s : Session) : Session :=
  { s with notice := if s.mode = .manual then none else s.notice }

/-! ## The answer -/

/-- A key while the manual is read. -/
def manualKey (s : Session) (w : World) (key : Key) : Turn :=
  match s.pager.press key with
  | (pager, .stay) => { s with pager := pager }.say w []
  | (pager, .notice text) => { s with pager := pager, notice := some text }.say w []
  | (pager, .leave) => { s with pager := pager, mode := .shell }.say w [.clear]

/-- The command that an item of the menu runs. -/
def itemCommand : MenuItem → Option String
  | .terminal => none
  | .reboot => some "reboot"
  | .shutdown => some "shutdown"

/-- Leaves the desktop for the shell and runs a command there, if there is one. -/
def leaveDesktop (s : Session) (w : World) (command : Option String) : Turn :=
  match command.bind CommandLine.parse with
  | none => (s.enter .shell).say w [.clear]
  | some line =>
    let turn := s.runCommand w line
    { turn with session := turn.session.enter .shell, effects := .clear :: turn.effects }

/-- What an action on the desktop leads to. -/
def desktopAction (s : Session) (w : World) : DesktopAction → Turn
  | .idle => s.say w []
  | .toggled _ => s.say w []
  | .leave => s.leaveDesktop w none
  | .activate item => s.leaveDesktop w (itemCommand item)

/-- A pointer frame on the desktop. -/
def desktopFrame (s : Session) (w : World) (frame : PointerFrame) : Turn :=
  let (desktop, action) := s.desktop.frame frame
  let turn := { s with desktop := desktop }.desktopAction w action
  { turn with effects := .present (desktop.scene frame) :: turn.effects }

/-- The answer to a line. -/
def respondLine (s : Session) (w : World) (typed : String) : Turn :=
  match s.mode with
  | .loginName target => s.nameLine w target typed
  | .loginPassword identity target => s.logIn w identity (some typed) target
  | .rescue => s.rescueLine w typed
  | .game => s.gameLine w typed
  | .shell => s.shellLine w typed
  | .switchPassword target => s.switchPasswordLine w target typed
  | .productKey => s.productKeyLine w typed
  | _ => s.say w []

/-- The answer to a key. -/
def respondKey (s : Session) (w : World) (key : Key) : Turn :=
  match s.mode with
  | .bootMenu selected => s.menuKey w selected key
  | .manual => s.manualKey w key
  | _ => s.say w []

/-- The answer to a pointer frame. -/
def respondPointer (s : Session) (w : World) (frame : PointerFrame) : Turn :=
  match s.mode with
  | .desktop => s.desktopFrame w frame
  | _ => s.say w []

/-- The answer to a piece of input. -/
def respond (s : Session) (w : World) : Input → Turn
  | .line typed => s.respondLine w typed
  | .key key => s.respondKey w key
  | .pointer frame => s.respondPointer w frame

/-- What a step makes of what the terminal has read, `none` being a read that failed. -/
def step (s : Session) (w : World) : Option Input → Turn
  | none => s.prompted.say w []
  | some input => s.prompted.respond w input

end Session

end ModalConsole
