import ModalConsole.Session.Basic

/-!
# Booting and logging in

What the handler of the boot modes makes of one piece of input; the calls by which it does so are
in `Handlers`. Model of `menu`, `start`, `identity_prompt`, `password_prompt` and `complete`.

* The boot menu is operated with the arrows and Enter, or with the number of an entry.
* A boot takes a random time and leads to the login, which asks for a name, and for a password
  if the name needs one. A refused login asks the same question again.
-/

namespace ModalConsole.Session

/-- The line of an entry of the boot menu. -/
def menuLine (selected index : Nat) (target : BootTarget) : String :=
  (if index = selected then ">" else " ") ++ " " ++ target.label ++ " | "
    ++ Text.decimalString (index + 1)

/-- The screen of the boot menu. -/
def menuScreen (selected : Nat) : List Effect :=
  [.foreground .white, .background .blue, .clear]
    ++ Effect.lines
      ["Lebirun Boot Menu", "Use the arrow keys and Enter, or press the entry number.", ""]
    ++ Effect.lines (BootTarget.menu.mapIdx fun index target =>
      menuLine (min selected BootTarget.lastEntry) index target)

/-- The longest pause of a boot. -/
def bootLimit (settings : Settings) : BootTarget → Nat
  | .shell => settings.bootDelay
  | .desktop => settings.desktopBootDelay

/-- What the boot message says about the target. -/
def bootSuffix : BootTarget → String
  | .shell => ""
  | .desktop => " - GUI Mode"

/-- Boots. -/
def boot (s : Session) (w : World) (target : BootTarget) : Turn :=
  let limit := bootLimit s.settings target
  let (delay, words) := w.words.draw (limit + 1)
  { session := s.enter (.loginName target)
    world := { w with words := words }
    effects :=
      Effect.line ("Starting Lebirun " ++ s.settings.version ++ bootSuffix target)
        ++ [.randomPause limit delay] ++ Effect.resetColors ++ [.clear]
    request := none }

/-- A key at the boot menu. -/
def menuKey (s : Session) (w : World) (selected : Nat) (key : Key) : Turn :=
  let selected := min selected BootTarget.lastEntry
  match key with
  | .up => (s.enter (.bootMenu (selected - 1))).say w []
  | .down => (s.enter (.bootMenu (min (selected + 1) BootTarget.lastEntry))).say w []
  | .enter => s.boot w (BootTarget.menu.getD selected .shell)
  | .char c =>
    match BootTarget.ofChar? c with
    | some target => s.boot w target
    | none => s.say w []
  | _ => s.say w []

/-- Logs in, or says why not. -/
def logIn (s : Session) (w : World) (identity : Identity) (credential : Option String)
    (target : BootTarget) : Turn :=
  match s.accounts.login s.settings.rootPassword identity credential with
  | .ok accounts =>
    { s with accounts := accounts, mode := target.mode }.say w
      (.clear :: Effect.lines
        ["Lebirun " ++ s.settings.version, "Type help / cmds for the list of commands available!"])
  | .error e => s.say w (Effect.line e.message)

/-- A line at the question for the name. -/
def nameLine (s : Session) (w : World) (target : BootTarget) (typed : String) : Turn :=
  match Identity.ofName typed with
  | .error e => s.say w (Effect.line e.message)
  | .ok identity =>
    if identity.needsPassword then (s.enter (.loginPassword identity target)).say w [.clear]
    else s.logIn w identity none target

end ModalConsole.Session
