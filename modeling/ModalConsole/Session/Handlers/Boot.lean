import ModalConsole.Session.Boot
import ModalConsole.Session.Program

/-!
# Handlers: booting and logging in

Model of the handler of the boot modes: `menu`, `start`, `identity_prompt`, `password_prompt` and
`complete`.
-/

namespace ModalConsole.Handler

open Program

/-- Boots. -/
def start (target : BootTarget) : Program Transition := do
  let settings := (← session).settings
  let limit := Session.bootLimit settings target
  writeLine ("Starting Lebirun " ++ settings.version ++ Session.bootSuffix target)
  let (delay, words) := (← world).words.draw (limit + 1)
  setWords words
  performAll [.randomPause limit delay]
  performAll Effect.resetColors
  clear
  return .to (.loginName target)

/-- The boot menu. -/
def bootMenu (selected : Nat) : Program Transition := do
  let selected := min selected BootTarget.lastEntry
  performAll [.foreground .white, .background .blue]
  clear
  writeLines ["Lebirun Boot Menu", "Use the arrow keys and Enter, or press the entry number.", ""]
  writeLines (BootTarget.menu.mapIdx fun index target => Session.menuLine selected index target)
  let .key key ← ask .key | return .stay
  match key with
  | .up => return .to (.bootMenu (selected - 1))
  | .down => return .to (.bootMenu (min (selected + 1) BootTarget.lastEntry))
  | .enter => start (BootTarget.menu.getD selected .shell)
  | .char c =>
    match BootTarget.ofChar? c with
    | some target => start target
    | none => return .stay
  | _ => return .stay

/-- Logs in, or says why not. -/
def logIn (identity : Identity) (credential : Option String) (target : BootTarget) :
    Program Transition := do
  let s ← session
  match s.accounts.login s.settings.rootPassword identity credential with
  | .ok accounts =>
    update ({ · with accounts := accounts })
    clear
    writeLine ("Lebirun " ++ s.settings.version)
    writeLine "Type help / cmds for the list of commands available!"
    return .to target.mode
  | .error e =>
    writeLine e.message
    return .stay

/-- The question for the name. -/
def loginName (target : BootTarget) : Program Transition := do
  write "Write the user here: "
  let .line typed ← ask .line | return .stay
  match Identity.ofName typed with
  | .error e =>
    writeLine e.message
    return .stay
  | .ok identity =>
    if identity.needsPassword then
      clear
      return .to (.loginPassword identity target)
    logIn identity none target

/-- The question for the password. -/
def loginPassword (identity : Identity) (target : BootTarget) : Program Transition := do
  write "Write the user password here: "
  let .line typed ← ask .line | return .stay
  logIn identity (some typed) target

end ModalConsole.Handler
