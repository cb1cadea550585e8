import ModalConsole.Session.Program
import ModalConsole.Session.Shell

/-!
# Handlers: the shell

Model of the handlers of the shell and of the rescue console: `command_prompt`, `su_password`,
`product_key`, `run_command`, one handler for each command of the shell, and `step` and `enter` of
the rescue console.

A command goes by the table of commands, so that the question of privilege comes up before it does
anything.
-/

namespace ModalConsole.Handler

open Program Text

/-! ## The rescue console -/

/-- Enters the rescue console. -/
def enterRescue : Program Transition := do
  clear
  writeLines ["GRUB Rescue Environment (Fake)", "", ""]
  return .to .rescue

/-- The rescue console. -/
def rescue : Program Transition := do
  write "grub rescue >> "
  let .line typed ← ask .line | return .stay
  let command := trimmed typed
  if command = "grub2cmds" then
    writeLines ["Current GRUB Commands:", "exit - Exits the grubrescue environment"]
    return .stay
  else if command = "exit" then
    writeLine "Goodbye!"
    return .to .shell
  else
    writeLine "Invalid GRUB Command"
    return .stay

/-! ## Commands -/

/-- A command that only writes. -/
def saying (effects : List Effect) : Program Transition := do
  performAll effects
  return .stay

/-- The splash of the boot loader. -/
def grub (line : CommandLine) : Program Transition := do
  let settings := (← session).settings
  clear
  performAll [.background .white, .foreground .black]
  writeLine "Welcome to GRUB!"
  performAll Effect.resetColors
  performAll [.pause settings.splashTime]
  unless line.hasFlag "noclearafter" do clear
  return .stay

/-- The number of blank lines. -/
def blankspaces : Program Transition := do
  let s ← session
  writeLine (decimalString s.blankLines
    ++ " is the Amount of blankspaces you used in this session!")
  return .stay

/-- Manages the product key. -/
def productman (line : CommandLine) : Program Transition := do
  let s ← session
  if line.hasFlag "deactivate" then
    match s.activation.deactivate with
    | .ok activation =>
      update ({ · with activation := activation })
      writeLine "Successfully deactivated the system!"
    | .error e => writeLine e.message
    return .stay
  if s.activation.isActive then
    writeLine "You already have a product key!"
    return .stay
  if line.hasFlag "crack" then
    writeLine "Activating..."
    let (key, activation, words) := Activation.unlock (← world).words
    setWords words
    update ({ · with activation := activation })
    writeLine ("Activated! Current Product Key is: " ++ key)
    return .stay
  return .to .productKey

/-- Logs out. -/
def logout : Program Transition := do
  let settings := (← session).settings
  clear
  writeLine "Logging off..."
  performAll [.pause settings.logoutPause]
  clear
  return .to (.loginName .shell)

/-- Goes back to the previous user. -/
def switchBack : Program Transition := do
  match (← session).accounts.revert with
  | (.alreadyActive, _) => writeLine "You are already the previous user!"
  | (.switched _ _, accounts) =>
    update ({ · with accounts := accounts })
    writeLine "Successfully switched to the previous user!"
  return .stay

/-- Switches to the user with a typed name, or asks for the password first. -/
def switchTo (typed : String) : Program Transition := do
  let s ← session
  match Identity.ofName typed with
  | .error e => writeLine e.message
  | .ok target =>
    if target = s.accounts.current then
      writeLine (Session.alreadyLine target)
    else if target.needsPassword then
      return .to (.switchPassword target)
    else
      match s.accounts.switchTo s.settings.rootPassword target none with
      | .ok (_, accounts) =>
        update ({ · with accounts := accounts })
        writeLine (Session.switchedLine target)
      | .error e => writeLine e.message
  return .stay

/-- Switches users. -/
def su : Option String → Program Transition
  | none => saying (Effect.line "Usage: su <root|user|prv>")
  | some argument => if argument = "prv" then switchBack else switchTo argument

/-- What is known about the system. -/
def infofetch : Program Transition := do
  let now := (← world).now
  writeLines ((← session).infoLines now)
  return .stay

/-- Opens the manual. -/
def enterManual (topic : Option String) : Program Transition := do
  update fun s => { s with pager := s.pager.openAt topic, notice := none }
  return .to .manual

/-- Opens the manual on a topic, or says why there is no page about it. -/
def knowledge : Option String → Program Transition
  | none => enterManual none
  | some argument => do
    let topic := lowered argument
    if (← session).pager.hasTopic topic then enterManual (some topic)
    else saying (Effect.line (Session.topicLine topic))

/-- Asks the power supply for something. -/
def requestPower (action : PowerAction) (message : String) : Program Transition := do
  writeLine message
  askPower action
  return .stay

/-- Runs a command of the shell. -/
def runBuiltin (line : CommandLine) : Builtin → Program Transition
  | .help => saying (Session.helpEffects ((line.arg? 0).getD "1"))
  | .iptv => saying (Effect.line "i need IPTV ASAP!!!")
  | .metamask => saying (Effect.line "Metamask Wallet got Hacked")
  | .echo => saying (Effect.coloredLine .green line.tail)
  | .clear => saying [.clear]
  | .grub => grub line
  | .grubrescue => enterRescue
  | .root => saying (Effect.line "R00T@K4L1 R00T@UBUNTU R00T@D3B14N")
  | .blankspaces => blankspaces
  | .number46 => saying (Effect.coloredLine .green "The Number 46")
  | .number92 => saying (Effect.coloredLine .blue "The Number 92")
  | .number93 => saying (Effect.coloredLine .red "The Number 93")
  | .game => do
    writeLine Session.gameGreeting
    return .to .game
  | .productman => productman line
  | .logout => logout
  | .whoami => do
    writeLine (← session).accounts.current.name
    return .stay
  | .su => su (line.arg? 0)
  | .website => do
    writeLine ("-> " ++ (← session).settings.website)
    return .stay
  | .infofetch => infofetch
  | .knowledge => knowledge (line.arg? 0)
  | .shutdown => requestPower .shutdown "Shutting down..."
  | .reboot => requestPower .reboot "Rebooting..."
  | .vga => do
    clear
    return .to .desktop
  | .dots => saying Session.dotEffects
  | .remove => saying (Session.removeEffects line)

/-- Runs a command line, or says in red why it is refused. -/
def runCommand (line : CommandLine) : Program Transition := do
  match Builtin.table.resolve line (← session).accounts.current with
  | .ok spec => runBuiltin line spec.action
  | .error e =>
    writeColored .red e.message
    return .stay

/-! ## Prompts -/

/-- The prompt for a command. -/
def shell : Program Transition := do
  performAll [.foreground .gray]
  write ((← session).address ++ " >> ")
  performAll [.foreground .white]
  let .line typed ← ask .line | return .stay
  match Session.commandOf typed with
  | some line => runCommand line
  | none =>
    update fun s => { s with blankLines := s.blankLines + 1 }
    return .stay

/-- The question for the password of a switch. -/
def switchPassword (target : Identity) : Program Transition := do
  write ("Password for " ++ target.name ++ ": ")
  let .line typed ← ask .line | return .stay
  let s ← session
  match s.accounts.switchTo s.settings.rootPassword target (some typed) with
  | .ok (.switched _ reached, accounts) =>
    update ({ · with accounts := accounts })
    writeLine (Session.switchedLine reached)
    return .to .shell
  | .ok (.alreadyActive, _) =>
    writeLine (Session.alreadyLine target)
    return .to .shell
  | .error _ =>
    if trimmed typed = "n" then
      return .to .shell
    writeLine "Retry. If you dont want to continue then type n"
    return .stay

/-- The question for a product key. -/
def productKey : Program Transition := do
  write "Write the product key here: "
  let .line typed ← ask .line | return .stay
  match (← session).activation.redeem typed with
  | .ok (.activated key, activation) =>
    update ({ · with activation := activation })
    writeLine ("Activated successfully! Your current product key is: " ++ key)
    return .to .shell
  | .ok (.cancelled, _) => return .to .shell
  | .error e =>
    writeLine e.message
    return .stay

end ModalConsole.Handler
