import ModalConsole.Session.Builtin
import ModalConsole.Session.Basic

/-!
# The shell

What the commands of the shell do, and the two questions that a command can lead to: the
password of a switch to root, and a product key. Model of `command_prompt`, `run_command`,
`su_password` and `product_key`, of one function for each command, and of the rescue console.

* A line that starts with a space, or has no word, only counts as a blank line.
* A line whose command is unknown, or not allowed to the current user, is answered in red.
-/

namespace ModalConsole.Session

open Text

/-! ## The rescue console -/

/-- Enters the rescue console. -/
def enterRescue (s : Session) (w : World) : Turn :=
  (s.enter .rescue).say w (.clear :: Effect.lines ["GRUB Rescue Environment (Fake)", "", ""])

/-- A line at the rescue console. -/
def rescueLine (s : Session) (w : World) (typed : String) : Turn :=
  let command := trimmed typed
  if command = "grub2cmds" then
    s.say w (Effect.lines ["Current GRUB Commands:", "exit - Exits the grubrescue environment"])
  else if command = "exit" then (s.enter .shell).say w (Effect.line "Goodbye!")
  else s.say w (Effect.line "Invalid GRUB Command")

/-! ## Commands that only write -/

/-- The message for a page of the help that does not exist. -/
def noHelpPage : String :=
  "Invalid Help/Cmds Page. The Current Pages in Help/Cmds are: "
    ++ decimalString Builtin.table.helpPageCount
    ++ ". If you want info about a specific command, then type man <command> "
    ++ "(not all commands have arguments)"

/-- The heading of a page of the help. -/
def helpHeading (page : Nat) : String :=
  if page = 1 then "List of Commands:"
  else "List of commands (Page " ++ decimalString page ++ "):"

/-- What the help shows for its argument. -/
def helpEffects (argument : String) : List Effect :=
  if argument = "grub" then
    Effect.lines ["Current GRUB Arguments:",
      "--noclearafter = Terminal wont clear after finishing displaying the Welcome to GRUB! text."]
  else if argument = "productman" then
    Effect.lines ["Current Productman Arguments:",
      "--deactivate = Makes the system be no longer activated, "
        ++ "which resets the product key to none."]
  else
    match readNatural argument.toList with
    | some page =>
      if 1 ≤ page && page ≤ Builtin.table.helpPageCount then
        Effect.lines (helpHeading page :: Builtin.table.helpLines page)
      else Effect.coloredLine .red noHelpPage
    | none => Effect.coloredLine .red noHelpPage

/-- The splash of the boot loader. -/
def splashEffects (settings : Settings) (keep : Bool) : List Effect :=
  [.clear, .background .white, .foreground .black] ++ Effect.line "Welcome to GRUB!"
    ++ Effect.resetColors ++ [.pause settings.splashTime] ++ (if keep then [] else [.clear])

/-- The dots that a secret command writes. -/
def dotEffects : List Effect := List.replicate 15 (.text ".\n.\n.") ++ Effect.line ""

/-- The answer to the removal of files. -/
def removeEffects (line : CommandLine) : List Effect :=
  let what := trimmedEnd line.tail
  if what = "-rf /*" then
    Effect.lines ["rm: it is dangerous to operate recursively on '/'",
      "rm: use --no-preserve-root to override this failsafe"]
  else if what = "-rf /* --no-preserve-root" then
    Effect.lines ["rm: could not remove /tmp: Device or resource busy",
      "rm: could not remove /dev/sda: Device or resource busy"]
  else if what = "-rvf /* --no-preserve-root" then
    Effect.lines ["Deleted /boot succesfully",
      "rm: could not remove /dev/sda: Device or resource busy", "Deleted /home succesfully"]
  else Effect.coloredLine .red (CommandError.unknown line.head).message

/-- How long the session has been running. -/
def uptimeLine (startedAt now : Timestamp) : String :=
  let seconds := now.secondsSince startedAt
  "Uptime: " ++ integerString (seconds.tdiv 3600) ++ "h "
    ++ integerString ((seconds.tdiv 60).tmod 60) ++ "m " ++ integerString (seconds.tmod 60)
    ++ "s (since " ++ startedAt.text ++ ")"

/-- What is known about the system. -/
def infoLines (s : Session) (now : Timestamp) : List String :=
  ["Version: Lebirun " ++ s.settings.version, "User: " ++ s.address,
    "Game 1 Coins: " ++ formatAmount s.economy.balance,
    "Product Key: " ++ s.activation.shownKey, uptimeLine s.startedAt now]

/-! ## Users -/

/-- The message of a switch of user. -/
def switchedLine (target : Identity) : String :=
  "Successfully switched to " ++ target.name ++ "! Use su prv to switch to the previous user."

/-- The message of a switch to the current user. -/
def alreadyLine (target : Identity) : String := "You are already " ++ target.name ++ "!"

/-- Goes back to the previous user. -/
def switchBack (s : Session) (w : World) : Turn :=
  match s.accounts.revert with
  | (.alreadyActive, _) => s.say w (Effect.line "You are already the previous user!")
  | (.switched _ _, accounts) =>
    { s with accounts := accounts }.say w
      (Effect.line "Successfully switched to the previous user!")

/-- Switches to the user with a typed name, or asks for the password first. -/
def switchTo (s : Session) (w : World) (typed : String) : Turn :=
  match Identity.ofName typed with
  | .error e => s.say w (Effect.line e.message)
  | .ok target =>
    if target = s.accounts.current then s.say w (Effect.line (alreadyLine target))
    else if target.needsPassword then (s.enter (.switchPassword target)).say w []
    else
      match s.accounts.switchTo s.settings.rootPassword target none with
      | .ok (_, accounts) =>
        { s with accounts := accounts }.say w (Effect.line (switchedLine target))
      | .error e => s.say w (Effect.line e.message)

/-- The command that switches users. -/
def switchUser (s : Session) (w : World) : Option String → Turn
  | none => s.say w (Effect.line "Usage: su <root|user|prv>")
  | some argument => if argument = "prv" then s.switchBack w else s.switchTo w argument

/-- A line at the question for the password of a switch. -/
def switchPasswordLine (s : Session) (w : World) (target : Identity) (typed : String) : Turn :=
  match s.accounts.switchTo s.settings.rootPassword target (some typed) with
  | .ok (.switched _ reached, accounts) =>
    { s with accounts := accounts, mode := .shell }.say w (Effect.line (switchedLine reached))
  | .ok (.alreadyActive, _) => (s.enter .shell).say w (Effect.line (alreadyLine target))
  | .error _ =>
    if trimmed typed = "n" then (s.enter .shell).say w []
    else s.say w (Effect.line "Retry. If you dont want to continue then type n")

/-! ## Product keys -/

/-- Activates the system with a generated key. -/
def unlock (s : Session) (w : World) : Turn :=
  let (key, activation, words) := Activation.unlock w.words
  { session := { s with activation := activation }
    world := { w with words := words }
    effects := Effect.lines ["Activating...", "Activated! Current Product Key is: " ++ key]
    request := none }

/-- The command that manages the product key. -/
def manageKey (s : Session) (w : World) (line : CommandLine) : Turn :=
  if line.hasFlag "deactivate" then
    match s.activation.deactivate with
    | .ok activation =>
      { s with activation := activation }.say w
        (Effect.line "Successfully deactivated the system!")
    | .error e => s.say w (Effect.line e.message)
  else if s.activation.isActive then s.say w (Effect.line "You already have a product key!")
  else if line.hasFlag "crack" then s.unlock w
  else (s.enter .productKey).say w []

/-- A line at the question for a product key. -/
def productKeyLine (s : Session) (w : World) (typed : String) : Turn :=
  match s.activation.redeem typed with
  | .ok (.activated key, activation) =>
    { s with activation := activation, mode := .shell }.say w
      (Effect.line ("Activated successfully! Your current product key is: " ++ key))
  | .ok (.cancelled, _) => (s.enter .shell).say w []
  | .error e => s.say w (Effect.line e.message)

/-! ## The manual -/

/-- Opens the manual. -/
def openManual (s : Session) (w : World) (topic : Option String) : Turn :=
  { s with pager := s.pager.openAt topic, notice := none, mode := .manual }.say w []

/-- The answer to a question about a topic that has no page. -/
def topicLine (topic : String) : String :=
  if topic = "knowledge" || topic = "man" then "Dude."
  else if topic = "root" then "No need to explain, because it just prints a text."
  else if Builtin.table.contains topic then "No need to explain."
  else "Unknown knowledge command."

/-- The command that opens the manual. -/
def consultManual (s : Session) (w : World) : Option String → Turn
  | none => s.openManual w none
  | some argument =>
    let topic := lowered argument
    if s.pager.hasTopic topic then s.openManual w (some topic)
    else s.say w (Effect.line (topicLine topic))

/-! ## Leaving the shell -/

/-- The message on entering the game. -/
def gameGreeting : String :=
  "Entered Game 1! (Save with data save, or progress is lost after a reboot/shutdown)"

/-- Logs out. -/
def logOut (s : Session) (w : World) : Turn :=
  (s.enter (.loginName .shell)).say w
    (.clear :: Effect.line "Logging off..." ++ [.pause s.settings.logoutPause, .clear])

/-- Asks the power supply for something. -/
def askPower (s : Session) (w : World) (action : PowerAction) (message : String) : Turn :=
  { s.say w (Effect.line message) with request := some action }

/-! ## Lines at the shell -/

/-- Runs a command of the shell. -/
def runBuiltin (s : Session) (w : World) (line : CommandLine) : Builtin → Turn
  | .help => s.say w (helpEffects ((line.arg? 0).getD "1"))
  | .iptv => s.say w (Effect.line "i need IPTV ASAP!!!")
  | .metamask => s.say w (Effect.line "Metamask Wallet got Hacked")
  | .echo => s.say w (Effect.coloredLine .green line.tail)
  | .clear => s.say w [.clear]
  | .grub => s.say w (splashEffects s.settings (line.hasFlag "noclearafter"))
  | .grubrescue => s.enterRescue w
  | .root => s.say w (Effect.line "R00T@K4L1 R00T@UBUNTU R00T@D3B14N")
  | .blankspaces =>
    s.say w (Effect.line (decimalString s.blankLines
      ++ " is the Amount of blankspaces you used in this session!"))
  | .number46 => s.say w (Effect.coloredLine .green "The Number 46")
  | .number92 => s.say w (Effect.coloredLine .blue "The Number 92")
  | .number93 => s.say w (Effect.coloredLine .red "The Number 93")
  | .game => (s.enter .game).say w (Effect.line gameGreeting)
  | .productman => s.manageKey w line
  | .logout => s.logOut w
  | .whoami => s.say w (Effect.line s.accounts.current.name)
  | .su => s.switchUser w (line.arg? 0)
  | .website => s.say w (Effect.line ("-> " ++ s.settings.website))
  | .infofetch => s.say w (Effect.lines (s.infoLines w.now))
  | .knowledge => s.consultManual w (line.arg? 0)
  | .shutdown => s.askPower w .shutdown "Shutting down..."
  | .reboot => s.askPower w .reboot "Rebooting..."
  | .vga => (s.enter .desktop).say w [.clear]
  | .dots => s.say w dotEffects
  | .remove => s.say w (removeEffects line)

/-- Runs a command line, or says in red why it is refused. -/
def runCommand (s : Session) (w : World) (line : CommandLine) : Turn :=
  match Builtin.table.resolve line s.accounts.current with
  | .ok spec => s.runBuiltin w line spec.action
  | .error e => s.say w (Effect.coloredLine .red e.message)

/-- The command line that a typed line is, unless it counts as blank. -/
def commandOf (typed : String) : Option CommandLine :=
  if typed.toList.head? = some ' ' then none else CommandLine.parse typed

/-- A line at the shell. -/
def shellLine (s : Session) (w : World) (typed : String) : Turn :=
  match commandOf typed with
  | some line => s.runCommand w line
  | none => { s with blankLines := s.blankLines + 1 }.say w []

end ModalConsole.Session
