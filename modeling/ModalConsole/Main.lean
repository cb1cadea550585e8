import ModalConsole.Host.Sessions
import ModalConsole.Settings.Load
import ModalConsole.Settings.Standard

/-!
# The console on standard input

Sessions on a host whose events are the characters typed at standard input, in place of `main` and
its threads.

* The settings come from the environment and from the file of settings. The record of the game
  is read at the start and written whenever a line has changed it.
* After every line the sessions are run from the start on all that was typed so far, and what
  they have written beyond the last time is printed. A run is a function of its events, so more
  of them never change what was printed already.
* The clock of the host stands still.
-/

namespace ModalConsole

/-- The event of a typed character. -/
def HostEvent.typed (c : Char) : HostEvent :=
  let code : KeyCode :=
    if c = '\n' then .enter
    else if c = '\x1b' then .escape
    else if c = '\x7f' || c = '\x08' then .backspace
    else .char c
  .key { code := code }

/-- The variables of the environment that settings and directories come from. -/
def variableNames : List String :=
  ["XDG_CONFIG_HOME", "XDG_DATA_HOME", "HOME"]
    ++ Settings.names.map fun name => Settings.environmentMark ++ "_" ++ name.toUpper

/-- The environment of the program. -/
def readEnvironment : IO Environment :=
  variableNames.filterMapM fun name => return (← IO.getEnv name).map ((name, ·))

/-- A disk with one more file of the computer on it, if there is one that can be read. -/
def Disk.copyFrom (disk : Disk) (path : String) : IO Disk := do
  try
    return disk.putAt path (.text (← IO.FS.readFile path))
  catch _ => return disk

/-- Writes a file of a disk to the computer, unless another disk has the same one. -/
def Disk.copyTo (disk before : Disk) (directory name : String) : IO Unit :=
  match disk.read? directory name with
  | some (.text content) => do
    if before.read? directory name != some (.text content) then
      IO.FS.createDirAll directory
      IO.FS.writeFile (joinPath directory name) content
  | _ => pure ()

/-- The disk of a store. -/
def Store.disk : Store → Disk
  | .directory _ disk => disk
  | _ => {}

/-- What the program works with. -/
structure Console where
  settings : Settings
  /-- The directory of the store. -/
  root : String
  disk : Disk
  words : RandomWords

/-- The sessions on what was typed. -/
def Console.run (c : Console) (typed : List Char) : Ended :=
  Host.runSessions c.settings ⟨.directory c.root c.disk, c.words, ⟨0, 0⟩⟩
    { events := typed.map .typed }

/-- The name of the game's record. -/
def Console.recordName (c : Console) : String := fileName c.settings.gameFile

/-- Runs the sessions on what was typed so far, prints what is new, and goes on with the next
line until the sessions or the input end. -/
partial def Console.interact (c : Console) (typed : List Char) (shown : Nat) (disk : Disk) :
    IO Unit := do
  let ended := c.run typed
  let written := ended.host.output.toList
  let out ← IO.getStdout
  out.putStr (String.ofList (written.drop shown))
  out.flush
  let current := ended.world.store.disk
  current.copyTo disk c.root c.recordName
  let line ← if ended.ending = .shutdown then pure "" else (← IO.getStdin).getLine
  if line.isEmpty then
    out.putStrLn (String.ofList (ended.host.restore.output.toList.drop written.length))
  else c.interact (typed ++ line.toList) written.length current

/-- Random words, enough for many sessions. -/
def someWords : IO RandomWords :=
  return ⟨← (List.range 4096).mapM fun _ => return (← IO.rand 0 (wordRange - 1)).toUInt64, 0⟩

/-- Loads the settings and runs the sessions. -/
def runConsole : IO UInt32 := do
  let env ← readEnvironment
  let path := Settings.configPath env
  let found ← (← Disk.copyFrom {} path).copyFrom (path ++ ".json")
  let (ensured, refusal) := Settings.ensureDefault .standard found env
  match refusal.elim (Settings.load .standard 0 ensured env) .error with
  | .error e =>
    (← IO.getStderr).putStrLn e.message
    return 1
  | .ok settings =>
    ensured.copyTo found (Settings.configDirectory env) Settings.configName
    let c : Console := ⟨settings, settings.dataRoot env, ensured, ← someWords⟩
    let disk ← ensured.copyFrom (joinPath c.root c.recordName)
    { c with disk := disk }.interact [] 0 disk
    return 0

end ModalConsole

/-- The program takes no arguments. -/
def main : IO UInt32 := ModalConsole.runConsole
