import ModalConsole.Settings.Basic
import ModalConsole.Storage.Store

/-!
# Where settings come from

Model of `load_from`, `config_path`, `data_root` and `ensure_default_config`. A library finds the
file, reads it and puts the environment over it.

* The file is `lebirun/config.json` in the directory for settings that the environment names;
  the usual directory of the store is found in the same way.
* `load` has the library read the file, if there is one, and put the variables with the mark of the
  console over it.
* `ensureDefault` writes the file of the defaults where nothing stands yet.
-/

namespace ModalConsole

/-- Why settings cannot be loaded or written. -/
inductive SettingsError where
  /-- The file is no object of settings. -/
  | unreadable (path : String)
  /-- A value does not suit its setting. -/
  | invalid
  | createFailed (directory : String)
  | writeFailed (path : String)
  deriving DecidableEq, Repr

/-- The words that report why settings cannot be loaded or written. -/
def SettingsError.message : SettingsError → String
  | .unreadable path => "failed to read config " ++ path
  | .invalid => "invalid configuration"
  | .createFailed directory => "failed to create " ++ directory
  | .writeFailed path => "failed to write " ++ path

namespace Environment

/-- The value of a variable; the last one counts. -/
def get? (env : Environment) (name : String) : Option String :=
  (env.reverse.find? (·.1 == name)).map (·.2)

/-- The value of a variable that has to be an absolute path. -/
def absolutePath? (env : Environment) (name : String) : Option String :=
  (env.get? name).filter isAbsolutePath

/-- The directory that a variable names, else one below the home directory, else the current
one. -/
def userDirectory (env : Environment) (variableName belowHome : String) : String :=
  match env.absolutePath? variableName with
  | some path => path
  | none =>
    match (env.get? "HOME").filter (!·.isEmpty) with
    | some home => joinPath home belowHome
    | none => "."

end Environment

namespace Settings

/-- What the names of the variables begin with that set something. -/
def environmentMark : String := "LEBIRUN"

/-- The name of the directories that belong to the console. -/
def ownDirectory : String := "lebirun"

/-- The directory of the file. -/
def configDirectory (env : Environment) : String :=
  joinPath (env.userDirectory "XDG_CONFIG_HOME" ".config") ownDirectory

/-- The name of the file. -/
def configName : String := "config.json"

/-- The path of the file. -/
def configPath (env : Environment) : String := joinPath (configDirectory env) configName

/-- The usual directory of the store. -/
def usualDataDirectory (env : Environment) : String :=
  joinPath (env.userDirectory "XDG_DATA_HOME" ".local/share") ownDirectory

/-- The directory of the store. -/
def dataRoot (s : Settings) (env : Environment) : String :=
  s.dataDirectory.getD (usualDataDirectory env)

section Library

variable {ν : Type} (L : ConfigLibrary ν)

/-- The object in the file. Without a file it has no fields. -/
def fileObject (disk : Disk) (env : Environment) : Except SettingsError (List (String × ν)) :=
  match L.findText disk (configDirectory env) configName with
  | none => .ok []
  | some text =>
    match L.readObject text with
    | some object => .ok object
    | none => .error (.unreadable (configPath env))

/-- What an object and the environment over it give. -/
def entriesOf (seed : Nat) (env : Environment) (object : List (String × ν)) : Entries ν :=
  L.layered (L.ofEnvironment seed environmentMark env) (L.ofObject seed object)

/-- Loads the settings. -/
def load (seed : Nat) (disk : Disk) (env : Environment) : Except SettingsError Settings :=
  match fileObject L disk env with
  | .error e => .error e
  | .ok object =>
    match ofEntries L (entriesOf L seed env object) with
    | some s => .ok s
    | none => .error .invalid

/-- The file of the defaults. -/
def defaultText : String := L.writeObject (fields {})

/-- Writes the file of the defaults, unless something stands at its path: the disk afterwards, and
why it could not be written. -/
def ensureDefault (disk : Disk) (env : Environment) : Disk × Option SettingsError :=
  let directory := configDirectory env
  if (disk.read? directory configName).isSome then (disk, none)
  else
    match disk.makeDirectories directory with
    | none => (disk.attemptDirectories directory, some (.createFailed directory))
    | some made =>
      match made.write? directory configName (defaultText L) with
      | none => (made, some (.writeFailed (configPath env)))
      | some written => (written, none)

end Library

end Settings

end ModalConsole
