import ModalConsole.Accounts
import ModalConsole.Manual.Pager
import ModalConsole.Settings.Library

/-!
# Settings

The eleven settings of a console, each with a name, a default and a kind. Model of `AppConfig` and
of the way it is put together.

* A setting without a value keeps its default. `ofEntries` fails if a value does not suit its
  setting. Values of unknown names do not matter.
* `fields` are the names of the settings with values, as they are written to a file.
-/

namespace ModalConsole

/-- The settings of a console. Times are in milliseconds. -/
structure Settings where
  /-- The directory of the store, if it is not the usual one. -/
  dataDirectory : Option String := none
  /-- The path of the game's record in the store. -/
  gameFile : String := "game1data.txt"
  /-- What the prompt shows after the name of the user. -/
  hostName : String := "lebirun"
  version : String := "0.1.0 Beta 2"
  website : String := "lebirun.000.pe"
  rootPassword : String := defaultRootPassword
  /-- The rows of the manual's window. -/
  pagerRows : Nat := Pager.defaultVisible
  /-- How long the splash of the boot loader stays. -/
  splashTime : Nat := 3500
  /-- The pause after a logout. -/
  logoutPause : Nat := 250
  /-- The longest pause of a boot into the shell. -/
  bootDelay : Nat := 670
  /-- The longest pause of a boot into the desktop. -/
  desktopBootDelay : Nat := 2300
  deriving DecidableEq, Repr

namespace Settings

/-- The names of the settings with the values of `s`. -/
def fields (s : Settings) : List (String × Plain) :=
  [("data_dir", (s.dataDirectory.map Plain.text).getD .null),
    ("game_data_file", .text s.gameFile),
    ("host_name", .text s.hostName),
    ("version", .text s.version),
    ("website", .text s.website),
    ("root_password", .text s.rootPassword),
    ("pager_visible_lines", .count s.pagerRows),
    ("grub_splash_ms", .count s.splashTime),
    ("logout_pause_ms", .count s.logoutPause),
    ("boot_delay_max_ms", .count s.bootDelay),
    ("gui_boot_delay_max_ms", .count s.desktopBootDelay)]

/-- The names of the settings. -/
def names : List String := (fields {}).map (·.1)

/-- A setting of some kind: the conversion of its value, or its default without one. -/
def setting {ν α : Type} (convert : ν → Option α) (default : α) : Option ν → Option α
  | none => some default
  | some v => convert v

/-- The settings that entries give. -/
def ofEntries {ν : Type} (L : ConfigLibrary ν) (entries : Entries ν) : Option Settings := do
  let defaults : Settings := {}
  let dataDirectory ← setting L.toPath? defaults.dataDirectory (entries "data_dir")
  let gameFile ← setting L.toText? defaults.gameFile (entries "game_data_file")
  let hostName ← setting L.toText? defaults.hostName (entries "host_name")
  let version ← setting L.toText? defaults.version (entries "version")
  let website ← setting L.toText? defaults.website (entries "website")
  let rootPassword ← setting L.toText? defaults.rootPassword (entries "root_password")
  let pagerRows ← setting L.toCount? defaults.pagerRows (entries "pager_visible_lines")
  let splashTime ← setting L.toCount? defaults.splashTime (entries "grub_splash_ms")
  let logoutPause ← setting L.toCount? defaults.logoutPause (entries "logout_pause_ms")
  let bootDelay ← setting L.toCount? defaults.bootDelay (entries "boot_delay_max_ms")
  let desktopBootDelay ←
    setting L.toCount? defaults.desktopBootDelay (entries "gui_boot_delay_max_ms")
  return { dataDirectory, gameFile, hostName, version, website, rootPassword, pagerRows, splashTime,
           logoutPause, bootDelay, desktopBootDelay }

end Settings

end ModalConsole
