import ModalConsole.Settings.Json
import ModalConsole.Settings.Name

/-!
# The library that the console is run with

Model of the packages `config` and `serde_json` as far as settings need them.

* An optional file that stands under its name is read there, also if it is no text, which gives
  nothing. Otherwise the name with one more ending is tried.
* Where several fields of an object are for the same key, the last one in the file counts, and the
  seed makes no difference. The packages go by an order that is another one in every run, so this
  is only one of the libraries that they can be.
-/

namespace ModalConsole

open Text

/-- A value as a file has it. -/
def Json.writePlain : Plain → String
  | .null => "null"
  | .text s => writeText s
  | .count n => decimalString n

namespace ConfigLibrary

/-- The text of an optional file under a name, or under the name with one more ending. -/
def findJson (disk : Disk) (directory name : String) : Option String :=
  let textOf : Option Entry → Option String
    | some (.text content) => some content
    | _ => none
  match disk.read? directory name with
  | none | some .directory => textOf (disk.read? directory (name ++ ".json"))
  | found => textOf found

/-- The library of the console. -/
def standard : ConfigLibrary Value where
  findText := findJson
  readObject := Json.readObject?
  ofObject _ object := Settings.valueIn (Settings.layerOf object)
  ofEnvironment _ mark env := Settings.valueIn (Settings.environmentLayer mark env)
  guess := Value.ofEnvironment
  layered upper lower key := (upper key).or (lower key)
  toPath? := Value.toPath?
  toText? := Value.toText?
  toCount? := Value.toCount?
  writeObject fields := Json.writeObject (fields.map fun (name, v) => (name, Json.writePlain v))

end ConfigLibrary

end ModalConsole
