import ModalConsole.Storage.Disk

/-!
# Libraries for settings

What a console leaves to a library when it loads its settings or writes a file of them. The library
is no part of the console, so it is a parameter here; what is known of it stands where something is
proved about the settings.

Model of the calls on `Config.builder`, on the sources `File` and `Environment`, on `build` and
`try_deserialize`, and on `to_string_pretty`.

* A source gives entries: values of some type under keys.
* The keys of an object are gone through in an order that can be another one in every run. The
  seed stands for it.
-/

namespace ModalConsole

/-- The variables of an environment. -/
abbrev Environment := List (String × String)

/-- The values that there are under keys. -/
abbrev Entries (ν : Type) := String → Option ν

/-- A value as it is handed over to be written. -/
inductive Plain where
  /-- No value. -/
  | null
  | text (s : String)
  | count (n : Nat)
  deriving DecidableEq, Repr

/-- A library for settings, with values in `ν`. -/
structure ConfigLibrary (ν : Type) where
  /-- The text of an optional file under a name in a directory, if there is one to read. -/
  findText : Disk → (directory name : String) → Option String
  /-- The fields of a text that is one object. -/
  readObject : String → Option (List (String × ν))
  /-- What an object gives. -/
  ofObject : (seed : Nat) → List (String × ν) → Entries ν
  /-- What the variables give whose names begin with a mark. -/
  ofEnvironment : (seed : Nat) → (mark : String) → Environment → Entries ν
  /-- What the text of a variable is taken for. -/
  guess : String → ν
  /-- What a later source and the ones before it give together. -/
  layered : Entries ν → Entries ν → Entries ν
  /-- The value as a path that may be missing. -/
  toPath? : ν → Option (Option String)
  /-- The value as a text. -/
  toText? : ν → Option String
  /-- The value as a natural number of 64 bits. -/
  toCount? : ν → Option Nat
  /-- Writes an object. -/
  writeObject : List (String × Plain) → String

end ModalConsole
