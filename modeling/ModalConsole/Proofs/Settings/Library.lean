import Mathlib.Tactic.SplitIfs
import ModalConsole.Settings.Load
import ModalConsole.Text.LetterCase

/-!
# What is relied on in a library

What a library makes of a file and of the environment is not up to the console.

* `under`: what a list says under a name, in any case of the letters. `LeadsInside`: a name like
  `host_name.x` or `host_name[0]` makes the setting an object or a list, which no setting takes.
* `ConfigLibrary.Documented`: the environment counts before the file, key by key, and a source gives
  under a key what stands there. Where several fields are for one key, the library may take any of
  them, and another one in the next run.
* `ConfigLibrary.SkipsMissing`: nothing else is read in the place of a file that is missing.
* `ConfigLibrary.ReadsBack`: the library reads what it has written.
-/

namespace ModalConsole

open Text

namespace Settings

/-! ## What a list says -/

section Under

variable {α : Type}

/-- What a list says under a name, in any case of the letters. -/
def under (l : List (String × α)) (name : String) : List α :=
  (l.filter fun entry => lowered entry.1 == name).map (·.2)

/-- Does a name in the list lead inside the setting with the given name? -/
def LeadsInside (l : List (String × α)) (name : String) : Prop :=
  ∃ entry ∈ l, ∃ c ∈ ['.', '['], name.toList ++ [c] <+: lower entry.1.toList

-- The instance for lists is named, as one for all characters would fit as well.
instance (l : List (String × α)) (name : String) : Decidable (LeadsInside l name) :=
  @List.decidableBEx (String × α)
    (fun entry => ∃ c ∈ ['.', '['], name.toList ++ [c] <+: lower entry.1.toList)
    (fun _ => List.decidableBEx _ _) l

/-- The list says one thing under a name, if anything. Two entries that differ in the case of their
letters are not one thing that is said, unless they have the same value. -/
def Says (l : List (String × α)) (name : String) (said : Option α) : Prop :=
  ∀ a, a ∈ under l name ↔ said = some a

variable {l : List (String × α)} {name : String} {a : α}

theorem mem_under : a ∈ under l name ↔ ∃ key, (key, a) ∈ l ∧ lowered key = name := by
  simp [under]

theorem says_none : Says l name none ↔ under l name = [] := by
  simp [Says, List.eq_nil_iff_forall_not_mem]

theorem Says.mem (h : Says l name (some a)) : a ∈ under l name := (h a).mpr rfl

theorem Says.eq_of_mem (h : Says l name (some a)) {b : α} (hb : b ∈ under l name) : b = a :=
  (Option.some.inj ((h b).mp hb)).symm

/-- No list says two things under one name. -/
theorem Says.unique {said said' : Option α} (h : Says l name said) (h' : Says l name said') :
    said = said' :=
  Option.ext fun a => (h a).symm.trans (h' a)

end Under

/-- The name of the variable for a setting, in small letters. -/
def variableName (name : String) : String := lowered environmentMark ++ "_" ++ name

end Settings

/-! ## The library -/

namespace ConfigLibrary

variable {ν : Type}

/-- No setting takes the value. -/
structure Useless (L : ConfigLibrary ν) (v : ν) : Prop where
  path : L.toPath? v = none
  text : L.toText? v = none
  count : L.toCount? v = none

open Settings in
/-- What the library is documented to do. -/
structure Documented (L : ConfigLibrary ν) : Prop where
  /-- A text is found where it stands. -/
  findText {disk : Disk} {directory name content : String} :
    disk.read? directory name = some (.text content) →
      L.findText disk directory name = some content
  /-- A later source counts before the others, key by key. -/
  layered (upper lower : Entries ν) (key : String) :
    L.layered upper lower key = (upper key).or (lower key)
  /-- An object gives under a key what it has there, in any case of the letters, or else a list or
  an object that a name leads into. -/
  ofObject {seed : Nat} {object : List (String × ν)} {key : String} (hkey : key ∈ names) {v : ν} :
    L.ofObject seed object key = some v →
      v ∈ under object key ∨ LeadsInside object key ∧ L.Useless v
  ofObject_none {seed : Nat} {object : List (String × ν)} {key : String} (hkey : key ∈ names) :
    L.ofObject seed object key = none → under object key = []
  /-- The environment gives in the same way what the texts of its variables are taken for. -/
  ofEnvironment {seed : Nat} {env : Environment} {key : String} (hkey : key ∈ names) {v : ν} :
    L.ofEnvironment seed environmentMark env key = some v →
      (∃ text ∈ under env (variableName key), v = L.guess text) ∨
        LeadsInside env (variableName key) ∧ L.Useless v
  ofEnvironment_none {seed : Nat} {env : Environment} {key : String} (hkey : key ∈ names) :
    L.ofEnvironment seed environmentMark env key = none → under env (variableName key) = []

/-- An optional file is skipped where it is missing. A library may look for it under other names as
well; then no text is found there. -/
def SkipsMissing (L : ConfigLibrary ν) (disk : Disk) (directory name : String) : Prop :=
  disk.read? directory name = none → L.findText disk directory name = none

/-- The library takes a value for what has been written. -/
def TakenAs (L : ConfigLibrary ν) (v : ν) : Plain → Prop
  | .null => L.toPath? v = some none
  | .text s => L.toText? v = some s ∧ L.toPath? v = some (some s)
  | .count n => L.toCount? v = some n

/-- What the library has written it reads as the same fields, in some order, with values that it
takes for what has been written. -/
def ReadsBack (L : ConfigLibrary ν) (fields : List (String × Plain)) : Prop :=
  ∃ object, L.readObject (L.writeObject fields) = some object ∧
    (object.map Prod.fst).Perm (fields.map Prod.fst) ∧
    ∀ field ∈ fields, ∃ v, (field.1, v) ∈ object ∧ L.TakenAs v field.2

end ConfigLibrary

end ModalConsole
