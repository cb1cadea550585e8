import ModalConsole.Economy.Basic
import ModalConsole.Storage.Store

/-!
# The record of an economy

An economy as three lines of text, each a key, a colon and a number with the fewest digits that read
back. Model of `serialize`, `deserialize`, `save` and `load` of an `EconomyEngine`.

* `ofRecord` takes, for each key, the value on the last line that has it, and ignores all other
  lines. If a value is missing, is no number or breaks the rules of `isValid`, the whole record
  stands for a new economy.
* `save` and `load` keep the record in a store; a record that cannot be read stands for a new
  economy.
-/

namespace ModalConsole

open Text

namespace Economy

/-- The key of the balance. -/
def balanceKey : String := "Coins"

/-- The key of the base. -/
def baseKey : String := "GetCoinsValue"

/-- The key of the multiplier. -/
def multiplierKey : String := "GetCoinsMulti"

/-- Are all numbers finite, the balance not negative, the base and the multiplier at least one? -/
def isValid (e : Economy) : Bool :=
  e.balance.isFinite && e.base.isFinite && e.multiplier.isFinite
    && Binary64.zero.le e.balance && Binary64.one.le e.base && Binary64.one.le e.multiplier

/-- The record of an economy. -/
def record (e : Economy) : String :=
  balanceKey ++ ":" ++ e.balance.shortest ++ "\n" ++ baseKey ++ ":" ++ e.base.shortest ++ "\n"
    ++ multiplierKey ++ ":" ++ e.multiplier.shortest

/-- The key and the value on a line: what stands before and after its first colon. -/
def recordField (line : List Char) : Option (List Char × List Char) :=
  (splitAtFirst ':' (trim line)).map fun (key, value) => (trim key, trim value)

/-- The keys and values of a record, line by line. -/
def recordFields (text : String) : List (List Char × List Char) :=
  (lines text.toList).filterMap recordField

/-- The value that a list of keys and values gives last for a key. -/
def lastValue (fields : List (List Char × List Char)) (key : String) : Option (List Char) :=
  (fields.reverse.find? (·.1 == key.toList)).map (·.2)

/-- The number that a list of keys and values gives last for a key. -/
def lastNumber (fields : List (List Char × List Char)) (key : String) : Option Binary64 :=
  (lastValue fields key).bind Binary64.readChars

/-- The economy that a record stands for, if it has three numbers. -/
def readRecord (text : String) : Option Economy :=
  let fields := recordFields text
  match lastNumber fields balanceKey, lastNumber fields baseKey,
    lastNumber fields multiplierKey with
  | some balance, some base, some multiplier => some ⟨balance, base, multiplier⟩
  | _, _, _ => none

/-- The economy that a record stands for. -/
def ofRecord (text : String) : Economy :=
  match readRecord text with
  | some e => if e.isValid then e else initial
  | none => initial

/-- Writes the record of an economy into a store: the store afterwards, and the refusal if there
was one. -/
def save (e : Economy) (store : Store) (path : String) : Store × Option StoreError :=
  store.write path e.record

/-- The economy whose record is in a store. -/
def load (store : Store) (path : String) : Economy :=
  match store.read path with
  | .ok (some text) => ofRecord text
  | _ => initial

end Economy

end ModalConsole
