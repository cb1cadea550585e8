import ModalConsole.Binary64.Decimal
import ModalConsole.Text.LetterCase

/-!
# Values of settings

A value as it comes from a file or from the environment, before the setting that it is for has been
looked at, and what each kind of setting takes. Model of what the fields of `AppConfig` take from a
`Value`.

* A text setting takes a text, and a truth value or a number as it is written.
* A count takes a natural number of 64 bits; a number with a fraction is rounded and brought
  into that range, a truth value is one or zero, and a text is read as a numeral or as one of a
  few words for yes and no.
* A path takes what a text takes, or nothing at all.
-/

namespace ModalConsole

open Text

/-- A value for a setting. -/
inductive Value where
  /-- The absence of a value, written out. -/
  | null
  | bool (b : Bool)
  | integer (n : Int)
  | number (x : Binary64)
  | text (s : String)
  /-- An object without fields; no setting takes one. -/
  | emptyObject
  /-- A list, or an object with fields; no setting takes one. -/
  | compound
  deriving DecidableEq

/-- The greatest count. -/
def maxCount : Nat := Nat.pow 2 64 - 1

/-- The least natural number that is no integer of 64 bits with a sign. -/
def integerRange : Nat := Nat.pow 2 63

/-- The text of a truth value. -/
def boolText (b : Bool) : String := if b then "true" else "false"

/-! ## Numerals -/

/-- Reads a count, with an optional plus sign. -/
def readCount (s : List Char) : Option Nat := (readNatural s).filter (· ≤ maxCount)

/-- Reads an integer of 64 bits, with an optional sign. -/
def readInteger (s : List Char) : Option Int :=
  match s with
  | '-' :: rest => (readDigits rest).filter (· ≤ integerRange) |>.map fun n => -(n : Int)
  | rest => (readNatural rest).filter (· < integerRange) |>.map fun n => (n : Int)

/-! ## What settings take -/

namespace Value

/-- The value as a text. -/
def toText? : Value → Option String
  | bool b => some (boolText b)
  | integer n => some (integerString n)
  | number x => some x.shortest
  | text s => some s
  | null => none
  | emptyObject => none
  | compound => none

/-- The count that a number is rounded to. -/
def countOf (x : Binary64) : Nat :=
  match x.round with
  | .nan => 0
  | .signed negative rank => if negative then 0 else min (Binary64.units rank / unitsOfOne) maxCount

/-- The count that a word or a numeral stands for. -/
def countOfText (s : String) : Option Nat :=
  let word := lowered s
  if word = "true" || word = "on" || word = "yes" then some 1
  else if word = "false" || word = "off" || word = "no" then some 0
  else readCount s.toList

/-- The value as a count. -/
def toCount? : Value → Option Nat
  | bool b => some (if b then 1 else 0)
  | integer n => if 0 ≤ n then some n.toNat else none
  | number x => some (countOf x)
  | text s => countOfText s
  | null => none
  | emptyObject => none
  | compound => none

/-- The value as a path that may be missing. -/
def toPath? : Value → Option (Option String)
  | null => some none
  | v => v.toText?.map some

/-- The value that a text from the environment stands for: a truth value in any case, an
integer, a number, or the text itself. -/
def ofEnvironment (s : String) : Value :=
  let word := lowered s
  if word = "true" then bool true
  else if word = "false" then bool false
  else
    match readInteger s.toList with
    | some n => integer n
    | none =>
      match Binary64.read? s with
      | some x => number x
      | none => text s

end Value

end ModalConsole
