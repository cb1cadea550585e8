/-!
# Decimal digits

The numeral of a natural number in base ten, and the value of a run of digits. Model of how whole
numbers are printed and parsed.

* `decimal n` has no leading zero; `decimal 0` is the single digit `0`.
* `digitsValue` reads a run of digits from left to right; `readDigits` and `readNatural` refuse
  texts that are no numerals.
-/

namespace ModalConsole.Text

/-- The digit character of a number below ten. -/
def digitChar (d : Nat) : Char := Char.ofNat ('0'.toNat + d)

/-- The numeral of a number in base ten, first digit first. -/
def decimal (n : Nat) : List Char :=
  if n < 10 then [digitChar n] else decimal (n / 10) ++ [digitChar (n % 10)]
termination_by n
decreasing_by omega

/-- One more digit at the right end of a number. -/
def appendDigit (value : Nat) (d : Char) : Nat := 10 * value + (d.toNat - '0'.toNat)

/-- The number that a run of digits stands for; the empty run stands for zero. -/
def digitsValue (ds : List Char) : Nat := ds.foldl appendDigit 0

/-- The numeral of a number as a string. -/
def decimalString (n : Nat) : String := String.ofList (decimal n)

/-- The numeral of an integer, with a minus sign in front if it is negative. -/
def integerString (n : Int) : String :=
  if n < 0 then "-" ++ decimalString n.natAbs else decimalString n.natAbs

/-- The numeral of a number in base ten, filled up on the left with zeros to the given width. -/
def paddedDecimal (width n : Nat) : List Char :=
  let ds := decimal n
  List.replicate (width - ds.length) '0' ++ ds

/-- Reads a numeral of digits alone. -/
def readDigits (ds : List Char) : Option Nat :=
  if ds.isEmpty || !ds.all Char.isDigit then none else some (digitsValue ds)

/-- Reads a numeral with an optional plus sign. -/
def readNatural : List Char → Option Nat
  | '+' :: rest => readDigits rest
  | rest => readDigits rest

end ModalConsole.Text
