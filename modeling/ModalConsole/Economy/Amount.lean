import ModalConsole.Binary64.Decimal

/-!
# Amounts as the player sees them

An amount is rounded to hundredths. A whole number is written without a point, any other with two
places less its padding zeros. Model of `format_amount`.
-/

namespace ModalConsole

open Text

/-- The nearest number of hundredths, as an amount. -/
def Binary64.hundredths (x : Binary64) : Binary64 :=
  (x * Binary64.ofNat 100).round / Binary64.ofNat 100

/-- The text of an amount. -/
def amountChars (x : Binary64) : List Char :=
  let rounded := x.hundredths
  if rounded.isIntegral then Binary64.fixedChars 0 rounded
  else dropEndWhile (· == '0') (Binary64.fixedChars 2 rounded)

/-- The text of an amount. -/
def formatAmount (x : Binary64) : String := String.ofList (amountChars x)

end ModalConsole
