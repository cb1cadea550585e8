import ModalConsole.Text.Digits
import ModalConsole.Text.Quoted.Table

/-!
# Quoted text

Characters and texts between quotes, for messages that show a piece of input. Model of how texts and
characters are printed for debugging.

* A backslash stands before a backslash and before the quote in use; a tab, a carriage return,
  a line feed and a null are written `\t`, `\r`, `\n` and `\0`.
* Any other character without a picture of its own, and a mark that joins the character before
  it, is written as its code point in base sixteen, `\u{1b}`.
-/

namespace ModalConsole.Text

/-- The digit character of a number below sixteen. -/
def hexDigit (d : Nat) : Char := if d < 10 then digitChar d else Char.ofNat ('a'.toNat + (d - 10))

/-- The numeral of a number in base sixteen, first digit first. -/
def hexadecimal (n : Nat) : List Char :=
  if n < 16 then [hexDigit n] else hexadecimal (n / 16) ++ [hexDigit (n % 16)]
termination_by n
decreasing_by omega

/-- Does the character stand for itself between quotes? -/
def isPrintable (c : Char) : Bool :=
  !inRanges joiningMarkRanges c.toNat && !inRanges unprintableRanges c.toNat

/-- A character as it is written between the given quotes. -/
def escaped (quote c : Char) : List Char :=
  if c = '\\' || c = quote then ['\\', c]
  else if c = '\t' then ['\\', 't']
  else if c = '\r' then ['\\', 'r']
  else if c = '\n' then ['\\', 'n']
  else if c.toNat = 0 then ['\\', '0']
  else if isPrintable c then [c]
  else ['\\', 'u', '\x7b'] ++ hexadecimal c.toNat ++ ['\x7d']

/-- A text between double quotes. -/
def quoted (s : String) : String :=
  String.ofList (['"'] ++ s.toList.flatMap (escaped '"') ++ ['"'])

/-- A character between single quotes. -/
def quotedChar (c : Char) : String := String.ofList (['\''] ++ escaped '\'' c ++ ['\''])

end ModalConsole.Text
