import ModalConsole.Binary64.Basic
import ModalConsole.Text.Blank
import ModalConsole.Text.Digits

/-!
# Binary64 numbers as decimal text

Model of how an `f64` is parsed, and of how it is printed with and without a number of places.

* `read?` accepts an optional sign followed by `inf`, `infinity` or `nan` in any case, or by a
  numeral: digits with an optional point and an optional exponent, at least one digit before or
  after the point. The value is the nearest number.
* `shortest` writes the fewest digits that read back to the number, the nearest of them and on a
  tie the larger, always positionally.
* `fixed places` writes the exact value rounded to a number of places, a half to even.

Infinities are written `inf` and `-inf`, NaN is `NaN`, and zero keeps its sign.
-/

namespace ModalConsole

open Text

/-- A decimal `digits · 10 ^ exponent`. -/
structure Decimal where
  digits : Nat
  exponent : Int
  deriving DecidableEq

namespace Binary64

/-- The number nearest to a signed decimal. -/
def ofDecimal (negative : Bool) (d : Decimal) : Binary64 :=
  ofUnits negative (d.digits * Nat.pow 10 d.exponent.toNat * unitsOfOne)
    (Nat.pow 10 (-d.exponent).toNat)

/-! ## Reading -/

/-- A run of digits as an exponent. Digits after the first that brings it to 65536 or more add
nothing: no numeral of fewer than 65000 digits can tell. -/
def exponentValue (ds : List Char) : Nat :=
  ds.foldl (fun value d => if value < 65536 then appendDigit value d else value) 0

/-- The exponent of a numeral, read from the text after its mark. -/
def readExponent (s : List Char) : Option Int :=
  let (negative, ds) :=
    match s with
    | '-' :: rest => (true, rest)
    | '+' :: rest => (false, rest)
    | rest => (false, rest)
  if ds.isEmpty || !ds.all Char.isDigit then none
  else some (if negative then -(exponentValue ds : Int) else exponentValue ds)

/-- Reads what follows the digits of a numeral: nothing, or an exponent. -/
def readScale (s : List Char) : Option Int :=
  match s with
  | [] => some 0
  | c :: rest => if c = 'e' || c = 'E' then readExponent rest else none

/-- Splits a text after its first run of digits. -/
def splitDigits (s : List Char) : List Char × List Char :=
  (s.takeWhile Char.isDigit, s.dropWhile Char.isDigit)

/-- Splits the fraction off a text that follows the whole part of a numeral. -/
def splitFraction : List Char → List Char × List Char
  | '.' :: rest => splitDigits rest
  | rest => ([], rest)

/-- Reads an unsigned numeral. -/
def readDecimal (s : List Char) : Option Decimal :=
  let (whole, rest) := splitDigits s
  let (fraction, rest) := splitFraction rest
  if whole.isEmpty && fraction.isEmpty then none
  else
    (readScale rest).map fun scale =>
      ⟨digitsValue (whole ++ fraction), scale - fraction.length⟩

/-- Reads a number without its sign. -/
def readUnsigned (negative : Bool) (s : List Char) : Option Binary64 :=
  let word := s.map Char.toLower
  if word = ['i', 'n', 'f'] || word = ['i', 'n', 'f', 'i', 'n', 'i', 't', 'y'] then
    some (infinity negative)
  else if word = ['n', 'a', 'n'] then some nan
  else (readDecimal s).map (ofDecimal negative)

/-- Reads a number, with an optional sign in front. -/
def readChars : List Char → Option Binary64
  | '-' :: rest => readUnsigned true rest
  | '+' :: rest => readUnsigned false rest
  | rest => readUnsigned false rest

/-- Reads a number from a string without blanks. -/
def read? (s : String) : Option Binary64 := readChars s.toList

/-! ## Writing -/

/-- The least `k` such that a positive magnitude is below `10 ^ k`. -/
def scaleOf (n : Nat) : Int :=
  if unitsOfOne ≤ n then (decimal (n / unitsOfOne)).length
  else 1 - (decimal ((unitsOfOne - 1) / n)).length

/-- The best decimal with the given exponent for a magnitude of `n` units, if one of the two
decimals around the magnitude reads back to `rank`. -/
def decimalAt (rank : Fin (infinityRank + 1)) (exponent : Int) : Option Decimal :=
  let num := units rank * Nat.pow 10 (-exponent).toNat
  let den := unitsOfOne * Nat.pow 10 exponent.toNat
  let below : Decimal := ⟨num / den, exponent⟩
  let above : Decimal := ⟨num / den + 1, exponent⟩
  let target := signed false rank
  let upper := 2 * (num % den) ≥ den
  if upper then
    if ofDecimal false above = target then some above
    else if ofDecimal false below = target then some below
    else none
  else if ofDecimal false below = target then some below
  else if ofDecimal false above = target then some above
  else none

/-- The exact value of a finite magnitude as a decimal. -/
def exactDecimal (rank : Fin (infinityRank + 1)) : Decimal := ⟨units rank * Nat.pow 5 1074, -1074⟩

/-- The shortest decimal that reads back to a finite positive magnitude. Seventeen digits
suffice; the exact value stands in should they not. -/
def shortestDecimal (rank : Fin (infinityRank + 1)) : Decimal :=
  let scale := scaleOf (units rank)
  ((List.range 17).findSome? fun (n : Nat) => decimalAt rank (scale - (n + 1))).getD
    (exactDecimal rank)

/-- A fraction behind its point, without padding zeros; nothing if it is zero. -/
def fractionText (fraction : List Char) : List Char :=
  match dropEndWhile (· == '0') fraction with
  | [] => []
  | kept => '.' :: kept

/-- A decimal written positionally, without padding zeros. -/
def positional (d : Decimal) : List Char :=
  if 0 ≤ d.exponent then decimal (d.digits * Nat.pow 10 d.exponent.toNat)
  else
    let places := (-d.exponent).toNat
    let unit := Nat.pow 10 places
    decimal (d.digits / unit) ++ fractionText (paddedDecimal places (d.digits % unit))

/-- The sign of a number, as written in front of its magnitude. -/
def signText (negative : Bool) : List Char := if negative then ['-'] else []

/-- The text of a number with the fewest digits that read back. -/
def shortestChars (x : Binary64) : List Char :=
  match x with
  | nan => ['N', 'a', 'N']
  | signed negative rank =>
    signText negative ++
      (if rank.val = infinityRank then ['i', 'n', 'f']
      else if rank.val = 0 then ['0']
      else positional (shortestDecimal rank))

/-- The text of a number with the fewest digits that read back. -/
def shortest (x : Binary64) : String := String.ofList (shortestChars x)

/-- The text of a number with exactly the given number of places. -/
def fixedChars (places : Nat) (x : Binary64) : List Char :=
  match x with
  | nan => ['N', 'a', 'N']
  | signed negative rank =>
    signText negative ++
      (if rank.val = infinityRank then ['i', 'n', 'f']
      else
        let unit := Nat.pow 10 places
        let n := roundHalfEven (units rank * unit) unitsOfOne
        if places = 0 then decimal n
        else decimal (n / unit) ++ '.' :: paddedDecimal places (n % unit))

end Binary64

end ModalConsole
