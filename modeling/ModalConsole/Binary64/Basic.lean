/-!
# Binary64 numbers

The double-precision numbers of IEEE 754, with exact arithmetic followed by one rounding. Model of
`f64` with its sums, products, quotients and comparisons.

* The magnitudes, from zero to infinity, are listed in ascending order; a number is a sign and
  the place of its magnitude in that list, its *rank*. The rank is the number's bit pattern
  without the sign, so two numbers are equal exactly when their bits are. There is one NaN.
* `units rank` is the magnitude of a rank, counted in units of the least positive number,
  `2⁻¹⁰⁷⁴`. It is a natural number for every rank, so sums and products are exact in `Int` and
  `Nat`.
* `nearestRank num den` rounds `num / den` units to the nearest rank, ties to the even one.
  Every operation is its exact result rounded once.
-/

namespace ModalConsole

/-- The number of ranks that have the same exponent. -/
def binade : Nat := Nat.pow 2 52

/-- The rank of infinity: the ranks below it are those of the finite magnitudes. -/
def infinityRank : Nat := 2047 * binade

/-- The units in the number one. -/
def unitsOfOne : Nat := Nat.pow 2 1074

/-- A double-precision number: not a number, or a sign with the rank of a magnitude. -/
inductive Binary64 where
  | nan
  | signed (negative : Bool) (rank : Fin (infinityRank + 1))
  deriving DecidableEq

/-- The quotient of two naturals rounded to the nearest natural, a half to the even one. -/
def roundHalfEven (num den : Nat) : Nat :=
  let q := num / den
  let twice := 2 * (num % den)
  if twice < den then q else if den < twice then q + 1 else q + q % 2

namespace Binary64

/-- The magnitude of a rank, in units of the least positive number. -/
def units (rank : Nat) : Nat :=
  if rank < binade then rank else (binade + rank % binade) * Nat.pow 2 (rank / binade - 1)

/-- The rank nearest to a magnitude of `num / den` units; magnitudes too large get that of
infinity. -/
def nearestRank (num den : Nat) : Fin (infinityRank + 1) :=
  let shift := (num / den).log2 - 52
  let rank := shift * binade + roundHalfEven num (den * Nat.pow 2 shift)
  ⟨min rank infinityRank, Nat.lt_succ_of_le (Nat.min_le_right _ _)⟩

/-- The number nearest to a signed magnitude of `num / den` units. -/
def ofUnits (negative : Bool) (num den : Nat) : Binary64 := .signed negative (nearestRank num den)

/-- The integer `n`, rounded if it needs more than 53 bits. -/
def ofNat (n : Nat) : Binary64 := ofUnits false (n * unitsOfOne) 1

/-- Positive zero. -/
def zero : Binary64 := ofNat 0

/-- The number one. -/
def one : Binary64 := ofNat 1

/-- Positive or negative infinity. -/
def infinity (negative : Bool) : Binary64 := .signed negative (Fin.last infinityRank)

/-- The value as an integer multiple of the least positive number, for a sign and a rank. -/
def signedUnits (negative : Bool) (rank : Fin (infinityRank + 1)) : Int :=
  if negative then -(units rank : Int) else units rank

/-- Neither NaN nor infinite. -/
def isFinite : Binary64 → Bool
  | nan => false
  | signed _ rank => rank.val != infinityRank

/-- The bit that a negative sign sets. -/
def signBit : Nat := Nat.pow 2 63

/-- The 64 bits of a number as a natural; NaN has none of its own. -/
def toBits? : Binary64 → Option Nat
  | nan => none
  | signed negative rank => some ((if negative then signBit else 0) + rank.val)

/-! ## Order -/

/-- The place of a number on the line: its rank, negated under a minus sign. -/
def place (negative : Bool) (rank : Fin (infinityRank + 1)) : Int :=
  if negative then -(rank.val : Int) else rank.val

/-- Strictly less; false if either side is NaN. -/
def lt : Binary64 → Binary64 → Bool
  | signed s a, signed t b => place s a < place t b
  | _, _ => false

/-- Less or equal; false if either side is NaN, and the two zeros are equal. -/
def le : Binary64 → Binary64 → Bool
  | signed s a, signed t b => place s a ≤ place t b
  | _, _ => false

/-! ## Arithmetic -/

/-- The number with the other sign. -/
def neg : Binary64 → Binary64
  | nan => nan
  | signed negative rank => signed (!negative) rank

/-- The sum, rounded. An exact zero is negative only if both summands are. -/
def add : Binary64 → Binary64 → Binary64
  | signed s a, signed t b =>
    if a.val = infinityRank then
      if b.val = infinityRank && s != t then nan else signed s a
    else if b.val = infinityRank then signed t b
    else
      let sum := signedUnits s a + signedUnits t b
      if sum = 0 then signed (s && t) 0 else ofUnits (sum < 0) sum.natAbs 1
  | _, _ => nan

/-- The difference, rounded. -/
def sub (x y : Binary64) : Binary64 := add x (neg y)

/-- The product, rounded; zero times infinity is NaN. -/
def mul : Binary64 → Binary64 → Binary64
  | signed s a, signed t b =>
    if a.val = infinityRank || b.val = infinityRank then
      if a.val = 0 || b.val = 0 then nan else infinity (s != t)
    else ofUnits (s != t) (units a * units b) unitsOfOne
  | _, _ => nan

/-- The quotient, rounded; a finite number over zero is infinite, and zero over zero is NaN. -/
def div : Binary64 → Binary64 → Binary64
  | signed s a, signed t b =>
    if a.val = infinityRank then
      if b.val = infinityRank then nan else infinity (s != t)
    else if b.val = infinityRank then signed (s != t) 0
    else if b.val = 0 then
      if a.val = 0 then nan else infinity (s != t)
    else ofUnits (s != t) (units a * unitsOfOne) (units b)
  | _, _ => nan

/-- The nearest integer, a half going away from zero. -/
def round : Binary64 → Binary64
  | nan => nan
  | signed negative rank =>
    if rank.val = infinityRank then signed negative rank
    else
      let whole := (2 * units rank + unitsOfOne) / (2 * unitsOfOne)
      ofUnits negative (whole * unitsOfOne) 1

/-- Is the number finite and an integer? -/
def isIntegral : Binary64 → Bool
  | nan => false
  | signed _ rank => rank.val != infinityRank && units rank % unitsOfOne == 0

instance : Add Binary64 := ⟨add⟩
instance : Sub Binary64 := ⟨sub⟩
instance : Mul Binary64 := ⟨mul⟩
instance : Div Binary64 := ⟨div⟩

end Binary64

end ModalConsole
