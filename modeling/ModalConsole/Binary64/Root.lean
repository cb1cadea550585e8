import ModalConsole.Binary64.Basic

/-!
# Square roots of binary64 numbers

The root is exact to the unit and then rounded once: of the units below it, half a unit more stands
for a root that is no whole number of units. Model of `sqrt` of `f64`.
-/

namespace ModalConsole

/-- The greatest natural number whose square is at most `n`. -/
def floorSqrt (n : Nat) : Nat :=
  if n = 0 then 0
  else
    let r := 2 * floorSqrt (n / 4)
    if (r + 1) * (r + 1) ≤ n then r + 1 else r
termination_by n
decreasing_by omega

namespace Binary64

/-- The square root, rounded; that of a negative number is NaN. -/
def sqrt : Binary64 → Binary64
  | nan => nan
  | signed negative rank =>
    if rank.val = 0 then signed negative rank
    else if negative then nan
    else if rank.val = infinityRank then signed false rank
    else
      let n := units rank * unitsOfOne
      let r := floorSqrt n
      if r * r = n then ofUnits false r 1 else ofUnits false (2 * r + 1) 2

/-- The whole part of a number that is not negative. -/
def wholePart : Binary64 → Nat
  | nan => 0
  | signed negative rank => if negative then 0 else units rank / unitsOfOne

end Binary64

end ModalConsole
