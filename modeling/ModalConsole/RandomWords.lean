/-!
# Random words

A source of 64-bit words and the drawing of a number below a bound. Model of `gen_range` on a
generator of 64-bit words.

* The source is a finite list of words, followed by zeros for ever; it counts the words drawn.
* A word `w` is turned into a number below `n` by the product `w * n`: its high half is the
  number, and the word is rejected if the low half is above `acceptedLow n`. A zero is never
  rejected, so every draw ends.
-/

namespace ModalConsole

/-- A source of random words: the words still to come, and how many were drawn. -/
structure RandomWords where
  coming : List UInt64
  drawn : Nat := 0
  deriving DecidableEq, Repr

/-- The size of the range of a word. -/
def wordRange : Nat := Nat.pow 2 64

/-- The greatest low half of `w * n` with which a word is accepted. -/
def acceptedLow (n : Nat) : Nat := n * Nat.pow 2 (63 - n.log2) - 1

/-- Draws a number below `n` from a list of words, `drawn` being the words drawn before. -/
def drawFrom (n drawn : Nat) : List UInt64 → Nat × RandomWords
  | [] => (0, ⟨[], drawn + 1⟩)
  | w :: rest =>
    let product := w.toNat * n
    if product % wordRange ≤ acceptedLow n then (product / wordRange, ⟨rest, drawn + 1⟩)
    else drawFrom n (drawn + 1) rest

/-- Draws a number below `n`. -/
def RandomWords.draw (source : RandomWords) (n : Nat) : Nat × RandomWords :=
  drawFrom n source.drawn source.coming

end ModalConsole
