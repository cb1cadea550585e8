import ModalConsole.Text.LetterCase.Table

/-!
# Letter case: full lower-casing

`lower` is the full lower-case mapping of a text, without regard to language. Model of
`to_lowercase` of a text.

* Most capitals map to one small letter (`lowerChar`). The capital I with a dot above maps to
  two characters, the small i and a combining dot.
* A capital sigma maps to the final form at the end of a word: when the nearest character
  before it that is not case-ignorable is cased, and the nearest one after it is not.
-/

namespace ModalConsole.Text

/-- Does the character have the Cased property? -/
def isCased (c : Char) : Bool := inRanges casedRanges c.toNat

/-- Does the character have the Case_Ignorable property? -/
def isCaseIgnorable (c : Char) : Bool := inRanges caseIgnorableRanges c.toNat

/-- Is the first character that is not case-ignorable a cased one? -/
def meetsCased (s : List Char) : Bool :=
  match s.dropWhile isCaseIgnorable with
  | [] => false
  | c :: _ => isCased c

/-- The lower-case form of one character, where it does not depend on its neighbours. -/
def lowerChar (c : Char) : List Char :=
  let n := c.toNat
  if n < 0x80 then [if 'A' ≤ c && c ≤ 'Z' then Char.ofNat (n + 32) else c]
  else if n = 0x130 then ['i', '\u0307']
  else
    match caseRuns.find? (·.contains n) with
    | some run => [Char.ofNat (n + run.shift).toNat]
    | none => [c]

/-- The form that a capital sigma takes between the text before it, read backwards, and the text
after it. -/
def lowerSigma (before after : List Char) : Char :=
  if meetsCased before && !meetsCased after then 'ς' else 'σ'

/-- Lower-cases a text, `before` being what precedes it, last character first. -/
def lowerFrom (before : List Char) : List Char → List Char
  | [] => []
  | c :: rest =>
    if c = 'Σ' then lowerSigma before rest :: lowerFrom (c :: before) rest
    else lowerChar c ++ lowerFrom (c :: before) rest

/-- The full lower-case form of a text. -/
def lower (s : List Char) : List Char := lowerFrom [] s

/-- The full lower-case form of a string. -/
def lowered (s : String) : String := String.ofList (lower s.toList)

end ModalConsole.Text
