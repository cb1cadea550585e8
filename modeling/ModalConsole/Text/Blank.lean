/-!
# Blank characters: trimming, words and lines

A character is blank when it has the White_Space property of Unicode: 25 code points, of which
core's `Char.isWhitespace` knows four. Model of `trim`, `split_whitespace` and `lines` of a text.

* `trimStart`, `trimEnd` and `trim` drop blanks at the ends; `words` are the longest runs
  without a blank, in order.
* `lines` cuts at every line feed; a carriage return right before the line feed belongs to it.
  Text after the last line feed is a line only if it is not empty.

Everything works on `List Char` by structural recursion.
-/

namespace ModalConsole.Text

/-- Does the character have the White_Space property? -/
def isBlank (c : Char) : Bool :=
  let n := c.toNat
  (9 ≤ n && n ≤ 13) || n == 0x20 || n == 0x85 || n == 0xA0 || n == 0x1680
    || (0x2000 ≤ n && n ≤ 0x200A) || n == 0x2028 || n == 0x2029 || n == 0x202F || n == 0x205F
    || n == 0x3000

/-- The text without its leading blanks. -/
def trimStart (s : List Char) : List Char := s.dropWhile isBlank

/-- The text without the longest end of it that consists of characters in `p`. -/
def dropEndWhile (p : Char → Bool) : List Char → List Char
  | [] => []
  | c :: rest =>
    match dropEndWhile p rest with
    | [] => if p c then [] else [c]
    | kept => c :: kept

/-- The text without its trailing blanks. -/
def trimEnd (s : List Char) : List Char := dropEndWhile isBlank s

/-- The text without blanks at either end. -/
def trim (s : List Char) : List Char := trimEnd (trimStart s)

/-- Puts one character in front of the first word of a list. -/
def extendFirst (c : Char) : List (List Char) → List (List Char)
  | [] => [[c]]
  | w :: ws => (c :: w) :: ws

/-- Does the text go on with a character that is not blank? -/
def startsSolid : List Char → Bool
  | [] => false
  | c :: _ => !isBlank c

/-- The words of a text: its longest runs without a blank, from left to right. -/
def words : List Char → List (List Char)
  | [] => []
  | c :: rest =>
    if isBlank c then words rest
    else if startsSolid rest then extendFirst c (words rest)
    else [c] :: words rest

/-- The text without one carriage return at its end. -/
def dropReturn : List Char → List Char
  | [] => []
  | ['\r'] => []
  | c :: rest => c :: dropReturn rest

/-- The lines of a text, `current` being what the open line holds so far, last character first. -/
def linesFrom (current : List Char) : List Char → List (List Char)
  | [] => if current.isEmpty then [] else [current.reverse]
  | c :: rest =>
    if c = '\n' then dropReturn current.reverse :: linesFrom [] rest
    else linesFrom (c :: current) rest

/-- The lines of a text without their line ends. -/
def lines (s : List Char) : List (List Char) := linesFrom [] s

/-- What stands before and after the first occurrence of `mark`, if there is one. -/
def splitAtFirst (mark : Char) : List Char → Option (List Char × List Char)
  | [] => none
  | c :: rest =>
    if c = mark then some ([], rest)
    else (splitAtFirst mark rest).map fun (before, after) => (c :: before, after)

/-! ## On strings -/

/-- The string without blanks at either end. -/
def trimmed (s : String) : String := String.ofList (trim s.toList)

/-- The string without its trailing blanks. -/
def trimmedEnd (s : String) : String := String.ofList (trimEnd s.toList)

end ModalConsole.Text
