import ModalConsole.Text.Blank
import ModalConsole.Text.LetterCase

/-!
# Command lines

A command line is a head, the first word, and a tail, what follows it. Model of `Invocation` and of
its `parse`.

* The head is lower-cased. The tail keeps its inner blanks and loses the blanks before it and
  the line ends after it.
* The words of the tail are flags or arguments. A flag starts with two dashes and has at least
  one more character; its name is lower-cased and has none of the leading dashes.
-/

namespace ModalConsole

open Text

/-- A command line taken apart. -/
structure CommandLine where
  /-- The first word, lower-cased. -/
  head : String
  /-- The words of the tail that are not flags. -/
  args : List String
  /-- The names of the flags. -/
  flags : List String
  /-- What follows the head. -/
  tail : String
  deriving DecidableEq, Repr

namespace CommandLine

/-- Is the word a flag? -/
def isFlag : List Char → Bool
  | '-' :: '-' :: _ :: _ => true
  | _ => false

/-- The name of a flag. -/
def flagName (word : List Char) : List Char := lower (word.dropWhile (· == '-'))

/-- Does the character end a line? -/
def isLineEnd (c : Char) : Bool := c == '\r' || c == '\n'

/-- The tail of a line, given what follows its first word. -/
def tailOf (rest : List Char) : List Char := dropEndWhile isLineEnd (trimStart rest)

/-- A command line with the given first word and tail. -/
def ofParts (word tail : List Char) : CommandLine :=
  { head := String.ofList (lower word)
    args := ((words tail).filter (!isFlag ·)).map String.ofList
    flags := ((words tail).filter isFlag).map (String.ofList <| flagName ·)
    tail := String.ofList tail }

/-- Takes a line apart; a line without a word is no command line. -/
def parseChars (line : List Char) : Option CommandLine :=
  let text := trimStart line
  let word := text.takeWhile (!isBlank ·)
  if word.isEmpty then none
  else some (ofParts word (tailOf (text.dropWhile (!isBlank ·))))

/-- Takes a line apart; a line without a word is no command line. -/
def parse (line : String) : Option CommandLine := parseChars line.toList

/-- The argument at a position. -/
def arg? (c : CommandLine) (index : Nat) : Option String := c.args[index]?

/-- Was the flag given? -/
def hasFlag (c : CommandLine) (name : String) : Bool := c.flags.contains name

end CommandLine

end ModalConsole
