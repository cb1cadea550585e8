import ModalConsole.Settings.Value
import ModalConsole.Text.Quoted

/-!
# JSON objects of settings

Model of the package `serde_json` as far as it reads and writes a file of settings.

* `readObject?` reads a text that is one JSON object, as the list of its fields in order. The
  content of lists and of inner objects is checked and then dropped; only whether an inner
  object has fields is kept.
* `writeObject` writes fields one to a line, indented by two blanks.

Values may be nested `maxDepth` deep. An integer that 64 bits with a sign do not hold is a
number. A numeral with a fraction or an exponent is read as the digits that fit into 64 bits,
scaled by one power of ten.
-/

namespace ModalConsole.Json

open Text

/-- The number of lists and objects that may stand one inside the other. -/
def maxDepth : Nat := 127

/-- Is the character white space of JSON? -/
def isSpace (c : Char) : Bool := c == ' ' || c == '\n' || c == '\t' || c == '\r'

/-- The text without leading white space. -/
def skipSpace (s : List Char) : List Char := s.dropWhile isSpace

/-! ## Texts -/

/-- The value of a digit in base sixteen. -/
def hexValue (c : Char) : Option Nat :=
  if c.isDigit then some (c.toNat - '0'.toNat)
  else if 'a' ≤ c && c ≤ 'f' then some (c.toNat - 'a'.toNat + 10)
  else if 'A' ≤ c && c ≤ 'F' then some (c.toNat - 'A'.toNat + 10)
  else none

/-- Reads four digits in base sixteen. -/
def readHex4 : List Char → Option (Nat × List Char)
  | a :: b :: c :: d :: rest =>
    match hexValue a, hexValue b, hexValue c, hexValue d with
    | some a, some b, some c, some d => some (((a * 16 + b) * 16 + c) * 16 + d, rest)
    | _, _, _, _ => none
  | _ => none

/-- Is the number the first half of a pair of surrogates? -/
def isHighSurrogate (n : Nat) : Bool := 0xD800 ≤ n && n < 0xDC00

/-- Is the number the second half of a pair of surrogates? -/
def isLowSurrogate (n : Nat) : Bool := 0xDC00 ≤ n && n < 0xE000

/-- Reads what follows a backslash and the letter u: one character, which may take a second
numeral. -/
def readUnicode (s : List Char) : Option (Char × List Char) :=
  match readHex4 s with
  | none => none
  | some (n, rest) =>
    if isLowSurrogate n then none
    else if isHighSurrogate n then
      match rest with
      | '\\' :: 'u' :: rest =>
        match readHex4 rest with
        | some (m, rest) =>
          if isLowSurrogate m then
            some (Char.ofNat (0x10000 + (n - 0xD800) * 0x400 + (m - 0xDC00)), rest)
          else none
        | none => none
      | _ => none
    else some (Char.ofNat n, rest)

/-- The character that a letter stands for after a backslash. -/
def simpleEscape (c : Char) : Option Char :=
  if c = '"' || c = '\\' || c = '/' then some c
  else if c = 'b' then some '\x08'
  else if c = 'f' then some '\x0c'
  else if c = 'n' then some '\n'
  else if c = 'r' then some '\r'
  else if c = 't' then some '\t'
  else none

/-- Reads one character of a text that does not end there. -/
def readChar : List Char → Option (Char × List Char)
  | [] => none
  | '\\' :: 'u' :: rest => readUnicode rest
  | '\\' :: c :: rest => (simpleEscape c).map fun d => (d, rest)
  | c :: rest => if c.toNat < 0x20 || c = '\\' then none else some (c, rest)

/-- Reads a text up to its closing quote, `fuel` bounding its characters. -/
def readTextBody : Nat → List Char → Option (List Char × List Char)
  | 0, _ => none
  | fuel + 1, s =>
    match s with
    | '"' :: rest => some ([], rest)
    | s =>
      match readChar s with
      | none => none
      | some (c, rest) => (readTextBody fuel rest).map fun (cs, rest) => (c :: cs, rest)

/-- Reads a text that starts with its opening quote. -/
def readText : List Char → Option (List Char × List Char)
  | '"' :: rest => readTextBody (rest.length + 1) rest
  | _ => none

/-! ## Numerals -/

/-- The digits of a numeral that fit into 64 bits, with the number of digits that were read. The
first digit that does not fit ends them. -/
def fittingDigits (value count : Nat) : List Char → Nat × Nat
  | [] => (value, count)
  | d :: rest =>
    if appendDigit value d ≤ maxCount then fittingDigits (appendDigit value d) (count + 1) rest
    else (value, count)

/-- A power of ten as a number, for exponents up to 308. -/
def powerOfTen (n : Nat) : Binary64 := Binary64.ofDecimal false ⟨1, n⟩

/-- Divides a number by `10 ^ n`, in steps of at most 308 places. -/
def scaleDown (x : Binary64) (n : Nat) : Binary64 :=
  if n ≤ 308 then x / powerOfTen n
  else if x = Binary64.zero then x
  else scaleDown (x / powerOfTen 308) (n - 308)
termination_by n
decreasing_by omega

/-- The number `value · 10 ^ exponent`, unless it is too large. -/
def scaled (value : Nat) (exponent : Int) : Option Binary64 :=
  let x := Binary64.ofNat value
  if exponent < 0 then some (scaleDown x (-exponent).toNat)
  else if exponent ≤ 308 then
    let y := x * powerOfTen exponent.toNat
    if y.isFinite then some y else none
  else if value = 0 then some x
  else none

/-- An integer, or the nearest number if 64 bits with a sign do not hold it. -/
def integerValue (negative : Bool) (n : Nat) : Value :=
  if negative then
    if n = 0 || integerRange < n then .number (Binary64.ofNat n).neg else .integer (-(n : Int))
  else if n < integerRange then .integer n
  else .number (Binary64.ofNat n)

/-- A number with a sign. -/
def signedNumber (negative : Bool) (x : Binary64) : Value := .number (if negative then x.neg else x)

/-- Reads the exponent of a numeral, if there is one. -/
def readExponentPart (s : List Char) : Option (Option Int × List Char) :=
  match s with
  | c :: rest =>
    if c = 'e' || c = 'E' then
      let (negative, rest) := match rest with
        | '-' :: rest => (true, rest)
        | '+' :: rest => (false, rest)
        | rest => (false, rest)
      let (ds, rest) := Binary64.splitDigits rest
      if ds.isEmpty then none
      else
        let n : Int := Binary64.exponentValue ds
        some (some (if negative then -n else n), rest)
    else some (none, s)
  | [] => some (none, s)

/-- Reads the fraction of a numeral, if there is one. -/
def readFractionPart : List Char → Option (Option (List Char) × List Char)
  | '.' :: rest =>
    let (ds, rest) := Binary64.splitDigits rest
    if ds.isEmpty then none else some (some ds, rest)
  | rest => some (none, rest)

/-- The value of a numeral, from its whole digits, its fraction and its exponent. -/
def numeralValue (negative : Bool) (whole : List Char) (fraction : Option (List Char))
    (exponent : Option Int) : Option Value :=
  let (value, read) := fittingDigits 0 0 whole
  let dropped := whole.length - read
  if fraction = none && exponent = none && dropped = 0 then some (integerValue negative value)
  else
    let (value, read) := fittingDigits value 0 (fraction.getD [])
    (scaled value ((dropped : Int) - read + exponent.getD 0)).map (signedNumber negative)

/-- Reads a numeral without its sign. -/
def readNumeral (negative : Bool) (s : List Char) : Option (Value × List Char) :=
  let (whole, rest) := Binary64.splitDigits s
  if whole.isEmpty || (whole.length > 1 && whole.head? = some '0') then none
  else
    match readFractionPart rest with
    | none => none
    | some (fraction, rest) =>
      match readExponentPart rest with
      | none => none
      | some (exponent, rest) =>
        (numeralValue negative whole fraction exponent).map fun v => (v, rest)

/-! ## Values -/

/-- The value of an object with the given fields. -/
def objectValue (fields : List (String × Value)) : Value :=
  if fields.isEmpty then .emptyObject else .compound

/-- Reads a word from the front of a text. -/
def readWord (word : String) (v : Value) (s : List Char) : Option (Value × List Char) :=
  let w := word.toList
  if s.take w.length = w then some (v, s.drop w.length) else none

/-- Reads a value that is neither a list nor an object. -/
def readScalar (s : List Char) : Option (Value × List Char) :=
  match s with
  | '"' :: _ => (readText s).map fun (cs, rest) => (.text (String.ofList cs), rest)
  | 't' :: _ => readWord "true" (.bool true) s
  | 'f' :: _ => readWord "false" (.bool false) s
  | 'n' :: _ => readWord "null" .null s
  | '-' :: rest => readNumeral true rest
  | _ => readNumeral false s

mutual

/-- Reads a value, `depth` being the lists and objects that may still be opened. -/
def readValue (fuel depth : Nat) (s : List Char) : Option (Value × List Char) :=
  match fuel with
  | 0 => none
  | fuel + 1 =>
    match s with
    | '[' :: rest =>
      match depth with
      | 0 => none
      | depth + 1 =>
        match skipSpace rest with
        | ']' :: rest => some (.compound, rest)
        | rest => (readItems fuel depth rest).map fun rest => (.compound, rest)
    | '\x7b' :: rest =>
      match depth with
      | 0 => none
      | depth + 1 =>
        (readFields fuel depth rest).map fun (fields, rest) => (objectValue fields, rest)
    | s => readScalar s

/-- Reads the items of a list up to its closing bracket. -/
def readItems (fuel depth : Nat) (s : List Char) : Option (List Char) :=
  match fuel with
  | 0 => none
  | fuel + 1 =>
    match readValue fuel depth (skipSpace s) with
    | none => none
    | some (_, rest) =>
      match skipSpace rest with
      | ']' :: rest => some rest
      | ',' :: rest => readItems fuel depth rest
      | _ => none

/-- Reads the fields of an object up to its closing brace. -/
def readFields (fuel depth : Nat) (s : List Char) :
    Option (List (String × Value) × List Char) :=
  match fuel with
  | 0 => none
  | fuel + 1 =>
    match skipSpace s with
    | '\x7d' :: rest => some ([], rest)
    | s => readMoreFields fuel depth s

/-- Reads at least one field and then the rest of an object up to its closing brace. -/
def readMoreFields (fuel depth : Nat) (s : List Char) :
    Option (List (String × Value) × List Char) :=
  match fuel with
  | 0 => none
  | fuel + 1 =>
    match readText (skipSpace s) with
    | none => none
    | some (name, rest) =>
      match skipSpace rest with
      | ':' :: rest =>
        match readValue fuel depth (skipSpace rest) with
        | none => none
        | some (v, rest) =>
          match skipSpace rest with
          | '\x7d' :: rest => some ([(String.ofList name, v)], rest)
          | ',' :: rest =>
            (readMoreFields fuel depth rest).map fun (fields, rest) =>
              ((String.ofList name, v) :: fields, rest)
          | _ => none
      | _ => none

end

/-- Reads a text that is one object. -/
def readObject? (text : String) : Option (List (String × Value)) :=
  match skipSpace text.toList with
  | '\x7b' :: rest =>
    match readFields (2 * text.length + 2) (maxDepth - 1) rest with
    | some (fields, rest) => if (skipSpace rest).isEmpty then some fields else none
    | none => none
  | _ => none

/-! ## Writing -/

/-- A character of a text as it is written. -/
def writeChar (c : Char) : List Char :=
  if c = '"' || c = '\\' then ['\\', c]
  else if c = '\n' then ['\\', 'n']
  else if c = '\r' then ['\\', 'r']
  else if c = '\t' then ['\\', 't']
  else if c = '\x08' then ['\\', 'b']
  else if c = '\x0c' then ['\\', 'f']
  else if c.toNat < 0x20 then
    ['\\', 'u', '0', '0', hexDigit (c.toNat / 16), hexDigit (c.toNat % 16)]
  else [c]

/-- A text between its quotes. -/
def writeText (s : String) : String :=
  String.ofList (['"'] ++ s.toList.flatMap writeChar ++ ['"'])

/-- A field on a line of its own. -/
def writeField (field : String × String) : String := "  " ++ writeText field.1 ++ ": " ++ field.2

/-- An object, from its fields with their values as they are written. -/
def writeObject (fields : List (String × String)) : String :=
  "\x7b\n" ++ ",\n".intercalate (fields.map writeField) ++ "\n\x7d"

end ModalConsole.Json
