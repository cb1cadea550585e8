import ModalConsole.Settings.Library
import ModalConsole.Settings.Value

/-!
# Names of settings

A name under which a file or the environment gives a value, and the setting that the value is for.
Model of the expressions that the package `config` takes for keys.

* Letter case does not matter in a name.
* A name may lead inside a setting: the name of the setting, then inner parts, each a point with
  an inner name or an integer in brackets. The setting is then a list or an object, whatever
  the value.
* A text that is no such path is a name as it stands.
* Of the values for one setting the last one counts, but an empty object only if it is the only
  one. A field whose name comes again letter for letter does not count at all.
* A variable gives a value under what follows the mark and an underscore in its name.
-/

namespace ModalConsole

open Text

/-- A list of named values. -/
abbrev Layer := List (String × Value)

namespace Settings

/-- Can the character stand in a part of a path? -/
def isPartChar (c : Char) : Bool := c.isAlphanum || c == '_' || c == '-' || c == ' '

/-- Can the character stand around an index? -/
def isIndexSpace (c : Char) : Bool := c == ' ' || c == '\t'

/-- What follows an index of 64 bits and its closing bracket. -/
def afterIndex? (s : List Char) : Option (List Char) :=
  let s := s.dropWhile isIndexSpace
  let (sign, s) := match s with
    | '-' :: rest => (['-'], rest)
    | rest => ([], rest)
  let (digits, s) := Binary64.splitDigits s
  if digits.isEmpty || (readInteger (sign ++ digits)).isNone then none
  else
    match s.dropWhile isIndexSpace with
    | ']' :: rest => some rest
    | _ => none

/-- What follows the first inner part of a path. -/
def afterInnerPart? : List Char → Option (List Char)
  | '.' :: rest =>
    if (rest.takeWhile isPartChar).isEmpty then none else some (rest.dropWhile isPartChar)
  | '[' :: rest => afterIndex? rest
  | _ => none

/-- Is the text a sequence of inner parts, `fuel` bounding their number? -/
def isInnerPath : Nat → List Char → Bool
  | _, [] => true
  | 0, _ => false
  | fuel + 1, s =>
    match afterInnerPart? s with
    | none => false
    | some rest => isInnerPath fuel rest

/-- The name of the setting that a path leads inside. -/
def outerName? (path : List Char) : Option (List Char) :=
  let outer := path.takeWhile isPartChar
  let inner := path.dropWhile isPartChar
  if outer.isEmpty || inner.isEmpty || !isInnerPath inner.length inner then none else some outer

/-- A named value with the name of its setting. -/
def entryOf (field : String × Value) : String × Value :=
  let name := lower field.1.toList
  match outerName? name with
  | some outer => (String.ofList outer, .compound)
  | none => (String.ofList name, field.2)

/-- The fields without those whose name comes again, letter for letter. -/
def lastFields : List (String × Value) → List (String × Value)
  | [] => []
  | field :: rest =>
    if rest.any (·.1 == field.1) then lastFields rest else field :: lastFields rest

/-- The values that fields give for settings. -/
def layerOf (fields : List (String × Value)) : Layer := (lastFields fields).map entryOf

/-- The value that a layer gives for a name: the last one that is no empty object, else an empty
object if there is one. An empty object adds no field to what is there, so it replaces nothing. -/
def valueIn (layer : Layer) (name : String) : Option Value :=
  let values := (layer.filter (·.1 == name)).map (·.2)
  (values.reverse.find? (· != .emptyObject)).or values.head?

/-- The name under which a variable gives a value, if its own name begins with a mark. -/
def settingName? (mark variableName : String) : Option String :=
  let mark := lower mark.toList ++ ['_']
  let name := lower variableName.toList
  if name.take mark.length = mark then some (String.ofList (name.drop mark.length)) else none

/-- The values that variables give whose names begin with a mark. -/
def environmentLayer (mark : String) (env : Environment) : Layer :=
  env.filterMap fun (name, value) =>
    (settingName? mark name).map fun setting => entryOf (setting, Value.ofEnvironment value)

end Settings

end ModalConsole
