/-!
# Disks

A disk is what stands at the places of a directory tree: a directory, a text or a file that is no
text. Model of `create_dir_all` and of the reading and writing of files, as far as a session can
tell.

* A place is the list of names on the way from the top; the top is a directory.
* A path is a text of steps between slashes: a name leads down, two dots lead back up, a single
  dot stays. Every step needs a directory to start from.
* `makeDirectories` makes a directory with all those on the way to it, and fails if a file stands
  in the way. A directory that was there stays as it is. A path that ends in a single dot only
  names a directory, so the last directory has to be there. `attemptDirectories` is the disk
  afterwards, also where that fails.
* A text can be written where no directory stands, inside a directory.
-/

namespace ModalConsole

/-- The names on the way from the top of a disk. -/
abbrev Place := List String

/-- What stands at a place. -/
inductive Entry where
  | directory
  | text (content : String)
  /-- A file whose bytes are not the encoding of a text. -/
  | bytes (content : List UInt8)
  deriving DecidableEq, Repr

/-- A directory tree: the places that are in use and what stands there. -/
structure Disk where
  entries : List (Place × Entry) := []
  deriving DecidableEq, Repr

/-! ## Paths -/

/-- The greatest number of bytes in a name. -/
def longestName : Nat := 255

/-- The greatest number of bytes in a path. -/
def longestPath : Nat := 4095

/-- A step of a path from a directory. -/
inductive PathStep where
  | up
  | down (name : String)
  deriving DecidableEq, Repr

/-- The parts of a path between its slashes. -/
def pathParts (path : String) : List String :=
  (path.splitToList (· == '/')).filter (· != "")

/-- The step that a part of a path stands for. -/
def PathStep.ofPart? (part : String) : Option PathStep :=
  if part = "." then none else if part = ".." then some .up else some (.down part)

/-- The steps of a path. -/
def pathSteps (path : String) : List PathStep := (pathParts path).filterMap PathStep.ofPart?

/-- Does a path end in a single dot? -/
def endsInDot (path : String) : Bool := (pathParts path).getLast? == some "."

/-- Can a path stand for anything on a disk? -/
def isUsablePath (path : String) : Bool :=
  path.utf8ByteSize ≤ longestPath && !path.toList.any (·.toNat == 0)

/-- Does a path start at the top? -/
def isAbsolutePath (path : String) : Bool := path.toList.head? == some '/'

/-- A path from the place that another path names, with one separator between them. A path from
the top stays alone, and an empty path adds nothing in front. -/
def joinPath (path more : String) : String :=
  if isAbsolutePath more then more
  else if path.isEmpty || path.toList.getLast? == some '/' then path ++ more
  else path ++ "/" ++ more

namespace Disk

/-! ## Places -/

/-- What stands at a place. -/
def find? (d : Disk) (place : Place) : Option Entry :=
  if place = [] then some .directory else (d.entries.find? (·.1 == place)).map (·.2)

/-- Does a directory stand at a place? -/
def hasDirectory (d : Disk) (place : Place) : Bool := d.find? place == some .directory

/-- Puts an entry at a place. -/
def put (d : Disk) (place : Place) (entry : Entry) : Disk :=
  ⟨(place, entry) :: d.entries.filter (·.1 != place)⟩

/-- Makes a directory at a place where nothing or a directory stands. -/
def makeDirectory (d : Disk) (place : Place) : Option Disk :=
  match d.find? place with
  | none => some (d.put place .directory)
  | some .directory => some d
  | some _ => none

/-- The place below a directory, unless the name is too long. -/
def placeBelow? (d : Disk) (directory : Place) (name : String) : Option Place :=
  if d.hasDirectory directory && name.utf8ByteSize ≤ longestName then some (directory ++ [name])
  else none

/-- The place to which steps lead from another one. -/
def follow? (d : Disk) (start : Place) : List PathStep → Option Place
  | [] => some start
  | .up :: rest => if d.hasDirectory start then d.follow? start.dropLast rest else none
  | .down name :: rest => (d.placeBelow? start name).bind fun place => d.follow? place rest

/-- Makes the directories to which steps lead from another one. -/
def makeAlong (d : Disk) (start : Place) : List PathStep → Option Disk
  | [] => some d
  | .up :: rest => d.makeAlong start.dropLast rest
  | .down name :: rest => do
    let place ← d.placeBelow? start name
    let made ← d.makeDirectory place
    made.makeAlong place rest

/-- The disk after an attempt to make the directories to which steps lead from another one: those
before the first that cannot be made stay. -/
def attemptAlong (d : Disk) (start : Place) : List PathStep → Disk
  | [] => d
  | .up :: rest => d.attemptAlong start.dropLast rest
  | .down name :: rest =>
    match d.placeBelow? start name with
    | none => d
    | some place =>
      match d.makeDirectory place with
      | none => d
      | some made => made.attemptAlong place rest

/-! ## Paths on a disk -/

/-- The place of the directory that a path names. -/
def directoryAt? (d : Disk) (path : String) : Option Place :=
  if isUsablePath path then (d.follow? [] (pathSteps path)).filter d.hasDirectory else none

/-- Makes the directory that a path names and all those on the way to it. -/
def makeDirectories (d : Disk) (path : String) : Option Disk :=
  if !isUsablePath path then none
  else if endsInDot path && (d.directoryAt? path).isNone then
    (d.makeAlong [] (pathSteps path).dropLast).filter fun made => (made.directoryAt? path).isSome
  else d.makeAlong [] (pathSteps path)

/-- The disk after an attempt to make the directory that a path names and all those on the way to
it. -/
def attemptDirectories (d : Disk) (path : String) : Disk :=
  if !isUsablePath path then d
  else if endsInDot path && (d.directoryAt? path).isNone then
    d.attemptAlong [] (pathSteps path).dropLast
  else d.attemptAlong [] (pathSteps path)

/-- The place of a name in the directory that a path names. -/
def placeIn? (d : Disk) (directory name : String) : Option Place :=
  if isUsablePath (joinPath directory name) then
    (d.directoryAt? directory).bind fun place => d.placeBelow? place name
  else none

/-- What stands under a name in the directory that a path names. -/
def read? (d : Disk) (directory name : String) : Option Entry :=
  (d.placeIn? directory name).bind d.find?

/-- Writes a text under a name into the directory that a path names. -/
def write? (d : Disk) (directory name content : String) : Option Disk :=
  match d.placeIn? directory name with
  | some place => if d.hasDirectory place then none else some (d.put place (.text content))
  | none => none

/-- Puts an entry at the end of a path, with the directories on the way to it. A disk on which
that is not possible stays as it is. -/
def putAt (d : Disk) (path : String) (entry : Entry) : Disk :=
  let steps := pathSteps path
  match steps.getLast?, d.makeAlong [] steps.dropLast with
  | some (.down name), some made =>
    match (made.follow? [] steps.dropLast).bind fun place => made.placeBelow? place name with
    | some place => made.put place entry
    | none => d
  | _, _ => d

end Disk

end ModalConsole
