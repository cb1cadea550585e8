import ModalConsole.Storage.Disk

/-!
# Stores: texts kept by path

Model of `MemoryStorage` and `FsStorage`, and of `sanitize_component`.

* A store in memory keeps a text for each path.
* A store in a directory keeps each text in a file directly inside it. The name of the file is
  what is left of the path after `fileName`, so no path leads out of the directory.
* A store out of order refuses everything.

The directory of a store is made before the first text is written, and stays also if the text is
then refused.
-/

namespace ModalConsole

/-- Why a store refuses to read or to write. -/
inductive StoreError where
  /-- Nothing is left of the path as a name. -/
  | invalidPath (path : String)
  /-- The directory of the store cannot be made. -/
  | createFailed (directory : String)
  | writeFailed (target : String)
  | readFailed (target : String)
  /-- The store is out of order. -/
  | outOfOrder (reason : String)
  deriving DecidableEq, Repr

/-- The words that report a refusal. -/
def StoreError.message : StoreError → String
  | .invalidPath path => "invalid storage path '" ++ path ++ "'"
  | .createFailed directory => "failed to create " ++ directory
  | .writeFailed target => "failed to write " ++ target
  | .readFailed target => "failed to read " ++ target
  | .outOfOrder reason => reason

/-! ## File names -/

/-- Does the character end a directory or a drive in a path? -/
def isSeparator (c : Char) : Bool := c == '/' || c == '\\' || c == ':'

/-- What follows the last separator of a path. -/
def afterSeparators : List Char → List Char
  | [] => []
  | c :: rest => if rest.any isSeparator || isSeparator c then afterSeparators rest else c :: rest

/-- Can the character stand in a file name? -/
def isNameChar (c : Char) : Bool := c.isAlphanum || c == '-' || c == '_' || c == '.'

/-- The file name in a path: the name characters after the last separator, without leading
dots. -/
def fileName (path : String) : String :=
  String.ofList (((afterSeparators path.toList).filter isNameChar).dropWhile (· == '.'))

/-! ## Stores -/

/-- A store of texts. -/
inductive Store where
  | memory (files : List (String × String))
  | directory (root : String) (disk : Disk)
  | outOfOrder (reason : String)
  deriving DecidableEq, Repr

namespace Store

/-- The text that a list of files has under a path. -/
def fileIn (files : List (String × String)) (path : String) : Option String :=
  (files.find? (·.1 == path)).map (·.2)

/-- A list of files with a text put under a path. -/
def withFile (files : List (String × String)) (path content : String) : List (String × String) :=
  (path, content) :: files.filter (·.1 != path)

/-- Writes a text into a file of the directory `root`, which is made first: the disk afterwards,
and the refusal if there was one. -/
def writeInto (root : String) (disk : Disk) (name content : String) : Disk × Option StoreError :=
  match disk.makeDirectories root with
  | none => (disk, some (.createFailed root))
  | some made =>
    match made.write? root name content with
    | none => (made, some (.writeFailed (joinPath root name)))
    | some written => (written, none)

/-- Reads a file of the directory `root`. -/
def readFrom (root : String) (disk : Disk) (name : String) : Except StoreError (Option String) :=
  match disk.read? root name with
  | none => .ok none
  | some (.text content) => .ok (some content)
  | some _ => .error (.readFailed (joinPath root name))

/-- Writes a text under a path: the store afterwards, and the refusal if there was one. -/
def write (store : Store) (path content : String) : Store × Option StoreError :=
  match store with
  | memory files => (memory (withFile files path content), none)
  | directory root disk =>
    let name := fileName path
    if name.isEmpty then (store, some (.invalidPath path))
    else
      let (disk, refusal) := writeInto root disk name content
      (directory root disk, refusal)
  | outOfOrder reason => (store, some (.outOfOrder reason))

/-- Reads the text under a path, if there is one. -/
def read (store : Store) (path : String) : Except StoreError (Option String) :=
  match store with
  | memory files => .ok (fileIn files path)
  | directory root disk =>
    let name := fileName path
    if name.isEmpty then .error (.invalidPath path) else readFrom root disk name
  | outOfOrder reason => .error (.outOfOrder reason)

end Store

end ModalConsole
