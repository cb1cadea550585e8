import ModalConsole.Accounts
import ModalConsole.Command.Line

/-!
# Command tables

A table of commands, each with a name, aliases, the privilege that it takes and what the owner of
the table runs it with. Model of `CommandSpec`, and of `CommandRegistry` with `register`, `lookup`,
`resolve` and `help_lines`.

* The table keeps an index from names to positions. Names are compared lower-cased, and a later
  registration wins any clash.
* A command may be listed on a page of the help.
-/

namespace ModalConsole

open Text

/-- A command that can be registered. -/
structure CommandSpec (α : Type) where
  name : String
  aliases : List String := []
  /-- The least identity that may run the command. -/
  privilege : Identity := .nobody
  /-- The page of the help that lists the command, if one does. -/
  helpPage : Option Nat := none
  /-- What follows the names on that page. -/
  usage : String := ""
  /-- What the command does, in one line. -/
  summary : String := ""
  /-- What the owner of the table runs the command with. -/
  action : α

/-- Why a command line is refused. -/
inductive CommandError where
  /-- No command goes by the head of the line. -/
  | unknown (head : String)
  | permissionDenied (command : String) (required : Identity)
  deriving DecidableEq, Repr

/-- The words that report a refused command line. -/
def CommandError.message : CommandError → String
  | .unknown _ => "Invalid IPTV Command. Type help or cmds for the list of commands."
  | .permissionDenied command required =>
    "Permission denied: " ++ command ++ " requires " ++ required.name ++ ". Use su "
      ++ required.name ++ " first."

/-- The names that a command goes by. -/
def CommandSpec.names {α : Type} (spec : CommandSpec α) : List String := spec.name :: spec.aliases

/-- The line of a command on a page of the help. -/
def CommandSpec.helpLine {α : Type} (spec : CommandSpec α) : String :=
  " / ".intercalate spec.names ++ (if spec.usage.isEmpty then "" else " " ++ spec.usage)
    ++ " = " ++ spec.summary

/-- Registered commands, with the index of their names. -/
structure CommandTable (α : Type) where
  specs : List (CommandSpec α) := []
  /-- The position of the command for each lower-cased name; the first entry of a name counts. -/
  index : List (String × Nat) := []

namespace CommandTable

variable {α : Type}

/-- A table without commands. -/
def empty : CommandTable α := {}

/-- Registers a command. -/
def register (table : CommandTable α) (spec : CommandSpec α) : CommandTable α :=
  { specs := table.specs ++ [spec]
    index := spec.names.foldl (fun index name => (lowered name, table.specs.length) :: index)
      table.index }

/-- The table of a list of commands. -/
def ofList (specs : List (CommandSpec α)) : CommandTable α := specs.foldl register empty

/-- The command that a head stands for. -/
def lookup (table : CommandTable α) (head : String) : Option (CommandSpec α) :=
  (table.index.lookup (lowered (trimmed head))).bind (table.specs[·]?)

/-- Does the head stand for a command? -/
def contains (table : CommandTable α) (head : String) : Bool := (table.lookup head).isSome

/-- The command that a line asks for, if the current identity may run it. -/
def resolve (table : CommandTable α) (line : CommandLine) (current : Identity) :
    Except CommandError (CommandSpec α) :=
  match table.lookup line.head with
  | none => .error (.unknown line.head)
  | some spec =>
    if current.rank < spec.privilege.rank then .error (.permissionDenied spec.name spec.privilege)
    else .ok spec

/-- The lines of a page of the help, in the order of registration. -/
def helpLines (table : CommandTable α) (page : Nat) : List String :=
  (table.specs.filter (·.helpPage == some page)).map CommandSpec.helpLine

/-- The last page of the help that lists a command. -/
def helpPageCount (table : CommandTable α) : Nat :=
  (table.specs.filterMap (·.helpPage)).foldl max 0

end CommandTable

end ModalConsole
