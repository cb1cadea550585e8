import ModalConsole.Accounts
import ModalConsole.Input

/-!
# The modes of a session

At every moment one mode has the terminal, and it fixes the kind of input that comes next. Model of
`Mode`, with `BootStage`, `LoginStage` and `ShellPrompt`.
-/

namespace ModalConsole

/-- Where a boot leads. -/
inductive BootTarget where
  | shell
  | desktop
  deriving DecidableEq, Repr

namespace BootTarget

/-- The entries of the boot menu, from top to bottom. -/
def menu : List BootTarget := [shell, desktop]

/-- The last entry of the boot menu. -/
def lastEntry : Nat := menu.length - 1

/-- The caption of an entry. -/
def label : BootTarget → String
  | shell => "Normal Boot"
  | desktop => "GUI Boot"

/-- The entry that a typed character stands for. -/
def ofChar? : Char → Option BootTarget
  | '1' => some shell
  | '2' => some desktop
  | _ => none

end BootTarget

/-- What a session is doing. -/
inductive Mode where
  /-- Choosing what to boot, with the selected entry. -/
  | bootMenu (selected : Nat)
  /-- Asking who logs in. -/
  | loginName (target : BootTarget)
  /-- Asking for the password of a login. -/
  | loginPassword (identity : Identity) (target : BootTarget)
  /-- The rescue console. -/
  | rescue
  /-- The idle game. -/
  | game
  | desktop
  /-- Reading the manual. -/
  | manual
  /-- The command shell. -/
  | shell
  /-- Asking for the password of a switch of user. -/
  | switchPassword (target : Identity)
  /-- Asking for a product key. -/
  | productKey
  deriving DecidableEq, Repr

namespace Mode

/-- The mode of a new session. -/
def initial : Mode := bootMenu 0

/-- The kind of input that a mode reads. -/
def asks : Mode → InputKind
  | bootMenu _ => .key
  | manual => .key
  | desktop => .pointer
  | _ => .line

/-- Is it one of the modes before the first login? -/
def isBoot : Mode → Bool
  | bootMenu _ => true
  | loginName _ => true
  | loginPassword _ _ => true
  | _ => false

end Mode

/-- The mode that a successful login leads to. -/
def BootTarget.mode : BootTarget → Mode
  | .shell => .shell
  | .desktop => .desktop

end ModalConsole
