import ModalConsole.Text.Blank

/-!
# Accounts: who is logged in

Three identities, ordered by privilege, and the rules by which one follows another. Model of
`Identity`, and of `PrivilegeManager` with `login`, `escalate` and `revert_to_previous`.

* Only root needs a password, which has to match character for character.
* Every successful login or switch remembers the identity held right before it, except that a
  login from nobody remembers the new identity.
* `revert` swaps the two. A refused request changes nothing.
-/

namespace ModalConsole

open Text

/-- An account that a session can run under. -/
inductive Identity where
  | nobody
  | user
  | root
  deriving DecidableEq, Repr

/-- Why a login or a switch is refused. -/
inductive AccountError where
  /-- No account has the name. -/
  | unknownName (name : String)
  | wrongPassword
  deriving DecidableEq, Repr

/-- The words that report a refused login. -/
def AccountError.message : AccountError → String
  | .unknownName _ => "Invalid User!"
  | .wrongPassword => "Wrong Password!"

namespace Identity

/-- The name of an identity in prompts. -/
def name : Identity → String
  | nobody => "none"
  | user => "user"
  | root => "root"

/-- The place of an identity in the order of privilege. -/
def rank : Identity → Nat
  | nobody => 0
  | user => 1
  | root => 2

/-- Does becoming this identity take a password? -/
def needsPassword : Identity → Bool
  | root => true
  | _ => false

/-- The identity with a typed name; blanks around the name do not count. -/
def ofName (typed : String) : Except AccountError Identity :=
  let name := trimmed typed
  if name = "root" then .ok root
  else if name = "user" then .ok user
  else .error (.unknownName name)

end Identity

/-- The password of root unless the settings give another. -/
def defaultRootPassword : String := "admin"

/-- The current identity and the one before it. -/
structure Accounts where
  current : Identity
  previous : Identity
  deriving DecidableEq, Repr

/-- What a switch of identity led to. -/
inductive Switch where
  /-- The identity was current already. -/
  | alreadyActive
  /-- The current identity changed. -/
  | switched (before after : Identity)
  deriving DecidableEq, Repr

namespace Accounts

/-- Nobody has logged in yet. -/
def initial : Accounts := ⟨.nobody, .nobody⟩

/-- Checks the credential that comes with a request for an identity. -/
def verify (password : String) (identity : Identity) (credential : Option String) :
    Except AccountError Unit :=
  match identity with
  | .nobody => .error (.unknownName identity.name)
  | .user => .ok ()
  | .root => if credential = some password then .ok () else .error .wrongPassword

/-- Logs in. -/
def login (a : Accounts) (password : String) (identity : Identity) (credential : Option String) :
    Except AccountError Accounts :=
  (verify password identity credential).map fun _ =>
    ⟨identity, if a.current = .nobody then identity else a.current⟩

/-- Switches to another identity without logging out. -/
def switchTo (a : Accounts) (password : String) (target : Identity) (credential : Option String) :
    Except AccountError (Switch × Accounts) :=
  if a.current = target then .ok (.alreadyActive, a)
  else
    (verify password target credential).map fun _ =>
      (.switched a.current target, ⟨target, a.current⟩)

/-- Goes back to the previous identity, which then is the one left. -/
def revert (a : Accounts) : Switch × Accounts :=
  if a.current = a.previous then (.alreadyActive, a)
  else (.switched a.current a.previous, ⟨a.previous, a.current⟩)

end Accounts

end ModalConsole
