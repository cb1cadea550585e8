import ModalConsole.Economy.Record
import ModalConsole.Manual.Pages
import ModalConsole.Power
import ModalConsole.ProductKey
import ModalConsole.Session.Mode
import ModalConsole.Settings.Basic
import ModalConsole.Terminal.Basic
import ModalConsole.Timestamp

/-!
# Sessions

A session is the state that all modes share, from the boot menu to the next reboot. What lies
outside of it, and may outlast it, is its world: the store, the source of random words and the time.
Model of `Services` and `SessionMachine`.

A turn is what one piece of input leads to: the session and the world after it, the effects on
the terminal, and at most one request to the power supply.
-/

namespace ModalConsole

/-- The state of a session. -/
structure Session where
  settings : Settings
  mode : Mode
  accounts : Accounts
  economy : Economy
  activation : Activation
  pager : Pager
  /-- A line to show once under the page of the manual. -/
  notice : Option String
  desktop : Desktop
  /-- The blank lines typed at the shell. -/
  blankLines : Nat
  startedAt : Timestamp
  deriving DecidableEq

/-- What a session finds outside of itself. -/
structure World where
  store : Store
  words : RandomWords
  now : Timestamp
  deriving DecidableEq

/-- What a piece of input leads to. -/
structure Turn where
  session : Session
  world : World
  effects : List Effect
  request : Option PowerAction
  deriving DecidableEq

namespace Session

/-- A new session: at the boot menu, with nobody logged in. -/
def start (settings : Settings) (now : Timestamp) : Session :=
  { settings := settings
    mode := .initial
    accounts := .initial
    economy := .initial
    activation := {}
    pager := .ofPages manualPages settings.pagerRows
    notice := none
    desktop := {}
    blankLines := 0
    startedAt := now }

/-- The session in another mode. -/
def enter (s : Session) (mode : Mode) : Session := { s with mode := mode }

/-- A turn that has effects on the terminal and none on the world. -/
def say (s : Session) (w : World) (effects : List Effect) : Turn := ⟨s, w, effects, none⟩

/-- The user and the host, as the prompt has them. -/
def address (s : Session) : String := s.accounts.current.name ++ "@" ++ s.settings.hostName

end Session

end ModalConsole
