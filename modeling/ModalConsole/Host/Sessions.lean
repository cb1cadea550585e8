import ModalConsole.Host.Basic
import ModalConsole.Session.Dispatch

/-!
# Sessions on a host

Model of `run_sessions`. Sessions follow one another on a host until one of them is shut down or the
events end. A reboot starts a session afresh, at the time that the clock shows then; the store is
all that it finds of the one before.

Every step takes at least one event, so there are at most as many steps as events, and one more
that fails.
-/

namespace ModalConsole

/-- How the last session ended. -/
inductive Ending where
  | shutdown
  | failed (reason : Failure HostError)
  deriving DecidableEq, Repr

/-- What is left when sessions have ended. -/
structure Ended where
  ending : Ending
  host : Host
  world : World

/-- What follows a step of a session. -/
inductive Next where
  | finish (ending : Ending)
  /-- Start a session afresh. -/
  | restart
  /-- Go on with the session. -/
  | proceed
  deriving DecidableEq, Repr

/-- What a pending request of the power supply makes of the sessions. -/
def nextOf : Option PowerAction → Next
  | some .shutdown => .finish .shutdown
  | some .reboot => .restart
  | none => .proceed

namespace Host

/-- The world as a session finds it that starts on a host. -/
def found (h : Host) (w : World) : World := { w with now := h.now }

/-- Runs at most `fuel` steps of sessions, beginning with `s`. -/
def runSteps (settings : Settings) : Nat → Session → World → Host → Ended
  | 0, _, w, h => ⟨.failed (.terminal .inputEnded), h, w⟩
  | fuel + 1, s, w, h =>
    let d := s.dispatch terminal w h
    match d.outcome with
    | .error e => ⟨.failed e, d.terminal, d.world⟩
    | .ok request =>
      let (pending, latch) := (d.terminal.latch.note request).take
      let h := { d.terminal with latch := latch }
      match nextOf pending with
      | .finish ending => ⟨ending, h, d.world⟩
      | .restart => runSteps settings fuel (Session.start settings h.now) (h.found d.world) h
      | .proceed => runSteps settings fuel d.session d.world h

/-- Runs sessions until one of them is shut down or the events end. -/
def runSessions (settings : Settings) (w : World) (h : Host) : Ended :=
  runSteps settings (h.events.length + 1) (Session.start settings h.now) (h.found w) h

end Host

end ModalConsole
