import ModalConsole.Session.Handlers.Boot
import ModalConsole.Session.Handlers.Game
import ModalConsole.Session.Handlers.Shell
import ModalConsole.Session.Step

/-!
# Dispatching a step

Model of `dispatch_one_step`, and of `step` of the desktop and of the manual. The handler of the
mode is carried out on the terminal; if it ends without a failure, the mode changes as it has
decided.
-/

namespace ModalConsole

namespace Handler

open Program

/-- The manual. A notice is shown only once. -/
def manual : Program Transition := do
  clear
  let s ← session
  writeLines s.pager.render
  update ({ · with notice := none })
  writeLines s.notice.toList
  let .key key ← ask .key | return .stay
  let (pager, event) := (← session).pager.press key
  update ({ · with pager := pager })
  match event with
  | .stay => return .stay
  | .notice text =>
    update ({ · with notice := some text })
    return .stay
  | .leave =>
    clear
    return .to .shell

/-- What an action on the desktop leads to. The power supply is reached through the commands of the
shell, so that it takes root there as well. -/
def desktopAction : DesktopAction → Program Transition
  | .idle => return .stay
  | .toggled _ => return .stay
  | .leave => do
    clear
    return .to .shell
  | .activate item => do
    clear
    match (Session.itemCommand item).bind CommandLine.parse with
    | some line =>
      let _ ← runCommand line
      return .to .shell
    | none => return .to .shell

/-- The desktop. -/
def desktop : Program Transition := do
  let .pointer frame ← ask .pointer | return .stay
  let (desktop, action) := (← session).desktop.frame frame
  update ({ · with desktop := desktop })
  performAll [.present (desktop.scene frame)]
  desktopAction action

/-- The handler of a mode. -/
def ofMode : Mode → Program Transition
  | .bootMenu selected => bootMenu selected
  | .loginName target => loginName target
  | .loginPassword identity target => loginPassword identity target
  | .rescue => rescue
  | .game => game
  | .desktop => desktop
  | .manual => manual
  | .shell => shell
  | .switchPassword target => switchPassword target
  | .productKey => productKey

end Handler

/-- What one step leaves behind. -/
structure Dispatched (σ ε : Type) where
  session : Session
  world : World
  terminal : σ
  /-- What the power supply has been asked for, also by a step that fails. -/
  power : PowerLatch
  /-- The request to the power supply, or why the step failed. -/
  outcome : Except (Failure ε) (Option PowerAction)

namespace Session

/-- One step of a session on a device. -/
def dispatchOn {σ ε : Type} (d : Device σ ε) (s : Session) (w : World) (state : σ) :
    Dispatched σ ε :=
  match (Handler.ofMode s.mode).run d { session := s, world := w } state with
  | (.ok transition, v, state) =>
    ⟨transition.apply v.session, v.world, state, v.power, .ok v.power.pending⟩
  | (.error reason, v, state) => ⟨v.session, v.world, state, v.power, .error reason⟩

/-- One step of a session on a terminal. -/
def dispatch {σ ε : Type} (t : Terminal σ ε) (s : Session) (w : World) (state : σ) :
    Dispatched σ ε := s.dispatchOn t.device w state

end Session

end ModalConsole
