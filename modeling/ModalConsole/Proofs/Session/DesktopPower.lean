import ModalConsole.Proofs.Desktop.Presses
import ModalConsole.Proofs.Session.Power
import ModalConsole.Proofs.Session.Stage

/-!
# The power items of the desktop

An item of the menu that asks for power is a shortcut: it does what leaving the desktop and typing
a command would do, down to the refusal of whoever is not root.

* `Desktop.frame_of_activate`: an item takes an open menu and a new click, and every item leaves
  the same desktop behind.
* `runCommand_power`: a command for the power supply is granted to root and refused to others.
* `step_powerLine`, `step_terminalItem`, `step_powerItem`: the three steps in question.
* `Stage.Shortcut`: one step does what two others do, on the stage and on the terminal.
* **`item_is_command`**: the item is such a shortcut for the terminal and the typed command.
-/

namespace ModalConsole

namespace PowerAction

/-- The word that asks for an action. -/
def command : PowerAction → String
  | .shutdown => "shutdown"
  | .reboot => "reboot"

/-- The command line that is that word. -/
def commandLine (action : PowerAction) : CommandLine := ⟨action.command, [], [], ""⟩

/-- What root is told. -/
def notice : PowerAction → String
  | .shutdown => "Shutting down..."
  | .reboot => "Rebooting..."

theorem commandOf_command (action : PowerAction) :
    Session.commandOf action.command = some action.commandLine := by
  cases action <;> decide

/-- What asking for an action writes. -/
def effects (action : PowerAction) (current : Identity) : List Effect :=
  if current = .root then Effect.line action.notice
  else Effect.coloredLine .red (CommandError.permissionDenied action.command .root).message

/-- What asking for an action requests. -/
def request (action : PowerAction) (current : Identity) : Option PowerAction :=
  if current = .root then some action else none

end PowerAction

namespace Desktop

variable {d : Desktop} {p : PointerFrame} {item : MenuItem}

/-- The desktop after an item of the menu: the menu is closed and the button is down. -/
def activated : Desktop := ⟨false, true⟩

/-- An item takes an open menu and a new click, and leaves the same desktop whatever it is. -/
theorem frame_of_activate (h : (d.frame p).2 = .activate item) :
    d = ⟨true, false⟩ ∧ d.frame p = (activated, .activate item) := by
  have hturn := d.frame_turns p
  generalize d.frame p = result at hturn h ⊢
  cases hturn with
  | activate hpress _ hopen _ =>
    obtain rfl := DesktopAction.activate.inj h
    obtain ⟨menuOpen, buttonDown⟩ := d
    obtain rfl : menuOpen = true := hopen
    obtain rfl : buttonDown = false := hpress.up
    rw [hpress.pressed]
    exact ⟨rfl, rfl⟩
  | leave | idle | toggle => cases h

/-- Every item of an open menu can be clicked. -/
theorem exists_activate (item : MenuItem) :
    ∃ p, ((⟨true, false⟩ : Desktop).frame p).2 = .activate item :=
  ⟨⟨item.region.x, item.region.y, true, none⟩, by cases item <;> decide⟩

end Desktop

namespace Session

variable {s : Session} {w : World}

/-! ## The three steps -/

/-- A command for the power supply is granted to root and refused to everybody else. -/
theorem runCommand_power (s : Session) (w : World) (action : PowerAction) :
    s.runCommand w action.commandLine =
      ⟨s, w, action.effects s.accounts.current, action.request s.accounts.current⟩ := by
  unfold runCommand
  cases s.accounts.current <;> cases action <;> rfl

theorem step_powerLine (hmode : s.mode = .shell) (action : PowerAction) :
    s.step w (some (.line action.command)) =
      ⟨s, w, action.effects s.accounts.current, action.request s.accounts.current⟩ := by
  rw [step_shell hmode, shellLine, action.commandOf_command]
  exact runCommand_power s w action

/-- Activating an item leaves the desktop and runs the command of the item. -/
theorem step_item {frame : PointerFrame} {item : MenuItem} (hmode : s.mode = .desktop)
    (hframe : (s.desktop.frame frame).2 = .activate item) :
    s.step w (some (.pointer frame)) =
      let turn := { s with desktop := .activated }.leaveDesktop w (itemCommand item)
      { turn with effects := .present (Desktop.activated.scene frame) :: turn.effects } := by
  rw [step_desktop hmode, desktopFrame, (Desktop.frame_of_activate hframe).2]
  rfl

/-- The session that every item of the menu leaves. -/
def leftDesktop (s : Session) : Session := { s with desktop := .activated, mode := .shell }

theorem step_terminalItem {frame : PointerFrame} (hmode : s.mode = .desktop)
    (hframe : (s.desktop.frame frame).2 = .activate .terminal) :
    s.step w (some (.pointer frame)) =
      ⟨s.leftDesktop, w, [.present (Desktop.activated.scene frame), .clear], none⟩ :=
  step_item hmode hframe

theorem step_powerItem {frame : PointerFrame} {action : PowerAction} (hmode : s.mode = .desktop)
    (hframe : (s.desktop.frame frame).2 = .activate action.item) :
    s.step w (some (.pointer frame)) =
      ⟨s.leftDesktop, w, .present (Desktop.activated.scene frame) :: .clear ::
        action.effects s.accounts.current, action.request s.accounts.current⟩ := by
  have hcommand : (itemCommand action.item).bind CommandLine.parse = some action.commandLine := by
    cases action <;> decide
  rw [step_item hmode hframe, leaveDesktop, hcommand]
  simp only [runCommand_power]
  rfl

end Session

namespace Stage

/-- The step `item` does what the steps `away` and `typed` do one after the other: first the shell
is entered, then a line is typed at its prompt. -/
structure Shortcut (r : Stage) (item away typed : Cue) : Prop where
  shell : (r.next away).session.mode = .shell
  /-- The stage that is left is the same, but for the time. -/
  stage : (r.next away).next typed =
    { r.next item with world := { (r.next item).world with now := typed.now } }
  quiet : (r.turn away).request = none
  request : ((r.next away).turn typed).request = (r.turn item).request
  /-- After the screen is cleared, the calls are the same but for the prompt and its read. -/
  calls : ∃ scene scene' effects,
    r.calls item = .read .pointer :: .effect (.present scene) :: .effect .clear :: effects ∧
    r.calls away = [.read .pointer, .effect (.present scene'), .effect .clear] ∧
    (r.next away).calls typed =
      (r.next away).session.prompt.map .effect ++ .read .line :: effects

/-- **An item of the menu that asks for power is a command of the shell.** Where a frame activates
the item, another one activates the terminal; and any that does, with the command typed at the
prompt after it, does what the item does, whoever is logged in: root gets what is asked for, and
everybody else is refused. -/
theorem item_is_command {r : Stage} {frame : PointerFrame} {action : PowerAction}
    (hmode : r.session.mode = .desktop)
    (hframe : (r.session.desktop.frame frame).2 = .activate action.item) :
    (∃ frame', (r.session.desktop.frame frame').2 = .activate .terminal) ∧
    (∀ now, (r.turn ⟨now, some (.pointer frame)⟩).request =
      action.request r.session.accounts.current) ∧
    ∀ frame', (r.session.desktop.frame frame').2 = .activate .terminal → ∀ now now₁ now₂,
      r.Shortcut ⟨now, some (.pointer frame)⟩ ⟨now₁, some (.pointer frame')⟩
        ⟨now₂, some (.line action.command)⟩ := by
  obtain ⟨hdesktop, -⟩ := Desktop.frame_of_activate hframe
  have hitem (now) : r.turn ⟨now, some (.pointer frame)⟩ = _ :=
    Session.step_powerItem hmode hframe
  refine ⟨by rw [hdesktop]; exact Desktop.exists_activate _, fun now => by rw [hitem], ?_⟩
  intro frame' hframe' now now₁ now₂
  have hprompt : r.session.prompt = [] := by rw [Session.prompt, hmode]
  have haway : r.turn ⟨now₁, some (.pointer frame')⟩ = _ :=
    Session.step_terminalItem hmode hframe'
  have hshell : r.next ⟨now₁, some (.pointer frame')⟩ =
      ⟨r.session.leftDesktop, { r.world with now := now₁ }⟩ := by rw [next, haway]
  have htyped : (⟨r.session.leftDesktop, { r.world with now := now₁ }⟩ : Stage).turn
      ⟨now₂, some (.line action.command)⟩ = _ := Session.step_powerLine rfl action
  constructor
  case shell =>
    rw [hshell]
    rfl
  case stage => rw [hshell, next, htyped, next, hitem]
  case quiet => rw [haway]
  case request =>
    rw [hshell, htyped, hitem]
    rfl
  case calls =>
    refine ⟨Desktop.activated.scene frame, Desktop.activated.scene frame',
      (action.effects r.session.accounts.current).map .effect, ?_, ?_, ?_⟩
    · rw [calls, hprompt, hmode, hitem]
      rfl
    · rw [calls, hprompt, hmode, haway]
      rfl
    · rw [hshell, calls, htyped]
      rfl

/-- Root boots into the desktop, opens the menu and reboots. -/
theorem reboot_from_menu :
    let r := (start {} (.memory []) ⟨[], 0⟩ ⟨0, 0⟩).after <|
      [.key (.char '2'), .line "root", .line defaultRootPassword, .pointer ⟨20, 460, true, none⟩,
        .pointer .resting].map fun input => ⟨⟨0, 0⟩, some input⟩
    let item : Cue := ⟨⟨0, 0⟩, some (.pointer ⟨20, 340, true, none⟩)⟩
    (r.turn item).request = some .reboot ∧
    ∃ away, r.Shortcut item away ⟨⟨0, 0⟩, some (.line "reboot")⟩ := by
  intro r item
  have hmode : r.session.mode = .desktop := by decide +kernel
  have hframe : (r.session.desktop.frame ⟨20, 340, true, none⟩).2 =
      .activate PowerAction.reboot.item := by decide +kernel
  have hroot : r.session.accounts.current = .root := by decide +kernel
  obtain ⟨⟨frame, hterminal⟩, hrequest, hshortcut⟩ := item_is_command hmode hframe
  exact ⟨(hrequest ⟨0, 0⟩).trans (by rw [hroot]; rfl), _,
    hshortcut frame hterminal ⟨0, 0⟩ ⟨0, 0⟩ ⟨0, 0⟩⟩

end Stage

end ModalConsole
