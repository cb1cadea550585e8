import ModalConsole.Proofs.Session.Accounts

/-!
# Who reaches the power supply

There are two ways to it, a command typed at the shell and an item of the menu of the desktop.
Both are open to root alone.

* `AsksPower`: the input takes one of the two ways.
* **`request_iff`**: a step makes a request iff root takes one of them, and then the one that
  the way leads to. `request_eq_some` reads this off the moves, `request_of_shell` and
  `request_of_desktop` run the two ways.
* **`power_takes_root`**: so a run without the password of root makes no request.
-/

namespace ModalConsole

open Text

/-- The words that ask for an action at the shell. -/
def PowerAction.names : PowerAction → List String
  | .shutdown => ["shutdown", "poweroff"]
  | .reboot => ["reboot", "restart"]

/-- The item of the menu that asks for an action. -/
def PowerAction.item : PowerAction → MenuItem
  | .shutdown => .shutdown
  | .reboot => .reboot

theorem Builtin.names_of_power {b : Builtin} {action : PowerAction} (h : b.power = some action) :
    b.names = action.names := by
  cases b with
  | shutdown | reboot =>
    obtain rfl := Option.some.inj h
    decide
  | _ => cases h

theorem Builtin.exists_power (action : PowerAction) : ∃ b : Builtin, b.power = some action := by
  cases action with
  | shutdown => exact ⟨.shutdown, rfl⟩
  | reboot => exact ⟨.reboot, rfl⟩

theorem DesktopAction.power_eq_some_iff {a : DesktopAction} {action : PowerAction} :
    a.power = some action ↔ a = .activate action.item := by
  rcases a with _ | _ | (_ | _ | _) | _ <;> cases action <;> simp [power, PowerAction.item]

namespace Session

/-- Does the input ask for an action: at the shell as the first word, in either case, of a line
that begins with no space, or on the desktop as an item of the menu? -/
def AsksPower (s : Session) (answer : Option Input) (action : PowerAction) : Prop :=
  (s.mode = .shell ∧ ∃ typed word rest, answer = some (.line typed) ∧
    typed.toList.head? ≠ some ' ' ∧ words typed.toList = word :: rest ∧
    String.ofList (lower word) ∈ action.names) ∨
  (s.mode = .desktop ∧ ∃ frame, answer = some (.pointer frame) ∧
    (s.desktop.frame frame).2 = .activate action.item)

variable {s s' : Session} {w w' : World} {answer : Option Input} {action : PowerAction}

/-! ## Every request is asked for by root -/

theorem Move.request_eq_some (h : Move s w answer s' w' (some action)) :
    s.accounts.current = .root ∧ s.AsksPower answer action := by
  generalize hrequest : some action = request at h
  cases h with
  | leaveDesktop hmode frame =>
    split_ifs at hrequest with hroot
    exact ⟨hroot, Or.inr ⟨hmode, frame, rfl, DesktopAction.power_eq_some_iff.mp hrequest.symm⟩⟩
  | @power typed line b _ hmode hline hruns hpower =>
    obtain rfl := Option.some.inj hrequest
    have hparse := (commandOf_eq_some_iff.mp hline).2
    obtain ⟨hhead, hroot⟩ := (CommandLine.runs_power_iff hparse hpower).mp hruns
    obtain ⟨hspace, word, rest, hwords, hword⟩ := commandOf_head_iff.mp ⟨line, hline, rfl⟩
    rw [Builtin.names_of_power hpower, ← hword] at hhead
    exact ⟨hroot, Or.inl ⟨hmode, typed, word, rest, rfl, hspace, hwords, hhead⟩⟩
  | _ => cases hrequest

/-! ## What root asks for is requested -/

theorem request_of_shell {typed : String} {line : CommandLine} (hmode : s.mode = .shell)
    (hroot : s.accounts.current = .root) (hline : commandOf typed = some line)
    (hhead : line.head ∈ action.names) :
    (s.step w (some (.line typed))).request = some action := by
  obtain ⟨b, hpower⟩ := Builtin.exists_power action
  rw [← Builtin.names_of_power hpower] at hhead
  obtain ⟨effects, hturn⟩ :=
    runCommand_of_power (s := s) (w := w) (commandOf_eq_some_iff.mp hline).2 hhead hpower
  rw [step_shell hmode, shellLine, hline]
  simp only [hturn, if_pos hroot]

theorem request_of_desktop {frame : PointerFrame} (hmode : s.mode = .desktop)
    (hroot : s.accounts.current = .root)
    (hframe : (s.desktop.frame frame).2 = .activate action.item) :
    (s.step w (some (.pointer frame))).request = some action := by
  rcases hdesktop : s.desktop.frame frame with ⟨desktop, desktopAction⟩
  rw [hdesktop] at hframe
  obtain rfl : desktopAction = .activate action.item := hframe
  obtain ⟨effects, hturn⟩ :=
    leaveDesktop_itemCommand (s := { s with desktop := desktop }) (w := w) action.item
  rw [step_desktop hmode, desktopFrame, hdesktop]
  simp only [Session.desktopAction, hturn, if_pos hroot]
  exact DesktopAction.power_eq_some_iff.mpr rfl

/-- **A step makes a request iff root asks for it.** -/
theorem request_iff (s : Session) (w : World) (answer : Option Input) (action : PowerAction) :
    (s.step w answer).request = some action ↔
      s.accounts.current = .root ∧ s.AsksPower answer action := by
  constructor
  · intro h
    have hmove := step_moves s w answer
    rw [Turn.IsMove, h] at hmove
    exact hmove.request_eq_some
  · rintro ⟨hroot, ⟨hmode, typed, word, rest, rfl, hspace, hwords, hword⟩ |
      ⟨hmode, frame, rfl, hframe⟩⟩
    · obtain ⟨line, hline, hhead⟩ := commandOf_head_iff.mpr ⟨hspace, word, rest, hwords, rfl⟩
      exact request_of_shell hmode hroot hline (hhead ▸ hword)
    · exact request_of_desktop hmode hroot hframe

/-! ## Runs -/

/-- **Only root reaches the power supply.** A step makes a request iff the current identity is
root and the input asks for it, and a run that never reads the password of root at a question for
a password makes no request. -/
theorem power_takes_root :
    (∀ (s : Session) (x : Encounter) (action : PowerAction), (s.meet x).request = some action ↔
      s.accounts.current = .root ∧ s.AsksPower x.answer action) ∧
    ∀ (settings : Settings) (now : Timestamp) (xs : List Encounter),
      ¬ Met (fun s x => s.ReadsPassword settings.rootPassword x.answer) (start settings now) xs →
        requests (start settings now) xs = [] := by
  refine ⟨fun s x action => request_iff s x.world x.answer action, fun settings now xs hread => ?_⟩
  rw [List.eq_nil_iff_forall_not_mem]
  intro action haction
  obtain ⟨before, x, rest, rfl, hx⟩ := met_of_mem_requests haction
  have hroot := ((request_iff _ _ _ _).mp hx).1
  rcases rootless_or_read settings now before with hmet | ⟨hcurrent, -⟩
  · exact hread (met_append hmet _)
  · exact hcurrent hroot

end Session

end ModalConsole
