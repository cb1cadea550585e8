import ModalConsole.Proofs.Session.Coherent

/-!
# The graph of the modes

Which mode can follow which, and how a session gets from any of them to the prompt of the shell.

* `Mode.Leads`: the edges between two modes. `Move.leads`: a move keeps the mode or follows an
  edge. `Mode.Leads.leaves_menu`: no edge goes back to the boot menu.
* `ReachesShell`: the inputs lead to the prompt of the shell, whatever the worlds.
  `reachesShell_wayOut`: in a coherent session the inputs of `wayOut` do.
* **`mode_graph_after`**: every session that is reached follows the graph, does not come back to
  the boot menu, and is at most three inputs away from the prompt of the shell.
-/

namespace ModalConsole

/-- The edges of the graph: the modes that may follow a mode. -/
inductive Mode.Leads : Mode → Mode → Prop
  | select (selected) {n : Nat} (hn : n < BootTarget.menu.length) :
      Leads (.bootMenu selected) (.bootMenu n)
  | boot (selected target) : Leads (.bootMenu selected) (.loginName target)
  | askLogin (target) : Leads (.loginName target) (.loginPassword .root target)
  | logIn (target : BootTarget) : Leads (.loginName target) target.mode
  | logInWith (identity) (target : BootTarget) : Leads (.loginPassword identity target) target.mode
  | leaveRescue : Leads .rescue .shell
  | leaveGame : Leads .game .shell
  | leaveDesktop : Leads .desktop .shell
  | closeManual : Leads .manual .shell
  | leaveSwitch (target) : Leads (.switchPassword target) .shell
  | leaveKey : Leads .productKey .shell
  | enterRescue : Leads .shell .rescue
  | enterGame : Leads .shell .game
  | enterDesktop : Leads .shell .desktop
  | openManual : Leads .shell .manual
  | askSwitch : Leads .shell (.switchPassword .root)
  | askKey : Leads .shell .productKey
  | logOut : Leads .shell (.loginName .shell)

/-- Only the boot menu leads to the boot menu. -/
theorem Mode.Leads.leaves_menu {m m' : Mode} (h : m.Leads m') (hm : ∀ n, m ≠ .bootMenu n)
    (n : Nat) : m' ≠ .bootMenu n := by
  cases h with
  | select selected => exact absurd rfl (hm selected)
  | logIn target | logInWith identity target => cases target <;> exact nofun
  | _ => exact nofun

/-- A frame in which the escape key is pressed. -/
def PointerFrame.escaping : PointerFrame := { resting with key := some .escape }

/-- The keys that close the manual. -/
def PagerMode.wayOut : PagerMode → List Key
  | .viewing => [.char 'q', .char 'y']
  | .typing _ => [.escape, .char 'q', .char 'y']
  | .locked => [.char 'v', .char 'q', .char 'y']
  | .leaving => [.char 'y']

theorem PagerMode.wayOut_length (mode : PagerMode) : mode.wayOut.length ≤ 3 := by
  cases mode <;> simp [wayOut]

/-- What is left to do after a login. -/
def BootTarget.wayOut : BootTarget → List Input
  | .shell => []
  | .desktop => [.pointer .escaping]

theorem BootTarget.wayOut_length (target : BootTarget) : target.wayOut.length ≤ 1 := by
  cases target <;> simp [wayOut]

namespace Session

variable {s s' : Session} {w w' : World} {answer : Option Input} {request : Option PowerAction}

/-! ## The edges -/

/-- **A move keeps the mode or follows an edge.** -/
theorem Move.leads (h : Move s w answer s' w' request) :
    s'.mode = s.mode ∨ s.mode.Leads s'.mode := by
  cases h with
  -- the moves that stay in their mode
  | stay | earn | useModMenu | save | load | buy | buyKey | point | turnPages | note | blank
  | switchBack | switchUser | deactivate | unlock | power => exact Or.inl rfl
  | select hmode hn => exact Or.inr (hmode ▸ .select _ hn)
  | boot hmode target => exact Or.inr (hmode ▸ .boot _ target)
  | askLogin hmode => exact Or.inr (hmode ▸ .askLogin _)
  | logIn hmode => exact Or.inr (hmode ▸ .logIn _)
  | logInWith hmode => exact Or.inr (hmode ▸ .logInWith _ _)
  | leaveRescue hmode => exact Or.inr (hmode ▸ .leaveRescue)
  | leaveGame hmode => exact Or.inr (hmode ▸ .leaveGame)
  | leaveDesktop hmode => exact Or.inr (hmode ▸ .leaveDesktop)
  | closeManual hmode => exact Or.inr (hmode ▸ .closeManual)
  | switchWith hmode | cancelSwitch hmode => exact Or.inr (hmode ▸ .leaveSwitch _)
  | redeem hmode | cancelKey hmode => exact Or.inr (hmode ▸ .leaveKey)
  | visit hmode hline hvisit =>
    rcases hvisit with rfl | rfl | rfl
    · exact Or.inr (hmode ▸ .enterRescue)
    · exact Or.inr (hmode ▸ .enterGame)
    · exact Or.inr (hmode ▸ .enterDesktop)
  | logOut hmode => exact Or.inr (hmode ▸ .logOut)
  | askSwitch hmode => exact Or.inr (hmode ▸ .askSwitch)
  | askKey hmode => exact Or.inr (hmode ▸ .askKey)
  | openManual hmode => exact Or.inr (hmode ▸ .openManual)

theorem meet_leads (s : Session) (x : Encounter) :
    (s.meet x).session.mode = s.mode ∨ s.mode.Leads (s.meet x).session.mode :=
  (step_moves s x.world x.answer).leads

/-- A session that is past the boot menu does not come back to it. -/
theorem leaves_menu_after (hs : ∀ n, s.mode ≠ .bootMenu n) (xs : List Encounter) (n : Nat) :
    (s.after xs).mode ≠ .bootMenu n := by
  refine after_induction (I := fun s => ∀ n, s.mode ≠ .bootMenu n) (fun s x h => ?_) hs xs n
  rcases meet_leads s x with hsame | hleads
  · rwa [hsame]
  · exact hleads.leaves_menu h

/-! ## The way to the shell -/

/-- The inputs lead to the prompt of the shell, whatever the worlds, and each is of the kind that
is asked for. -/
def ReachesShell : Session → List Input → Prop
  | s, [] => s.mode = .shell
  | s, input :: inputs =>
    input.kind = s.mode.asks ∧ ∀ w, ReachesShell (s.step w (some input)).session inputs

/-- Inputs that lead to the prompt of the shell. -/
def wayOut (s : Session) : List Input :=
  match s.mode with
  | .bootMenu _ => .key (.char '1') :: .line "user" :: BootTarget.shell.wayOut
  | .loginName target => .line "user" :: target.wayOut
  | .loginPassword _ target => .line s.settings.rootPassword :: target.wayOut
  | .rescue => [.line "exit"]
  | .game => [.line "exit"]
  | .desktop => BootTarget.desktop.wayOut
  | .manual => s.pager.mode.wayOut.map .key
  | .shell => []
  | .switchPassword _ => [.line "n"]
  | .productKey => [.line cancelWord]

/-! ### From the boot menu and the login -/

theorem reachesShell_desktop (hmode : s.mode = .desktop) :
    s.ReachesShell BootTarget.desktop.wayOut := by
  refine ⟨by rw [hmode]; rfl, fun w => ?_⟩
  rw [step_desktop hmode]
  rfl

theorem reachesShell_target {target : BootTarget} (hmode : s.mode = target.mode) :
    s.ReachesShell target.wayOut := by
  cases target with
  | shell => exact hmode
  | desktop => exact reachesShell_desktop hmode

theorem reachesShell_loginName {target : BootTarget} (hmode : s.mode = .loginName target) :
    s.ReachesShell (.line "user" :: target.wayOut) := by
  refine ⟨by rw [hmode]; rfl, fun w => reachesShell_target ?_⟩
  have hname : Identity.ofName "user" = .ok .user := by decide
  rw [step_eq_respond hmode nofun, respond, respondLine, hmode]
  simp only [nameLine, hname]
  rfl

/-- The password of root counts as a line that can be typed. -/
theorem reachesShell_loginPassword {target : BootTarget}
    (hmode : s.mode = .loginPassword .root target) :
    s.ReachesShell (.line s.settings.rootPassword :: target.wayOut) := by
  refine ⟨by rw [hmode]; rfl, fun w => reachesShell_target ?_⟩
  rw [step_eq_respond hmode nofun, respond, respondLine, hmode]
  simp only [logIn, Accounts.login, Accounts.verify, if_true]
  rfl

theorem reachesShell_bootMenu {selected : Nat} (hmode : s.mode = .bootMenu selected) :
    s.ReachesShell (.key (.char '1') :: .line "user" :: BootTarget.shell.wayOut) := by
  refine ⟨by rw [hmode]; rfl, fun w => reachesShell_loginName ?_⟩
  rw [step_eq_respond hmode nofun, respond, respondKey, hmode]
  rfl

/-! ### From a prompt -/

/-- One line is enough where it leads to the shell. -/
theorem reachesShell_line {mode : Mode} {typed : String} (hmode : s.mode = mode)
    (hasks : mode.asks = .line) (hshell : ∀ w, (s.respondLine w typed).session.mode = .shell) :
    s.ReachesShell [.line typed] := by
  refine ⟨by rw [hmode, hasks]; rfl, fun w => ?_⟩
  have hne : mode ≠ .manual := fun h => by rw [h] at hasks; cases hasks
  rw [step_eq_respond hmode hne]
  exact hshell w

theorem reachesShell_rescue (hmode : s.mode = .rescue) : s.ReachesShell [.line "exit"] := by
  refine reachesShell_line hmode rfl fun w => ?_
  have hexit : Text.trimmed "exit" = "exit" := by decide
  rw [respondLine, hmode]
  simp only [rescueLine, hexit]
  rfl

theorem reachesShell_game (hmode : s.mode = .game) : s.ReachesShell [.line "exit"] := by
  refine reachesShell_line hmode rfl fun w => ?_
  have hexit : commandOf "exit" = some ⟨"exit", [], [], ""⟩ := by decide
  rw [respondLine, hmode]
  simp only [gameLine, hexit]
  rfl

/-- If the line happens to be the password, the switch is made and leads to the shell too. -/
theorem reachesShell_switchPassword {target : Identity} (hmode : s.mode = .switchPassword target) :
    s.ReachesShell [.line "n"] := by
  refine reachesShell_line hmode rfl fun w => ?_
  have hcancel : Text.trimmed "n" = "n" := by decide
  rw [respondLine, hmode]
  simp only [switchPasswordLine, hcancel, if_true]
  split <;> rfl

theorem reachesShell_productKey (hmode : s.mode = .productKey) :
    s.ReachesShell [.line cancelWord] := by
  refine reachesShell_line hmode rfl fun w => ?_
  have hcancel : Text.trimmed cancelWord = cancelWord := by decide
  rw [respondLine, hmode]
  simp only [productKeyLine, Activation.redeem, hcancel, if_true]
  rfl

/-! ### From the manual -/

/-- A key that does not close the manual. -/
theorem reachesShell_press {key : Key} {pager : Pager} {inputs : List Input}
    (hmode : s.mode = .manual) (hpress : s.pager.press key = (pager, .stay))
    (hrest : ReachesShell { s with pager := pager, notice := none } inputs) :
    s.ReachesShell (.key key :: inputs) := by
  refine ⟨by rw [hmode]; rfl, fun w => ?_⟩
  rw [step_manual hmode, manualKey]
  simp only [hpress]
  exact hrest

theorem reachesShell_leaving (hmode : s.mode = .manual) (hpager : s.pager.mode = .leaving) :
    s.ReachesShell [.key (.char 'y')] := by
  refine ⟨by rw [hmode]; rfl, fun w => ?_⟩
  have hpress : s.pager.press (.char 'y') = ({ s.pager with mode := .viewing }, .leave) := by
    rw [Pager.press, hpager]
    rfl
  rw [step_manual hmode, manualKey]
  simp only [hpress]
  rfl

theorem reachesShell_viewing (hmode : s.mode = .manual) (hpager : s.pager.mode = .viewing) :
    s.ReachesShell [.key (.char 'q'), .key (.char 'y')] := by
  have hpress : s.pager.press (.char 'q') = ({ s.pager with mode := .leaving }, .stay) := by
    rw [Pager.press, hpager]
    rfl
  exact reachesShell_press hmode hpress (reachesShell_leaving hmode rfl)

theorem reachesShell_manual (hmode : s.mode = .manual) :
    s.ReachesShell (s.pager.mode.wayOut.map .key) := by
  cases hpager : s.pager.mode with
  | viewing => exact reachesShell_viewing hmode hpager
  | leaving => exact reachesShell_leaving hmode hpager
  | typing buffer =>
    have hpress : s.pager.press .escape = ({ s.pager with mode := .viewing }, .stay) := by
      rw [Pager.press, hpager]
      rfl
    exact reachesShell_press hmode hpress (reachesShell_viewing hmode rfl)
  | locked =>
    have hpress : s.pager.press (.char 'v') = ({ s.pager with mode := .viewing }, .stay) := by
      rw [Pager.press, hpager]
      rfl
    exact reachesShell_press hmode hpress (reachesShell_viewing hmode rfl)

/-! ### From everywhere -/

/-- **The way out of a coherent session leads to the shell.** -/
theorem reachesShell_wayOut (hs : s.Coherent) : s.ReachesShell s.wayOut := by
  have hfits := hs.fits
  unfold wayOut
  cases hmode : s.mode with
  | bootMenu selected => exact reachesShell_bootMenu hmode
  | loginName target => exact reachesShell_loginName hmode
  | loginPassword identity target =>
    -- only root is asked for a password
    rw [hmode] at hfits
    obtain rfl : identity = .root := hfits
    exact reachesShell_loginPassword hmode
  | rescue => exact reachesShell_rescue hmode
  | game => exact reachesShell_game hmode
  | desktop => exact reachesShell_desktop hmode
  | manual => exact reachesShell_manual hmode
  | shell => exact hmode
  | switchPassword target => exact reachesShell_switchPassword hmode
  | productKey => exact reachesShell_productKey hmode

theorem wayOut_length (s : Session) : s.wayOut.length ≤ 3 := by
  unfold wayOut
  cases s.mode with
  | loginName target | loginPassword identity target =>
    have htarget := target.wayOut_length
    rw [List.length_cons]
    omega
  | manual =>
    rw [List.length_map]
    exact s.pager.mode.wayOut_length
  | _ => simp [BootTarget.wayOut]

/-- **Every session follows the graph of the modes, and there is no dead end.** In a session that
is reached, whatever comes next: the mode stays or follows an edge; past the boot menu, it is not
seen again; and at most three inputs of the right kinds, whatever the worlds, lead to the prompt of
the shell. -/
theorem mode_graph_after (settings : Settings) (now : Timestamp) (xs : List Encounter) :
    let s := (start settings now).after xs
    (∀ x, (s.meet x).session.mode = s.mode ∨ s.mode.Leads (s.meet x).session.mode) ∧
    ((∀ n, s.mode ≠ .bootMenu n) → ∀ ys n, (s.after ys).mode ≠ .bootMenu n) ∧
    ∃ inputs, inputs.length ≤ 3 ∧ s.ReachesShell inputs := by
  intro s
  have hs : s.Coherent := (coherent_after settings now xs).1
  exact ⟨meet_leads s, leaves_menu_after, s.wayOut, wayOut_length s, reachesShell_wayOut hs⟩

end Session

end ModalConsole
