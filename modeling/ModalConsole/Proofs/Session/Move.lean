import ModalConsole.Proofs.Session.Builtin
import ModalConsole.Proofs.Session.Run

/-!
# The moves of a session

Everything that a step can make of a session, of its world and of the power supply, apart from
what it writes. A move says in which mode it is made, what has been read, and what else has to
hold; the results about steps are case analyses over the moves and do not look at the commands
again.

* `Move s w answer s' w' request`: the session `s` in the world `w` can answer `answer` by
  becoming `s'`, leaving the world as `w'` and making the request.
* One lemma for each part of a session (`menuKey_moves`, …, `desktopFrame_moves`).
* **`step_moves`**: every step is a move.
-/

namespace ModalConsole

/-- What an action on the desktop asks the power supply for, if root asks. -/
def DesktopAction.power : DesktopAction → Option PowerAction
  | .activate .reboot => some .reboot
  | .activate .shutdown => some .shutdown
  | _ => none

namespace Session

/-- The moves of a session. -/
inductive Move (s : Session) (w : World) :
    Option Input → Session → World → Option PowerAction → Prop
  /-- Only the notice of the manual is used up. -/
  | stay (answer) : Move s w answer s.prompted w none
  /-- Another entry of the boot menu is selected. -/
  | select {selected n} (hmode : s.mode = .bootMenu selected) (hn : n < BootTarget.menu.length)
      (key) : Move s w (some (.key key)) (s.enter (.bootMenu n)) w none
  /-- A boot leads to the login and uses up random words. -/
  | boot {selected} (hmode : s.mode = .bootMenu selected) (target words key) :
      Move s w (some (.key key)) (s.enter (.loginName target)) { w with words := words } none
  | askLogin {target typed} (hmode : s.mode = .loginName target)
      (hname : Identity.ofName typed = .ok .root) :
      Move s w (some (.line typed)) (s.enter (.loginPassword .root target)) w none
  | logIn {target typed identity accounts} (hmode : s.mode = .loginName target)
      (hname : Identity.ofName typed = .ok identity)
      (hlogin : s.accounts.login s.settings.rootPassword identity none = .ok accounts) :
      Move s w (some (.line typed)) { s with accounts := accounts, mode := target.mode } w none
  | logInWith {identity target typed accounts} (hmode : s.mode = .loginPassword identity target)
      (hlogin : s.accounts.login s.settings.rootPassword identity (some typed) = .ok accounts) :
      Move s w (some (.line typed)) { s with accounts := accounts, mode := target.mode } w none
  | leaveRescue (hmode : s.mode = .rescue) (typed) :
      Move s w (some (.line typed)) (s.enter .shell) w none
  | earn (hmode : s.mode = .game) (typed) :
      Move s w (some (.line typed)) { s with economy := s.economy.earn } w none
  | useModMenu (hmode : s.mode = .game) (typed) :
      Move s w (some (.line typed)) { s with economy := s.economy.useModMenu } w none
  | save {typed line} (hmode : s.mode = .game) (hline : commandOf typed = some line)
      (hhead : line.head = "data") (harg : line.arg? 0 = some "save") :
      Move s w (some (.line typed)) s
        { w with store := (s.economy.save w.store s.settings.gameFile).1 } none
  | load {typed line} (hmode : s.mode = .game) (hline : commandOf typed = some line)
      (hhead : line.head = "data") (harg : line.arg? 0 = some "load") :
      Move s w (some (.line typed))
        { s with economy := Economy.load w.store s.settings.gameFile } w none
  | buy {typed line id u economy} (hmode : s.mode = .game) (hline : commandOf typed = some line)
      (hhead : line.head = "buy") (harg : line.arg? 0 = some id)
      (hbuy : s.economy.buy id = .ok (u, economy)) (hu : u.effect ≠ .productKey) :
      Move s w (some (.line typed)) { s with economy := economy } w none
  /-- The product key of the shop is bought and generated. -/
  | buyKey {typed line id u economy key activation words} (hmode : s.mode = .game)
      (hline : commandOf typed = some line) (hhead : line.head = "buy")
      (harg : line.arg? 0 = some id) (hbuy : s.economy.buy id = .ok (u, economy))
      (hu : u.effect = .productKey) (hkey : s.activation.isActive = false)
      (hunlock : Activation.unlock w.words = (key, activation, words)) :
      Move s w (some (.line typed)) { s with economy := economy, activation := activation }
        { w with words := words } none
  | leaveGame (hmode : s.mode = .game) (typed) :
      Move s w (some (.line typed)) (s.enter .shell) w none
  /-- A frame that stays on the desktop. -/
  | point (hmode : s.mode = .desktop) (frame) :
      Move s w (some (.pointer frame)) { s with desktop := (s.desktop.frame frame).1 } w none
  | leaveDesktop (hmode : s.mode = .desktop) (frame) :
      Move s w (some (.pointer frame))
        { s with desktop := (s.desktop.frame frame).1, mode := .shell } w
        (if s.accounts.current = .root then (s.desktop.frame frame).2.power else none)
  | turnPages {key pager} (hmode : s.mode = .manual)
      (hpress : s.pager.press key = (pager, .stay)) :
      Move s w (some (.key key)) { s with pager := pager, notice := none } w none
  | note {key pager text} (hmode : s.mode = .manual)
      (hpress : s.pager.press key = (pager, .notice text)) :
      Move s w (some (.key key)) { s with pager := pager, notice := some text } w none
  | closeManual {key pager} (hmode : s.mode = .manual)
      (hpress : s.pager.press key = (pager, .leave)) :
      Move s w (some (.key key)) { s with pager := pager, notice := none, mode := .shell } w none
  | blank {typed} (hmode : s.mode = .shell) (hblank : commandOf typed = none) :
      Move s w (some (.line typed)) { s with blankLines := s.blankLines + 1 } w none
  /-- A command leads to the rescue console, the game or the desktop. -/
  | visit {typed line mode} (hmode : s.mode = .shell) (hline : commandOf typed = some line)
      (hvisit : mode = .rescue ∨ mode = .game ∨ mode = .desktop) :
      Move s w (some (.line typed)) (s.enter mode) w none
  | logOut {typed line} (hmode : s.mode = .shell) (hline : commandOf typed = some line) :
      Move s w (some (.line typed)) (s.enter (.loginName .shell)) w none
  | switchBack {typed line} (hmode : s.mode = .shell) (hline : commandOf typed = some line)
      (hruns : line.Runs s.accounts.current .su) (harg : line.arg? 0 = some "prv") :
      Move s w (some (.line typed)) { s with accounts := s.accounts.revert.2 } w none
  /-- A switch to a user that takes no password. -/
  | switchUser {typed line name target switch accounts} (hmode : s.mode = .shell)
      (hline : commandOf typed = some line) (hruns : line.Runs s.accounts.current .su)
      (harg : line.arg? 0 = some name) (hname : Identity.ofName name = .ok target)
      (hswitch : s.accounts.switchTo s.settings.rootPassword target none =
        .ok (switch, accounts)) :
      Move s w (some (.line typed)) { s with accounts := accounts } w none
  | askSwitch {typed line} (hmode : s.mode = .shell) (hline : commandOf typed = some line)
      (hruns : line.Runs s.accounts.current .su) (hcurrent : s.accounts.current ≠ .root) :
      Move s w (some (.line typed)) (s.enter (.switchPassword .root)) w none
  | deactivate {typed line activation} (hmode : s.mode = .shell)
      (hline : commandOf typed = some line) (hruns : line.Runs s.accounts.current .productman)
      (hkey : s.activation.deactivate = .ok activation) :
      Move s w (some (.line typed)) { s with activation := activation } w none
  /-- The secret flag generates a key. -/
  | unlock {typed line key activation words} (hmode : s.mode = .shell)
      (hline : commandOf typed = some line) (hruns : line.Runs s.accounts.current .productman)
      (hkey : s.activation.isActive = false)
      (hunlock : Activation.unlock w.words = (key, activation, words)) :
      Move s w (some (.line typed)) { s with activation := activation } { w with words := words }
        none
  | askKey {typed line} (hmode : s.mode = .shell) (hline : commandOf typed = some line)
      (hruns : line.Runs s.accounts.current .productman) (hkey : s.activation.isActive = false) :
      Move s w (some (.line typed)) (s.enter .productKey) w none
  | openManual {typed line} (hmode : s.mode = .shell) (hline : commandOf typed = some line)
      (hruns : line.Runs s.accounts.current .knowledge) (topic) :
      Move s w (some (.line typed))
        { s with pager := s.pager.openAt topic, notice := none, mode := .manual } w none
  | power {typed line b action} (hmode : s.mode = .shell) (hline : commandOf typed = some line)
      (hruns : line.Runs s.accounts.current b) (hpower : b.power = some action) :
      Move s w (some (.line typed)) s w (some action)
  | switchWith {target typed switch accounts} (hmode : s.mode = .switchPassword target)
      (hswitch : s.accounts.switchTo s.settings.rootPassword target (some typed) =
        .ok (switch, accounts)) :
      Move s w (some (.line typed)) { s with accounts := accounts, mode := .shell } w none
  | cancelSwitch {target} (hmode : s.mode = .switchPassword target) (typed) :
      Move s w (some (.line typed)) (s.enter .shell) w none
  | redeem {typed key activation} (hmode : s.mode = .productKey)
      (hredeem : s.activation.redeem typed = .ok (.activated key, activation)) :
      Move s w (some (.line typed)) { s with activation := activation, mode := .shell } w none
  | cancelKey (hmode : s.mode = .productKey) (typed) :
      Move s w (some (.line typed)) (s.enter .shell) w none

end Session

/-- A turn is a move, apart from what it writes. -/
abbrev Turn.IsMove (t : Turn) (s : Session) (w : World) (answer : Option Input) : Prop :=
  Session.Move s w answer t.session t.world t.request

namespace Session

variable {s : Session} {w : World} {typed : String} {line : CommandLine}

theorem prompted_of_ne (h : s.mode ≠ .manual) : s.prompted = s := by
  unfold prompted
  rw [if_neg h]

theorem prompted_of_manual (h : s.mode = .manual) : s.prompted = { s with notice := none } := by
  unfold prompted
  rw [if_pos h]

/-- Outside of the manual, a turn that only writes is a move. -/
theorem Move.rest {mode : Mode} (hmode : s.mode = mode) (hne : mode ≠ .manual)
    (answer : Option Input) : Move s w answer s w none := by
  have hstay := Move.stay (s := s) (w := w) answer
  rwa [prompted_of_ne (hmode ▸ hne)] at hstay

/-! ## The function that answers -/

/-- Outside of the manual, a step is an answer. -/
theorem step_eq_respond {mode : Mode} (hmode : s.mode = mode) (hne : mode ≠ .manual)
    (input : Input) : s.step w (some input) = s.respond w input := by
  rw [step, prompted_of_ne (hmode ▸ hne)]

theorem step_shell (hmode : s.mode = .shell) :
    s.step w (some (.line typed)) = s.shellLine w typed := by
  rw [step_eq_respond hmode nofun, respond, respondLine]
  simp only [hmode]

theorem step_game (hmode : s.mode = .game) :
    s.step w (some (.line typed)) = s.gameLine w typed := by
  rw [step_eq_respond hmode nofun, respond, respondLine]
  simp only [hmode]

theorem step_desktop (hmode : s.mode = .desktop) (frame : PointerFrame) :
    s.step w (some (.pointer frame)) = s.desktopFrame w frame := by
  rw [step_eq_respond hmode nofun, respond, respondPointer]
  simp only [hmode]

theorem step_manual (hmode : s.mode = .manual) (key : Key) :
    s.step w (some (.key key)) = manualKey { s with notice := none } w key := by
  rw [step, prompted_of_manual hmode, respond, respondKey]
  simp only [hmode]

/-! ## Booting and logging in -/

theorem boot_moves {selected : Nat} (hmode : s.mode = .bootMenu selected) (target : BootTarget)
    (key : Key) : (s.boot w target).IsMove s w (some (.key key)) :=
  .boot hmode target _ key

theorem menuKey_moves {selected : Nat} (hmode : s.mode = .bootMenu selected) (key : Key) :
    (s.menuKey w selected key).IsMove s w (some (.key key)) := by
  have hrest := Move.rest (w := w) hmode (by simp) (some (.key key))
  have hlast : BootTarget.lastEntry < BootTarget.menu.length := by decide
  unfold menuKey
  cases key with
  | up => exact .select hmode (by omega) _
  | down => exact .select hmode (by omega) _
  | enter => exact boot_moves hmode _ _
  | char c =>
    simp only
    split
    · exact boot_moves hmode _ _
    · exact hrest
  | _ => exact hrest

theorem nameLine_moves {target : BootTarget} (hmode : s.mode = .loginName target) :
    (s.nameLine w target typed).IsMove s w (some (.line typed)) := by
  have hrest := Move.rest (w := w) hmode (by simp) (some (.line typed))
  unfold nameLine
  split
  · exact hrest
  · rename_i identity hname
    cases identity with
    | root => exact .askLogin hmode hname
    | user | nobody =>
      simp only [Identity.needsPassword, Bool.false_eq_true, if_false, logIn]
      split
      · rename_i hlogin
        exact .logIn hmode hname hlogin
      · exact hrest

theorem logIn_moves {identity : Identity} {target : BootTarget}
    (hmode : s.mode = .loginPassword identity target) :
    (s.logIn w identity (some typed) target).IsMove s w (some (.line typed)) := by
  unfold logIn
  split
  · rename_i hlogin
    exact .logInWith hmode hlogin
  · exact .rest hmode (by simp) _

/-! ## The rescue console -/

theorem rescueLine_moves (hmode : s.mode = .rescue) :
    (s.rescueLine w typed).IsMove s w (some (.line typed)) := by
  have hrest := Move.rest (w := w) hmode (by simp) (some (.line typed))
  unfold rescueLine
  simp only
  split_ifs
  · exact hrest
  · exact .leaveRescue hmode _
  · exact hrest

/-! ## The game -/

theorem handOver_moves {id : String} {u : Upgrade} {economy : Economy} (hmode : s.mode = .game)
    (hline : commandOf typed = some line) (hhead : line.head = "buy")
    (harg : line.arg? 0 = some id) (hbuy : s.economy.buy id = .ok (u, economy))
    (hkey : u.effect = .productKey → s.activation.isActive = false) :
    ({ s with economy := economy }.handOver w u).IsMove s w (some (.line typed)) := by
  unfold handOver
  split_ifs with hu
  · rcases hunlock : Activation.unlock w.words with ⟨key, activation, words⟩
    exact .buyKey hmode hline hhead harg hbuy hu (hkey hu) hunlock
  · exact .buy hmode hline hhead harg hbuy hu

/-- What is bought is the upgrade that goes by the typed id. -/
theorem findUpgrade_of_buy {e economy : Economy} {id : String} {u : Upgrade}
    (h : e.buy id = .ok (u, economy)) : findUpgrade id = some u := by
  unfold Economy.buy Economy.quote at h
  split at h
  · exact absurd h (by simp [Except.map])
  · split at h
    · simp only [Except.map, Except.ok.injEq, Prod.mk.injEq] at h
      rw [← h.1]
      assumption
    · exact absurd h (by simp [Except.map])

theorem buy_moves (hmode : s.mode = .game) (hline : commandOf typed = some line)
    (hhead : line.head = "buy") : (s.buy w (line.arg? 0)).IsMove s w (some (.line typed)) := by
  have hrest := Move.rest (w := w) hmode (by simp) (some (.line typed))
  cases harg : line.arg? 0 with
  | none => exact hrest
  | some id =>
    simp only [buy, buyUpgrade]
    split_ifs with hmod hactive
    · exact .useModMenu hmode _
    · exact hrest
    · split
      · rename_i u economy hbuy
        refine handOver_moves hmode hline hhead harg hbuy fun hu => ?_
        simpa [isKeyUpgrade, findUpgrade_of_buy hbuy, hu] using hactive
      · exact hrest

theorem gameLine_moves (hmode : s.mode = .game) :
    (s.gameLine w typed).IsMove s w (some (.line typed)) := by
  have hrest := Move.rest (w := w) hmode (by simp) (some (.line typed))
  unfold gameLine
  split
  · rename_i line hline
    unfold runGameCommand gameData teach showShop
    split_ifs with hbal hdata hsave hload hshop hpage hbuy hteach hpage hexit
    · exact hrest
    · exact .save hmode hline hdata hsave
    · exact .load hmode hline hdata hload
    · exact hrest
    · exact hrest
    · exact hrest
    · exact buy_moves hmode hline hbuy
    · exact hrest
    · exact .earn hmode _
    · exact .leaveGame hmode _
    · exact hrest
  · exact .earn hmode _

/-! ## Commands of the shell -/

section Command

variable (hmode : s.mode = .shell) (hline : commandOf typed = some line)
include hmode

theorem Move.restShell : Move s w (some (.line typed)) s w none :=
  .rest hmode (by simp) _

include hline

theorem manageKey_moves (hruns : line.Runs s.accounts.current .productman) :
    (s.manageKey w line).IsMove s w (some (.line typed)) := by
  unfold manageKey
  split_ifs with hdeactivate hactive hcrack
  · split
    · rename_i hkey
      exact .deactivate hmode hline hruns hkey
    · exact .restShell hmode
  · exact .restShell hmode
  · rcases hunlock : Activation.unlock w.words with ⟨key, activation, words⟩
    have hmove := Move.unlock hmode hline hruns (by simpa using hactive) hunlock
    simpa only [Session.unlock, hunlock] using hmove
  · exact .askKey hmode hline hruns (by simpa using hactive)

theorem switchBack_moves (hruns : line.Runs s.accounts.current .su)
    (harg : line.arg? 0 = some "prv") : (s.switchBack w).IsMove s w (some (.line typed)) := by
  have hback : Move s w (some (.line typed)) { s with accounts := s.accounts.revert.2 } w none :=
    .switchBack hmode hline hruns harg
  unfold switchBack
  rcases hrevert : s.accounts.revert with ⟨switch, accounts⟩
  cases switch with
  | alreadyActive => exact .restShell hmode
  | switched before reached =>
    rw [hrevert] at hback
    exact hback

theorem switchTo_moves {name : String} (hruns : line.Runs s.accounts.current .su)
    (harg : line.arg? 0 = some name) :
    (s.switchTo w name).IsMove s w (some (.line typed)) := by
  unfold switchTo
  split
  · exact .restShell hmode
  · rename_i target hname
    split_ifs with hcurrent hpassword
    · exact .restShell hmode
    · -- only root takes a password
      cases target with
      | root => exact .askSwitch hmode hline hruns (Ne.symm hcurrent)
      | user | nobody => cases hpassword
    · split
      · rename_i hswitch
        exact .switchUser hmode hline hruns harg hname hswitch
      · exact .restShell hmode

theorem switchUser_moves (hruns : line.Runs s.accounts.current .su) :
    (s.switchUser w (line.arg? 0)).IsMove s w (some (.line typed)) := by
  cases harg : line.arg? 0 with
  | none => exact .restShell hmode
  | some name =>
    simp only [switchUser]
    split_ifs with hprv
    · exact switchBack_moves hmode hline hruns (hprv ▸ harg)
    · exact switchTo_moves hmode hline hruns harg

theorem consultManual_moves (hruns : line.Runs s.accounts.current .knowledge)
    (topic : Option String) : (s.consultManual w topic).IsMove s w (some (.line typed)) := by
  cases topic with
  | none => exact .openManual hmode hline hruns none
  | some name =>
    simp only [consultManual]
    split_ifs
    · exact .openManual hmode hline hruns _
    · exact .restShell hmode

theorem runBuiltin_moves {b : Builtin} (hruns : line.Runs s.accounts.current b) :
    (s.runBuiltin w line b).IsMove s w (some (.line typed)) := by
  cases b with
  | grubrescue => exact .visit hmode hline (.inl rfl)
  | game => exact .visit hmode hline (.inr (.inl rfl))
  | vga => exact .visit hmode hline (.inr (.inr rfl))
  | logout => exact .logOut hmode hline
  | productman => exact manageKey_moves hmode hline hruns
  | su => exact switchUser_moves hmode hline hruns
  | knowledge => exact consultManual_moves hmode hline hruns _
  | shutdown => exact .power hmode hline hruns rfl
  | reboot => exact .power hmode hline hruns rfl
  -- the others only write
  | _ => exact .restShell hmode

theorem runCommand_moves : (s.runCommand w line).IsMove s w (some (.line typed)) := by
  unfold runCommand
  split
  · rename_i spec hspec
    exact runBuiltin_moves hmode hline ⟨spec, hspec, rfl⟩
  · exact .restShell hmode

end Command

theorem shellLine_moves (hmode : s.mode = .shell) :
    (s.shellLine w typed).IsMove s w (some (.line typed)) := by
  unfold shellLine
  split
  · rename_i line hline
    exact runCommand_moves hmode hline
  · rename_i hblank
    exact .blank hmode hblank

/-! ## Questions of the shell -/

theorem switchPasswordLine_moves {target : Identity} (hmode : s.mode = .switchPassword target) :
    (s.switchPasswordLine w target typed).IsMove s w (some (.line typed)) := by
  unfold switchPasswordLine
  split
  · rename_i hswitch
    exact .switchWith hmode hswitch
  · exact .cancelSwitch hmode _
  · split_ifs
    · exact .cancelSwitch hmode _
    · exact .rest hmode (by simp) _

theorem productKeyLine_moves (hmode : s.mode = .productKey) :
    (s.productKeyLine w typed).IsMove s w (some (.line typed)) := by
  unfold productKeyLine
  split
  · rename_i hredeem
    exact .redeem hmode hredeem
  · exact .cancelKey hmode _
  · exact .rest hmode (by simp) _

/-! ## The manual -/

theorem manualKey_moves (hmode : s.mode = .manual) (key : Key) :
    (manualKey { s with notice := none } w key).IsMove s w (some (.key key)) := by
  unfold manualKey
  split
  · rename_i pager hpress
    exact .turnPages hmode hpress
  · rename_i pager text hpress
    exact .note hmode hpress
  · rename_i pager hpress
    exact .closeManual hmode hpress

/-! ## The desktop -/

theorem runBuiltin_of_power {b : Builtin} {action : PowerAction} (h : b.power = some action) :
    ∃ effects, s.runBuiltin w line b = ⟨s, w, effects, some action⟩ := by
  cases b with
  | shutdown | reboot => exact ⟨_, congrArg (Turn.mk s w _) h⟩
  | _ => cases h

/-- A command for the power supply changes nothing, and is passed on if root runs it. -/
theorem runCommand_of_power {b : Builtin} {action : PowerAction}
    (hparse : CommandLine.parse typed = some line) (hhead : line.head ∈ b.names)
    (hpower : b.power = some action) :
    ∃ effects, s.runCommand w line =
      ⟨s, w, effects, if s.accounts.current = .root then some action else none⟩ := by
  have hruns : line.Runs s.accounts.current b ↔ _ := CommandLine.runs_power_iff hparse hpower
  unfold runCommand
  split
  · rename_i spec hspec
    have hspec : line.Runs s.accounts.current spec.action := ⟨spec, hspec, rfl⟩
    have hroot : line.Runs .root b :=
      (CommandLine.runs_power_iff hparse hpower).mpr ⟨hhead, rfl⟩
    have hb : spec.action = b := (hspec.root hparse).unique hroot
    rw [if_pos (hruns.mp (hb ▸ hspec)).2]
    exact runBuiltin_of_power (hb ▸ hpower)
  · rename_i e he
    rw [if_neg]
    · exact ⟨_, rfl⟩
    · intro hroot
      obtain ⟨spec, hspec, -⟩ := hruns.mpr ⟨hhead, hroot⟩
      rw [he] at hspec
      cases hspec

/-- The commands of the menu are commands of the shell that ask for power. -/
theorem parse_itemCommand (item : MenuItem) :
    (itemCommand item).bind CommandLine.parse = none ∧ (DesktopAction.activate item).power = none ∨
    ∃ typed line b action, (itemCommand item).bind CommandLine.parse = some line ∧
      CommandLine.parse typed = some line ∧ line.head ∈ Builtin.names b ∧
      b.power = some action ∧ (DesktopAction.activate item).power = some action := by
  cases item with
  | terminal => exact Or.inl ⟨rfl, rfl⟩
  | reboot =>
    have hparse : CommandLine.parse "reboot" = some ⟨"reboot", [], [], ""⟩ := by decide
    exact Or.inr ⟨_, _, .reboot, .reboot, hparse, hparse, by decide, rfl, rfl⟩
  | shutdown =>
    have hparse : CommandLine.parse "shutdown" = some ⟨"shutdown", [], [], ""⟩ := by decide
    exact Or.inr ⟨_, _, .shutdown, .shutdown, hparse, hparse, by decide, rfl, rfl⟩

/-- Leaving the desktop with an item of the menu. -/
theorem leaveDesktop_itemCommand (item : MenuItem) :
    ∃ effects, s.leaveDesktop w (itemCommand item) = ⟨s.enter .shell, w, effects,
      if s.accounts.current = .root then (DesktopAction.activate item).power else none⟩ := by
  unfold leaveDesktop
  rcases parse_itemCommand item with ⟨hnone, hpower⟩ |
    ⟨typed, line, b, action, hline, hparse, hhead, hb, hpower⟩
  · rw [hnone, hpower, ite_self]
    exact ⟨_, rfl⟩
  · obtain ⟨effects, hturn⟩ := runCommand_of_power (s := s) (w := w) hparse hhead hb
    rw [hline, hpower]
    simp only [hturn]
    exact ⟨_, rfl⟩

theorem desktopFrame_moves (hmode : s.mode = .desktop) (frame : PointerFrame) :
    (s.desktopFrame w frame).IsMove s w (some (.pointer frame)) := by
  have hpoint := Move.point (w := w) hmode frame
  have hleave := Move.leaveDesktop (w := w) hmode frame
  unfold desktopFrame
  rcases hframe : s.desktop.frame frame with ⟨desktop, action⟩
  rw [hframe] at hpoint hleave
  cases action with
  | idle | toggled => exact hpoint
  | leave =>
    simp only [DesktopAction.power, ite_self] at hleave
    exact hleave
  | activate item =>
    obtain ⟨effects, hturn⟩ :=
      leaveDesktop_itemCommand (s := { s with desktop := desktop }) (w := w) item
    simp only [desktopAction, hturn]
    exact hleave

/-! ## Every step -/

theorem respondLine_moves (hmode : s.mode ≠ .manual) :
    (s.respondLine w typed).IsMove s w (some (.line typed)) := by
  unfold respondLine
  split
  · exact nameLine_moves (by assumption)
  · exact logIn_moves (by assumption)
  · exact rescueLine_moves (by assumption)
  · exact gameLine_moves (by assumption)
  · exact shellLine_moves (by assumption)
  · exact switchPasswordLine_moves (by assumption)
  · exact productKeyLine_moves (by assumption)
  · exact .rest rfl hmode _

theorem respondKey_moves (hmode : s.mode ≠ .manual) (key : Key) :
    (s.respondKey w key).IsMove s w (some (.key key)) := by
  unfold respondKey
  split
  · exact menuKey_moves (by assumption) key
  · contradiction
  · exact .rest rfl hmode _

theorem respondPointer_moves (hmode : s.mode ≠ .manual) (frame : PointerFrame) :
    (s.respondPointer w frame).IsMove s w (some (.pointer frame)) := by
  unfold respondPointer
  split
  · exact desktopFrame_moves (by assumption) frame
  · exact .rest rfl hmode _

/-- **Every step is a move.** -/
theorem step_moves (s : Session) (w : World) (answer : Option Input) :
    (s.step w answer).IsMove s w answer := by
  by_cases hmode : s.mode = .manual
  · have hprompted : s.prompted.mode = .manual := hmode
    cases answer with
    | none => exact .stay _
    | some input =>
      cases input with
      | key key =>
        rw [step_manual hmode]
        exact manualKey_moves hmode key
      | line typed =>
        simp only [step, respond, respondLine, hprompted]
        exact .stay _
      | pointer frame =>
        simp only [step, respond, respondPointer, hprompted]
        exact .stay _
  · unfold step
    rw [prompted_of_ne hmode]
    cases answer with
    | none => exact .rest rfl hmode _
    | some input =>
      cases input with
      | line typed => exact respondLine_moves hmode
      | key key => exact respondKey_moves hmode key
      | pointer frame => exact respondPointer_moves hmode frame

/-! ## The settings and the times -/

theorem Move.settings_eq {answer : Option Input} {s' : Session} {w' : World}
    {request : Option PowerAction} (h : Move s w answer s' w' request) :
    s'.settings = s.settings := by
  cases h <;> rfl

theorem Move.startedAt_eq {answer : Option Input} {s' : Session} {w' : World}
    {request : Option PowerAction} (h : Move s w answer s' w' request) :
    s'.startedAt = s.startedAt := by
  cases h <;> rfl

/-- Nothing that a session does sets the clock. -/
theorem Move.now_eq {answer : Option Input} {s' : Session} {w' : World}
    {request : Option PowerAction} (h : Move s w answer s' w' request) : w'.now = w.now := by
  cases h <;> rfl

theorem after_settings (s : Session) (xs : List Encounter) :
    (s.after xs).settings = s.settings :=
  after_induction (I := fun s' => s'.settings = s.settings)
    (fun s' x h => (step_moves s' x.world x.answer).settings_eq.trans h) rfl xs

end Session

end ModalConsole
