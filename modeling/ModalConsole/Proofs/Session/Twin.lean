import ModalConsole.Proofs.Session.Accounts

/-!
# Two sessions side by side

Two sessions that differ only in the password of root, in the product key in use, in the random
words to come and in what the clock has shown and shows, and that are given the same input. What
each of them makes of it is the same but for the key, the words and the times, unless the input is
the password of one of them at a question for it.

* `Variation`: what two sessions may differ in. `Session.vary`, `World.vary`, `Turn.vary`: the
  other one of two.
* `Blind`: a turn takes no notice of the variation. One lemma for each part of a session.
* `Twin`: the pairs of turns, with one constructor for each of the few ways in which the key, the
  words and the times are used.
* **`step_twin`**: every step of two sessions is a pair of this kind.
-/

namespace ModalConsole

/-! ## Plain effects -/

namespace Effect

/-- Is the effect neither a pause of random length nor a picture? -/
def isPlain : Effect → Bool
  | .randomPause _ _ => false
  | .present _ => false
  | _ => true

/-- Are all the effects plain? -/
def AllPlain (effects : List Effect) : Prop := ∀ e ∈ effects, e.isPlain = true

@[simp] theorem allPlain_nil : AllPlain [] := fun _ h => absurd h List.not_mem_nil

@[simp] theorem allPlain_cons {e : Effect} {effects : List Effect} :
    AllPlain (e :: effects) ↔ e.isPlain = true ∧ AllPlain effects := List.forall_mem_cons

@[simp] theorem allPlain_append {effects effects' : List Effect} :
    AllPlain (effects ++ effects') ↔ AllPlain effects ∧ AllPlain effects' :=
  List.forall_mem_append

@[simp] theorem isPlain_text (content : String) : (text content).isPlain = true := rfl

@[simp] theorem isPlain_clear : clear.isPlain = true := rfl

@[simp] theorem isPlain_foreground (color : Color) : (foreground color).isPlain = true := rfl

@[simp] theorem isPlain_background (color : Color) : (background color).isPlain = true := rfl

@[simp] theorem isPlain_pause (time : Nat) : (pause time).isPlain = true := rfl

@[simp] theorem allPlain_line (content : String) : AllPlain (line content) := by
  simp [line]

@[simp] theorem allPlain_lines (contents : List String) : AllPlain (lines contents) := by
  induction contents with
  | nil => exact allPlain_nil
  | cons content contents ih => exact allPlain_append.mpr ⟨allPlain_line content, ih⟩

@[simp] theorem allPlain_coloredLine (color : Color) (content : String) :
    AllPlain (coloredLine color content) := by
  simp [coloredLine]

@[simp] theorem allPlain_resetColors : AllPlain resetColors := by
  simp [resetColors]

end Effect

/-! ## Variations -/

/-- What two sessions may differ in. -/
structure Variation where
  /-- The password of root. -/
  password : String
  activation : Activation
  /-- When the session was started. -/
  startedAt : Timestamp
  /-- The random words to come. -/
  words : RandomWords
  now : Timestamp

/-- The world with other random words and at another time. -/
def World.vary (w : World) (v : Variation) : World := { w with words := v.words, now := v.now }

@[simp] theorem World.vary_store (w : World) (v : Variation) : (w.vary v).store = w.store := rfl

namespace Session

/-- The session with another password and another key, started at another time. -/
def vary (s : Session) (v : Variation) : Session :=
  { s with
    settings := { s.settings with rootPassword := v.password }
    activation := v.activation
    startedAt := v.startedAt }

section Vary

variable (s : Session) (v : Variation)

@[simp] theorem vary_rootPassword : (s.vary v).settings.rootPassword = v.password := rfl

@[simp] theorem vary_gameFile : (s.vary v).settings.gameFile = s.settings.gameFile := rfl

@[simp] theorem vary_activation : (s.vary v).activation = v.activation := rfl

@[simp] theorem vary_mode : (s.vary v).mode = s.mode := rfl

@[simp] theorem vary_accounts : (s.vary v).accounts = s.accounts := rfl

@[simp] theorem vary_economy : (s.vary v).economy = s.economy := rfl

@[simp] theorem vary_pager : (s.vary v).pager = s.pager := rfl

@[simp] theorem vary_desktop : (s.vary v).desktop = s.desktop := rfl

theorem vary_prompted : (s.vary v).prompted = s.prompted.vary v := rfl

end Vary

end Session

/-- The turn with another password, another key, other random words and other times. -/
def Turn.vary (t : Turn) (v : Variation) : Turn :=
  { t with session := t.session.vary v, world := t.world.vary v }

namespace Session

/-- The second turn is the first one varied, and the first one leaves the key and the words alone.
Only the desktop draws pictures. -/
structure Blind (v : Variation) (s : Session) (w : World) (t t' : Turn) : Prop where
  turn : t' = t.vary v
  activation : t.session.activation = s.activation
  words : t.world.words = w.words
  effects : ∀ e ∈ t.effects, e.isPlain = true ∨ s.mode = .desktop ∧ ∃ scene, e = .present scene

variable {v : Variation} {s : Session} {w : World} {typed : String} {line : CommandLine}

theorem Blind.say {u : Session} {effects : List Effect}
    (hactivation : u.activation = s.activation) (heffects : Effect.AllPlain effects) :
    Blind v s w (u.say w effects) ((u.vary v).say (w.vary v) effects) :=
  ⟨rfl, hactivation, rfl, fun e he => Or.inl (heffects e he)⟩

/-! ## Booting and logging in -/

theorem logIn_blind {identity : Identity} {credential : Option String} {target : BootTarget}
    (h : credential = some s.settings.rootPassword ↔ credential = some v.password) :
    Blind v s w (s.logIn w identity credential target)
      ((s.vary v).logIn (w.vary v) identity credential target) := by
  unfold logIn
  simp only [vary_accounts, vary_rootPassword, ← Accounts.login_congr h]
  split
  · rename_i accounts _
    exact .say (u := { s with accounts := accounts, mode := target.mode }) rfl (by simp)
  · exact .say rfl (by simp)

theorem nameLine_blind {target : BootTarget} :
    Blind v s w (s.nameLine w target typed) ((s.vary v).nameLine (w.vary v) target typed) := by
  unfold nameLine
  split
  · exact .say rfl (by simp)
  · rename_i identity hname
    split
    · exact .say (u := s.enter (.loginPassword identity target)) rfl (by simp)
    · exact logIn_blind (by simp)

/-! ## The rescue console -/

theorem rescueLine_blind :
    Blind v s w (s.rescueLine w typed) ((s.vary v).rescueLine (w.vary v) typed) := by
  unfold rescueLine
  simp only
  split_ifs
  · exact .say rfl (by simp)
  · exact .say (u := s.enter .shell) rfl (by simp)
  · exact .say rfl (by simp)

/-! ## Users -/

theorem switchBack_blind : Blind v s w (s.switchBack w) ((s.vary v).switchBack (w.vary v)) := by
  unfold switchBack
  rw [vary_accounts]
  split
  · exact .say rfl (by simp)
  · rename_i accounts _
    exact .say (u := { s with accounts := accounts }) rfl (by simp)

theorem switchTo_blind {name : String} :
    Blind v s w (s.switchTo w name) ((s.vary v).switchTo (w.vary v) name) := by
  unfold switchTo
  split
  · exact .say rfl (by simp)
  · rename_i target _
    -- without a credential, the password does not count
    have hswitch : s.accounts.switchTo v.password target none =
        s.accounts.switchTo s.settings.rootPassword target none :=
      Accounts.switchTo_congr (by simp)
    rw [vary_accounts, vary_rootPassword, hswitch]
    split_ifs
    · exact .say rfl (by simp)
    · exact .say (u := s.enter (.switchPassword target)) rfl (by simp)
    · split
      · rename_i accounts _
        exact .say (u := { s with accounts := accounts }) rfl (by simp)
      · exact .say rfl (by simp)

theorem switchUser_blind {name : Option String} :
    Blind v s w (s.switchUser w name) ((s.vary v).switchUser (w.vary v) name) := by
  cases name with
  | none => exact .say rfl (by simp)
  | some name =>
    simp only [switchUser]
    split_ifs
    · exact switchBack_blind
    · exact switchTo_blind

theorem switchPasswordLine_blind {target : Identity}
    (h : some typed = some s.settings.rootPassword ↔ some typed = some v.password) :
    Blind v s w (s.switchPasswordLine w target typed)
      ((s.vary v).switchPasswordLine (w.vary v) target typed) := by
  unfold switchPasswordLine
  simp only [vary_accounts, vary_rootPassword, ← Accounts.switchTo_congr h]
  split
  · rename_i accounts _
    exact .say (u := { s with accounts := accounts, mode := .shell }) rfl (by simp)
  · exact .say (u := s.enter .shell) rfl (by simp)
  · split_ifs
    · exact .say (u := s.enter .shell) rfl (by simp)
    · exact .say rfl (by simp)

/-! ## The manual -/

theorem openManual_blind {topic : Option String} :
    Blind v s w (s.openManual w topic) ((s.vary v).openManual (w.vary v) topic) :=
  .say (u := { s with pager := s.pager.openAt topic, notice := none, mode := .manual }) rfl
    (by simp)

theorem consultManual_blind {topic : Option String} :
    Blind v s w (s.consultManual w topic) ((s.vary v).consultManual (w.vary v) topic) := by
  cases topic with
  | none => exact openManual_blind
  | some name =>
    simp only [consultManual]
    rw [vary_pager]
    split_ifs
    · exact openManual_blind
    · exact .say rfl (by simp)

theorem manualKey_blind {key : Key} :
    Blind v s w (s.manualKey w key) ((s.vary v).manualKey (w.vary v) key) := by
  unfold manualKey
  rw [vary_pager]
  split
  · rename_i pager _
    exact .say (u := { s with pager := pager }) rfl (by simp)
  · rename_i pager text _
    exact .say (u := { s with pager := pager, notice := some text }) rfl (by simp)
  · rename_i pager _
    exact .say (u := { s with pager := pager, mode := .shell }) rfl (by simp)

/-! ## Pairs of turns -/

/-- Activates with a generated key, and writes a line before the line with the key. -/
def generate (s : Session) (w : World) (first label : String) : Turn :=
  let (key, words) := generateKey w.words
  { session := { s with activation := ⟨some key⟩ }
    world := { w with words := words }
    effects := Effect.lines [first, label ++ key]
    request := none }

theorem generate_eq (s : Session) (w : World) (first label : String) :
    ∃ key words, generateKey w.words = (key, words) ∧
      s.generate w first label = ⟨{ s with activation := ⟨some key⟩ }, { w with words := words },
        Effect.lines [first, label ++ key], none⟩ := by
  rcases hkey : generateKey w.words with ⟨key, words⟩
  exact ⟨key, words, rfl, by rw [generate, hkey]⟩

theorem unlock_eq_generate (s : Session) (w : World) :
    s.unlock w = s.generate w "Activating..." "Activated! Current Product Key is: " := rfl

theorem handOver_eq_generate {u : Upgrade} (hu : u.effect = .productKey) :
    s.handOver w u = s.generate w "Successful!" "Your product key is: " := by
  unfold handOver
  rw [if_pos hu]
  rfl

/-- What two sessions that differ only by a variation can make of the same input. -/
inductive Twin (v : Variation) (s : Session) (w : World) : Turn → Turn → Prop
  | blind {t t'} (h : Blind v s w t t') : Twin v s w t t'
  /-- Both sessions have the same key afterwards, or none. -/
  | level {t t'} (hturn : t' = t.vary { v with activation := t.session.activation })
      (hwords : t.world.words = w.words) (heffects : Effect.AllPlain t.effects) : Twin v s w t t'
  /-- A boot draws its pause. -/
  | boot (target) : Twin v s w (s.boot w target) ((s.vary v).boot (w.vary v) target)
  /-- The key and the times are shown. -/
  | info : Twin v s w (s.say w (Effect.lines (s.infoLines w.now)))
      ((s.vary v).say (w.vary v) (Effect.lines ((s.vary v).infoLines v.now)))
  /-- A key is generated, by the secret flag or because it has been bought. -/
  | generate (economy : Economy) (first label : String) (hactive : s.activation.isActive = false) :
      Twin v s w ({ s with economy := economy }.generate w first label)
        (({ s with economy := economy }.vary v).generate (w.vary v) first label)

/-- Both sessions have the same key after the turn. -/
theorem Twin.levelSay {u : Session} {effects : List Effect} (heffects : Effect.AllPlain effects) :
    Twin v s w (u.say w effects)
      ((u.vary { v with activation := u.activation }).say (w.vary v) effects) :=
  .level rfl rfl heffects

theorem Twin.say {u : Session} {effects : List Effect}
    (hactivation : u.activation = s.activation) (heffects : Effect.AllPlain effects) :
    Twin v s w (u.say w effects) ((u.vary v).say (w.vary v) effects) :=
  .blind (.say hactivation heffects)

/-! ## The game -/

theorem saveGame_blind : Blind v s w (s.saveGame w) ((s.vary v).saveGame (w.vary v)) := by
  simp only [saveGame, vary_economy, World.vary_store, vary_gameFile]
  rcases s.economy.save w.store s.settings.gameFile with ⟨store, refusal⟩
  refine ⟨rfl, rfl, rfl, fun e he => Or.inl ?_⟩
  cases refusal with
  | none => exact Effect.allPlain_line _ e he
  | some refusal => exact Effect.allPlain_coloredLine _ _ e he

theorem loadGame_blind : Blind v s w (s.loadGame w) ((s.vary v).loadGame (w.vary v)) := by
  simp only [loadGame, World.vary_store, vary_gameFile]
  exact .say (u := { s with economy := Economy.load w.store s.settings.gameFile }) rfl (by simp)

theorem handOver_twin {u : Upgrade} {economy : Economy}
    (hkey : u.effect = .productKey → s.activation.isActive = false) :
    Twin v s w ({ s with economy := economy }.handOver w u)
      (({ s with economy := economy }.vary v).handOver (w.vary v) u) := by
  by_cases hu : u.effect = .productKey
  · rw [handOver_eq_generate hu, handOver_eq_generate hu]
    exact .generate economy _ _ (hkey hu)
  · unfold handOver
    rw [if_neg hu, if_neg hu]
    exact .say (u := { s with economy := economy }) rfl (by simp)

section Active

variable (hactive : v.activation.isActive = s.activation.isActive)
include hactive

theorem buy_twin {id : Option String} :
    Twin v s w (s.buy w id) ((s.vary v).buy (w.vary v) id) := by
  cases id with
  | none => exact .say rfl (by simp)
  | some id =>
    simp only [buy, buyUpgrade, vary_activation, hactive]
    split_ifs with hmod hkey
    · exact .say (u := { s with economy := s.economy.useModMenu }) rfl (by simp)
    · exact .say rfl (by simp)
    · rw [vary_economy]
      split
      · rename_i u economy hbuy
        refine handOver_twin fun hu => ?_
        simpa [isKeyUpgrade, findUpgrade_of_buy hbuy, hu] using hkey
      · exact .say rfl (by simp)

theorem gameLine_twin :
    Twin v s w (s.gameLine w typed) ((s.vary v).gameLine (w.vary v) typed) := by
  unfold gameLine
  split
  · rename_i line hline
    unfold runGameCommand gameData teach showShop
    split_ifs with hbal hdata hsave hload hshop hpage hbuy hteach hpage hexit
    · exact .say rfl (by simp)
    · exact .blind saveGame_blind
    · exact .blind loadGame_blind
    · exact .say rfl (by simp)
    · exact .say rfl (by simp)
    · exact .say rfl (by simp)
    · exact buy_twin hactive
    · exact .say rfl (by simp)
    · exact .say (u := { s with economy := s.economy.earn }) rfl (by simp)
    · exact .say (u := s.enter .shell) rfl (by simp)
    · exact .say rfl (by simp)
  · exact .say (u := { s with economy := s.economy.earn }) rfl (by simp)

/-! ## Product keys -/

theorem manageKey_twin :
    Twin v s w (s.manageKey w line) ((s.vary v).manageKey (w.vary v) line) := by
  unfold manageKey Activation.deactivate
  simp only [vary_activation, hactive]
  split_ifs with hdeactivate hkey hkey hcrack
  · exact .levelSay (u := { s with activation := ⟨none⟩ }) (by simp)
  · exact .say rfl (by simp)
  · exact .say rfl (by simp)
  · rw [unlock_eq_generate, unlock_eq_generate]
    exact .generate s.economy _ _ (by simpa using hkey)
  · exact .say (u := s.enter .productKey) rfl (by simp)

end Active

theorem productKeyLine_twin :
    Twin v s w (s.productKeyLine w typed) ((s.vary v).productKeyLine (w.vary v) typed) := by
  unfold productKeyLine Activation.redeem
  simp only
  split_ifs
  · exact .say (u := s.enter .shell) rfl (by simp)
  · exact .levelSay (u := { s with activation := ⟨some _⟩, mode := .shell }) (by simp)
  · exact .say rfl (by simp)

/-! ## Commands of the shell -/

theorem allPlain_helpEffects (argument : String) : Effect.AllPlain (helpEffects argument) := by
  unfold helpEffects
  split_ifs
  · simp
  · simp
  · split
    · split_ifs <;> simp
    · simp

theorem allPlain_splashEffects (settings : Settings) (keep : Bool) :
    Effect.AllPlain (splashEffects settings keep) := by
  cases keep <;> simp [splashEffects]

theorem allPlain_dotEffects : Effect.AllPlain dotEffects := by
  unfold dotEffects
  simp [List.replicate]

theorem allPlain_removeEffects (line : CommandLine) : Effect.AllPlain (removeEffects line) := by
  unfold removeEffects
  simp only
  split_ifs <;> simp

theorem askPower_blind {action : PowerAction} {message : String} :
    Blind v s w (s.askPower w action message) ((s.vary v).askPower (w.vary v) action message) :=
  ⟨rfl, rfl, rfl, fun e he => Or.inl (Effect.allPlain_line message e he)⟩

theorem runBuiltin_blind_of_power {b : Builtin} {action : PowerAction} (h : b.power = some action) :
    Blind v s w (s.runBuiltin w line b) ((s.vary v).runBuiltin (w.vary v) line b) := by
  cases b with
  | shutdown | reboot => exact askPower_blind
  | _ => cases h

theorem runBuiltin_twin (hactive : v.activation.isActive = s.activation.isActive) (b : Builtin) :
    Twin v s w (s.runBuiltin w line b) ((s.vary v).runBuiltin (w.vary v) line b) := by
  cases b with
  | help => exact .say rfl (allPlain_helpEffects _)
  | grub => exact .say rfl (allPlain_splashEffects _ _)
  | grubrescue => exact .say (u := s.enter .rescue) rfl (by simp)
  | game => exact .say (u := s.enter .game) rfl (by simp)
  | productman => exact manageKey_twin hactive
  | logout => exact .say (u := s.enter (.loginName .shell)) rfl (by simp)
  | su => exact .blind switchUser_blind
  | infofetch => exact .info
  | knowledge => exact .blind consultManual_blind
  | shutdown => exact .blind askPower_blind
  | reboot => exact .blind askPower_blind
  | vga => exact .say (u := s.enter .desktop) rfl (by simp)
  | dots => exact .say rfl allPlain_dotEffects
  | remove => exact .say rfl (allPlain_removeEffects _)
  | _ => exact .say rfl (by simp)

theorem runCommand_twin (hactive : v.activation.isActive = s.activation.isActive) :
    Twin v s w (s.runCommand w line) ((s.vary v).runCommand (w.vary v) line) := by
  unfold runCommand
  rw [vary_accounts]
  split
  · rename_i spec _
    exact runBuiltin_twin hactive spec.action
  · exact .say rfl (by simp)

theorem shellLine_twin (hactive : v.activation.isActive = s.activation.isActive) :
    Twin v s w (s.shellLine w typed) ((s.vary v).shellLine (w.vary v) typed) := by
  unfold shellLine
  split
  · exact runCommand_twin hactive
  · exact .say (u := { s with blankLines := s.blankLines + 1 }) rfl (by simp)

/-! ## The desktop -/

/-- A command for the power supply takes no notice of a variation. -/
theorem runCommand_blind_of_power {b : Builtin} {action : PowerAction}
    (hparse : CommandLine.parse typed = some line) (hhead : line.head ∈ b.names)
    (hpower : b.power = some action) :
    Blind v s w (s.runCommand w line) ((s.vary v).runCommand (w.vary v) line) := by
  unfold runCommand
  rw [vary_accounts]
  split
  · rename_i spec hspec
    have hruns : line.Runs s.accounts.current spec.action := ⟨spec, hspec, rfl⟩
    have hroot : line.Runs .root b :=
      (CommandLine.runs_power_iff hparse hpower).mpr ⟨hhead, rfl⟩
    rw [(hruns.root hparse).unique hroot]
    exact runBuiltin_blind_of_power hpower
  · exact .say rfl (by simp)

theorem Blind.leave {t t' : Turn} (h : Blind v s w t t') :
    Blind v s w { t with session := t.session.enter .shell, effects := .clear :: t.effects }
      { t' with session := t'.session.enter .shell, effects := .clear :: t'.effects } := by
  obtain ⟨rfl, hactivation, hwords, heffects⟩ := h
  exact ⟨rfl, hactivation, hwords, List.forall_mem_cons.mpr ⟨Or.inl rfl, heffects⟩⟩

theorem Blind.present {t t' : Turn} (hmode : s.mode = .desktop) (scene : Scene)
    (h : Blind v s w t t') : Blind v s w { t with effects := .present scene :: t.effects }
      { t' with effects := .present scene :: t'.effects } := by
  obtain ⟨rfl, hactivation, hwords, heffects⟩ := h
  exact ⟨rfl, hactivation, hwords, List.forall_mem_cons.mpr ⟨Or.inr ⟨hmode, scene, rfl⟩, heffects⟩⟩

theorem leaveDesktop_blind (item : MenuItem) :
    Blind v s w (s.leaveDesktop w (itemCommand item))
      ((s.vary v).leaveDesktop (w.vary v) (itemCommand item)) := by
  unfold leaveDesktop
  rcases parse_itemCommand item with ⟨hnone, -⟩ |
    ⟨typed, line, b, action, hline, hparse, hhead, hb, -⟩
  · rw [hnone]
    exact .say (u := s.enter .shell) rfl (by simp)
  · rw [hline]
    exact (runCommand_blind_of_power hparse hhead hb).leave

theorem desktopAction_blind (action : DesktopAction) :
    Blind v s w (s.desktopAction w action) ((s.vary v).desktopAction (w.vary v) action) := by
  cases action with
  | idle | toggled => exact .say rfl (by simp)
  | leave => exact .say (u := s.enter .shell) rfl (by simp)
  | activate item => exact leaveDesktop_blind item

theorem desktopFrame_blind (hmode : s.mode = .desktop) {frame : PointerFrame} :
    Blind v s w (s.desktopFrame w frame) ((s.vary v).desktopFrame (w.vary v) frame) := by
  unfold desktopFrame
  rw [vary_desktop]
  rcases s.desktop.frame frame with ⟨desktop, action⟩
  have haction := desktopAction_blind (v := v) (s := { s with desktop := desktop }) (w := w) action
  exact Blind.present hmode _ ⟨haction.turn, haction.activation, haction.words, haction.effects⟩

/-! ## The boot menu -/

theorem menuKey_twin {selected : Nat} {key : Key} :
    Twin v s w (s.menuKey w selected key) ((s.vary v).menuKey (w.vary v) selected key) := by
  unfold menuKey
  simp only
  split
  · exact .say (u := s.enter (.bootMenu _)) rfl (by simp)
  · exact .say (u := s.enter (.bootMenu _)) rfl (by simp)
  · exact .boot _
  · split
    · exact .boot _
    · exact .say rfl (by simp)
  · exact .say rfl (by simp)

/-! ## Every step -/

theorem respondLine_twin (hactive : v.activation.isActive = s.activation.isActive)
    (hread : s.mode.asksPassword = true →
      (some typed = some s.settings.rootPassword ↔ some typed = some v.password)) :
    Twin v s w (s.respondLine w typed) ((s.vary v).respondLine (w.vary v) typed) := by
  unfold respondLine
  rw [vary_mode]
  split
  · exact .blind nameLine_blind
  · rename_i identity target hmode
    exact .blind (logIn_blind (hread (by rw [hmode]; rfl)))
  · exact .blind rescueLine_blind
  · exact gameLine_twin hactive
  · exact shellLine_twin hactive
  · rename_i target hmode
    exact .blind (switchPasswordLine_blind (hread (by rw [hmode]; rfl)))
  · exact productKeyLine_twin
  · exact .say rfl (by simp)

theorem respondKey_twin {key : Key} :
    Twin v s w (s.respondKey w key) ((s.vary v).respondKey (w.vary v) key) := by
  unfold respondKey
  rw [vary_mode]
  split
  · exact menuKey_twin
  · exact .blind manualKey_blind
  · exact .say rfl (by simp)

theorem respondPointer_twin {frame : PointerFrame} :
    Twin v s w (s.respondPointer w frame) ((s.vary v).respondPointer (w.vary v) frame) := by
  unfold respondPointer
  rw [vary_mode]
  split
  · rename_i hmode
    exact .blind (desktopFrame_blind hmode)
  · exact .say rfl (by simp)

/-- **Two sessions that differ only by a variation make a pair of turns of what they read**, unless
it is the password of just one of them at a question for it. -/
theorem step_twin (w : World) {answer : Option Input}
    (hactive : v.activation.isActive = s.activation.isActive)
    (hread : s.ReadsPassword s.settings.rootPassword answer ↔ s.ReadsPassword v.password answer) :
    Twin v s.prompted w (s.step w answer) ((s.vary v).step (w.vary v) answer) := by
  unfold step
  rw [vary_prompted]
  cases answer with
  | none => exact .say rfl (by simp)
  | some input =>
    cases input with
    | line typed =>
      refine respondLine_twin hactive fun hasks => ?_
      change s.mode.asksPassword = true at hasks
      change some typed = some s.settings.rootPassword ↔ _
      simpa [ReadsPassword, hasks] using hread
    | key key => exact respondKey_twin
    | pointer frame => exact respondPointer_twin

end Session

end ModalConsole
