import ModalConsole.Session.Dispatch

/-!
# The handlers prompt, read once and answer

A handler is a program, and programs may read and write as they like. Here every handler is shown to
write its prompt, to read once, input of the kind of its mode, and to answer without another read
and without giving up, whatever the services are like and whatever has been read. So what it comes
to is told by `Session.prompt`, `Session.prompted` and `Session.respond`.

* `Program.stretch`: what a program does up to its next read. `Program.Along`: what holds of the
  services all along a stretch. `run_of_refused`, `run_of_performed`: a run on a device, stretch by
  stretch.
* `Program.turn?`: the turn that a program comes to if it ends before it reads. One lemma for each
  handler of a command, an answer or a choice.
* `Handler.Prompts`, **`Handler.ofMode_prompts`**: the form of every handler.
* `Session.DispatchedBy`, **`Session.dispatchOn_by`**: the ways that a step can go on a device.
* **`Session.dispatch_eq`**: a step on a terminal is its prompt, one read and `Session.step`.
-/

namespace ModalConsole

/-! ## Stretches of a program -/

/-- How a stretch of a program ends. -/
inductive Stop (α : Type) where
  | done (result : α)
  | fail (message : String)
  | read (kind : InputKind) (next : Input → Program α)

/-- What a program does up to its next read, if no effect is refused. -/
structure Stretch (α : Type) where
  services : Services
  effects : List Effect
  stop : Stop α

/-- The stretch with effects in front. -/
def Stretch.after {α : Type} (effects : List Effect) (r : Stretch α) : Stretch α :=
  { r with effects := effects ++ r.effects }

/-- The turn with effects in front. -/
def Turn.after (effects : List Effect) (t : Turn) : Turn :=
  { t with effects := effects ++ t.effects }

/-- The turn that a stretch comes to if its program ends with it. -/
def Stretch.turn? (r : Stretch Transition) : Option Turn :=
  match r.stop with
  | .done transition =>
    some ⟨transition.apply r.services.session, r.services.world, r.effects,
      r.services.power.pending⟩
  | _ => none

theorem Stretch.turn?_after (effects : List Effect) (r : Stretch Transition) :
    (r.after effects).turn? = r.turn?.map (·.after effects) := by
  unfold Stretch.after Stretch.turn?
  cases r.stop <;> rfl

theorem Device.performAll_cons {σ ε : Type} (d : Device σ ε) (state : σ) (effect : Effect)
    (rest : List Effect) : d.performAll state (effect :: rest) =
      match d.perform state effect with
      | (.ok (), state) => d.performAll state rest
      | (.error reason, state) => (.error reason, state) := rfl

namespace Program

variable {α β γ : Type}

/-- The first stretch of a program. -/
def stretch : Program α → Services → Stretch α
  | done result, v => ⟨v, [], .done result⟩
  | fail message, v => ⟨v, [], .fail message⟩
  | perform effect next, v => (next.stretch v).after [effect]
  | read kind next, v => ⟨v, [], .read kind next⟩
  | look next, v => (next v).stretch v
  | change f next, v => next.stretch (f v)

/-- What holds of the services after every change up to the next read. -/
def Along (P : Services → Prop) : Program α → Services → Prop
  | perform _ next, v => next.Along P v
  | look next, v => (next v).Along P v
  | change f next, v => P (f v) ∧ next.Along P (f v)
  | _, _ => True

/-- The turn that a program comes to if it ends before it reads. -/
def turn? (p : Program Transition) (s : Session) (w : World) : Option Turn :=
  (p.stretch { session := s, world := w }).turn?

theorem done_bind (result : α) (f : α → Program β) : (done result).bind f = f result := rfl

theorem bind_assoc (p : Program α) (f : α → Program β) (g : β → Program γ) :
    (p >>= f) >>= g = p >>= fun a => f a >>= g := by
  induction p with
  | done result => rfl
  | fail message => rfl
  | perform effect next ih => exact congrArg (perform effect) ih
  | read kind next ih => exact congrArg (read kind) (funext ih)
  | look next ih => exact congrArg look (funext ih)
  | change f next ih => exact congrArg (change f) ih

theorem stretch_session (next : Session → Program β) (v : Services) :
    (session >>= next).stretch v = (next v.session).stretch v := rfl

theorem stretch_update (f : Session → Session) (next : Unit → Program β) (v : Services) :
    (update f >>= next).stretch v = (next ()).stretch { v with session := f v.session } := rfl

theorem stretch_ask (kind : InputKind) (next : Input → Program β) (v : Services) :
    (ask kind >>= next).stretch v = ⟨v, [], .read kind next⟩ := rfl

theorem stretch_performAll (effects : List Effect) (next : Unit → Program β) (v : Services) :
    (performAll effects >>= next).stretch v = ((next ()).stretch v).after effects := by
  induction effects with
  | nil => rfl
  | cons effect rest ih =>
    change ((performAll rest >>= next).stretch v).after [effect] = _
    rw [ih]
    rfl

theorem along_performAll {P : Services → Prop} (effects : List Effect) (next : Unit → Program β)
    (v : Services) : (performAll effects >>= next).Along P v ↔ (next ()).Along P v := by
  induction effects with
  | nil => rfl
  | cons effect rest ih => exact ih

theorem along_true (p : Program α) (v : Services) : p.Along (fun _ => True) v := by
  induction p generalizing v with
  | perform effect next ih => exact ih v
  | look next ih => exact ih v v
  | change f next ih => exact ⟨trivial, ih (f v)⟩
  | _ => exact trivial

/-! ### Runs on a device -/

variable {σ ε : Type} {d : Device σ ε} {p : Program α} {v : Services} {state left : σ}

theorem run_perform (d : Device σ ε) (effect : Effect) (next : Program α) (v : Services)
    (state : σ) : (perform effect next).run d v state =
      match d.perform state effect with
      | (.ok (), state) => next.run d v state
      | (.error reason, state) => (.error (.terminal reason), v, state) := rfl

theorem run_read (d : Device σ ε) (kind : InputKind) (next : Input → Program α) (v : Services)
    (state : σ) : (read kind next).run d v state =
      match d.read kind state with
      | (.ok input, state) => (next input).run d (v.shownBy (d.clock state)) state
      | (.error reason, state) =>
        (.error (.terminal reason), v.shownBy (d.clock state), state) := by
  rcases hread : d.read kind state with ⟨_ | _, _⟩ <;> simp only [run, hread]

/-- A stretch whose effects are carried out: the run goes on from its end. -/
theorem run_of_performed (h : d.performAll state (p.stretch v).effects = (.ok (), left)) :
    p.run d v state = match (p.stretch v).stop with
      | .done result => (.ok result, (p.stretch v).services, left)
      | .fail message => (.error (.raised message), (p.stretch v).services, left)
      | .read kind next => (Program.read kind next).run d (p.stretch v).services left := by
  induction p generalizing v state with
  | done result =>
    obtain rfl : state = left := congrArg Prod.snd h
    rfl
  | fail message =>
    obtain rfl : state = left := congrArg Prod.snd h
    rfl
  | read kind next =>
    obtain rfl : state = left := congrArg Prod.snd h
    rfl
  | look next ih => exact ih v h
  | change f next ih => exact ih h
  | perform effect next ih =>
    change d.performAll state (effect :: (next.stretch v).effects) = _ at h
    rw [d.performAll_cons] at h
    rw [run_perform]
    rcases hperform : d.perform state effect with ⟨reason | _, between⟩
    · simp [hperform] at h
    · simp only [hperform] at h
      exact ih h

/-- A stretch of which an effect is refused: the run ends there. -/
theorem run_of_refused {P : Services → Prop} (hv : P v) (halong : p.Along P v) {reason : ε}
    (h : d.performAll state (p.stretch v).effects = (.error reason, left)) :
    ∃ v', P v' ∧ p.run d v state = (.error (.terminal reason), v', left) := by
  induction p generalizing v state with
  | done result => exact absurd (congrArg Prod.fst h) (by simp [stretch, Device.performAll])
  | fail message => exact absurd (congrArg Prod.fst h) (by simp [stretch, Device.performAll])
  | read kind next => exact absurd (congrArg Prod.fst h) (by simp [stretch, Device.performAll])
  | look next ih => exact ih v hv halong h
  | change f next ih => exact ih halong.1 halong.2 h
  | perform effect next ih =>
    change d.performAll state (effect :: (next.stretch v).effects) = _ at h
    rw [d.performAll_cons] at h
    rw [run_perform]
    rcases hperform : d.perform state effect with ⟨refused | _, between⟩
    · simp only [hperform, Prod.mk.injEq, Except.error.injEq] at h
      obtain ⟨rfl, rfl⟩ := h
      exact ⟨v, hv, rfl⟩
    · simp only [hperform] at h
      exact ih hv halong h

/-! ### Turns

What the first operation of a program does to the turn that it comes to. -/

variable {s : Session} {w : World}

theorem turn?_eq_some {p : Program Transition} {t : Turn} (h : p.turn? s w = some t) :
    ∃ v transition, p.stretch { session := s, world := w } = ⟨v, t.effects, .done transition⟩ ∧
      t = ⟨transition.apply v.session, v.world, t.effects, v.power.pending⟩ := by
  unfold turn? Stretch.turn? at h
  rcases hstretch : p.stretch { session := s, world := w } with ⟨v, effects, transition | _ | _⟩
  · rw [hstretch] at h
    obtain rfl := Option.some.inj h
    exact ⟨v, transition, rfl, rfl⟩
  · simp [hstretch] at h
  · simp [hstretch] at h

theorem run_of_turn_refused {p : Program Transition} {t : Turn} (ht : p.turn? s w = some t)
    {reason : ε} (h : d.performAll state t.effects = (.error reason, left)) :
    ∃ v, p.run d { session := s, world := w } state = (.error (.terminal reason), v, left) := by
  obtain ⟨v, transition, hstretch, -⟩ := turn?_eq_some ht
  obtain ⟨v', -, hrun⟩ := run_of_refused trivial (along_true _ _)
    ((congrArg (d.performAll state ·.effects) hstretch).trans h)
  exact ⟨v', hrun⟩

theorem run_of_turn_performed {p : Program Transition} {t : Turn} (ht : p.turn? s w = some t)
    (h : d.performAll state t.effects = (.ok (), left)) :
    ∃ v transition, p.run d { session := s, world := w } state = (.ok transition, v, left) ∧
      t = ⟨transition.apply v.session, v.world, t.effects, v.power.pending⟩ := by
  obtain ⟨v, transition, hstretch, hturn⟩ := turn?_eq_some ht
  refine ⟨v, transition, ?_, hturn⟩
  rw [run_of_performed ((congrArg (d.performAll state ·.effects) hstretch).trans h), hstretch]

theorem turn?_session (next : Session → Program Transition) :
    (session >>= next).turn? s w = (next s).turn? s w := rfl

theorem turn?_world (next : World → Program Transition) :
    (world >>= next).turn? s w = (next w).turn? s w := rfl

theorem turn?_update (f : Session → Session) (next : Unit → Program Transition) :
    (update f >>= next).turn? s w = (next ()).turn? (f s) w := rfl

theorem turn?_performAll (effects : List Effect) (next : Unit → Program Transition) :
    (performAll effects >>= next).turn? s w = ((next ()).turn? s w).map (·.after effects) := by
  rw [turn?, stretch_performAll, Stretch.turn?_after]
  rfl

/-- A program that is followed by a decision about the mode. -/
theorem turn?_bind_to (p : Program Transition) (mode : Mode) :
    (p >>= fun _ => pure (.to mode)).turn? s w =
      (p.turn? s w).map fun t => { t with session := t.session.enter mode } := by
  unfold turn?
  generalize ({ session := s, world := w } : Services) = v
  induction p generalizing v with
  | done transition => cases transition <;> rfl
  | fail message => rfl
  | perform effect next ih =>
    change (((next >>= fun _ => pure (.to mode)).stretch v).after [effect]).turn? =
      ((next.stretch v).after [effect]).turn?.map _
    rw [Stretch.turn?_after, Stretch.turn?_after, ih]
    cases (next.stretch v).turn? <;> rfl
  | read kind next => rfl
  | look next ih => exact ih v v
  | change f next ih => exact ih (f v)

end Program

/-! ## The turns of the handlers -/

namespace Handler

open Program

variable {s : Session} {w : World}

/-! ### Logging in -/

theorem logIn_turn (identity : Identity) (credential : Option String) (target : BootTarget) :
    (logIn identity credential target).turn? s w =
      some (s.logIn w identity credential target) := by
  simp only [logIn, turn?_session, Session.logIn]
  cases s.accounts.login s.settings.rootPassword identity credential <;> rfl

/-! ### The shell -/

theorem saying_turn (effects : List Effect) :
    (saying effects).turn? s w = some (s.say w effects) := by
  rw [saying, turn?_performAll]
  exact congrArg (fun effects => some (s.say w effects)) (List.append_nil effects)

theorem grub_turn (line : CommandLine) :
    (grub line).turn? s w =
      some (s.say w (Session.splashEffects s.settings (line.hasFlag "noclearafter"))) := by
  unfold grub Session.splashEffects
  cases line.hasFlag "noclearafter" <;> rfl

theorem productman_turn (line : CommandLine) :
    (productman line).turn? s w = some (s.manageKey w line) := by
  simp only [productman, turn?_session, Session.manageKey]
  split
  · cases s.activation.deactivate <;> rfl
  · split
    · rfl
    · split
      · simp only [writeLine, turn?_performAll, turn?_world, Session.unlock]
        generalize Activation.unlock w.words = unlocked
        rfl
      · rfl

theorem switchBack_turn : switchBack.turn? s w = some (s.switchBack w) := by
  simp only [switchBack, turn?_session, Session.switchBack]
  rcases s.accounts.revert with ⟨_ | _, accounts⟩ <;> rfl

theorem switchTo_turn (typed : String) :
    (switchTo typed).turn? s w = some (s.switchTo w typed) := by
  simp only [switchTo, turn?_session, Session.switchTo]
  cases Identity.ofName typed with
  | error e => rfl
  | ok target =>
    simp only
    split
    · rfl
    · split
      · rfl
      · cases s.accounts.switchTo s.settings.rootPassword target none <;> rfl

theorem su_turn (argument : Option String) :
    (su argument).turn? s w = some (s.switchUser w argument) := by
  cases argument with
  | none => rfl
  | some typed =>
    simp only [su, Session.switchUser]
    split
    · exact switchBack_turn
    · exact switchTo_turn typed

theorem knowledge_turn (argument : Option String) :
    (knowledge argument).turn? s w = some (s.consultManual w argument) := by
  cases argument with
  | none => rfl
  | some typed =>
    simp only [knowledge, turn?_session, Session.consultManual]
    split
    · rfl
    · exact saying_turn _

theorem runBuiltin_turn (line : CommandLine) (b : Builtin) :
    (runBuiltin line b).turn? s w = some (s.runBuiltin w line b) := by
  cases b with
  | grub => exact grub_turn line
  | productman => exact productman_turn line
  | su => exact su_turn _
  | knowledge => exact knowledge_turn _
  | help => exact saying_turn _
  | remove => exact saying_turn _
  | _ => rfl

theorem runCommand_turn (line : CommandLine) :
    (runCommand line).turn? s w = some (s.runCommand w line) := by
  simp only [runCommand, turn?_session, Session.runCommand]
  cases Builtin.table.resolve line s.accounts.current with
  | ok spec => exact runBuiltin_turn line spec.action
  | error e => rfl

/-! ### The game -/

/-- A part of a command that leaves the mode as it is. -/
def staying (p : Program Unit) : Program Transition := do
  p
  return .stay

theorem data_turn (action : Option String) :
    (staying (data action)).turn? s w = some (s.gameData w action) := by
  simp only [staying, data, bind_assoc, turn?_session, Session.gameData]
  split
  · simp only [bind_assoc, turn?_world, Session.saveGame]
    rcases s.economy.save w.store s.settings.gameFile with ⟨store, _ | refusal⟩ <;> rfl
  · split <;> rfl

theorem shop_turn (page : Option String) :
    (staying (shop page)).turn? s w = some (s.showShop w page) := by
  simp only [staying, shop, Session.showShop]
  split <;> rfl

theorem buyUpgrade_turn (typed : String) :
    (staying (buyUpgrade typed)).turn? s w = some (s.buyUpgrade w typed) := by
  simp only [staying, buyUpgrade, bind_assoc, turn?_session, Session.buyUpgrade]
  split
  · rfl
  · rcases s.economy.buy typed with e | ⟨u, economy⟩
    · rfl
    · simp only [bind_assoc, turn?_update, writeLine, turn?_performAll, Session.handOver]
      split
      · simp only [bind_assoc, turn?_world]
        generalize Activation.unlock w.words = unlocked
        rfl
      · rfl

theorem buy_turn (typed : Option String) :
    (staying (buy typed)).turn? s w = some (s.buy w typed) := by
  cases typed with
  | none => rfl
  | some typed =>
    simp only [buy, Session.buy]
    split
    · rfl
    · exact buyUpgrade_turn typed

theorem teach_turn (line : CommandLine) :
    (staying (teach line)).turn? s w = some (s.teach w line) := by
  simp only [staying, teach, Session.teach]
  split <;> rfl

theorem runGameCommand_turn (line : CommandLine) :
    (runGameCommand line).turn? s w = some (s.runGameCommand w line) := by
  simp only [runGameCommand, Session.runGameCommand]
  split
  · rfl
  · split
    · exact data_turn _
    · split
      · exact shop_turn _
      · split
        · exact buy_turn _
        · split
          · exact teach_turn line
          · split <;> rfl

/-! ### All handlers -/

/-- The program writes the prompt of the session, reads once, and answers what it has read with the
turn of the session. Up to the read the notice of the manual is all that it may use up. -/
def Prompts (p : Program Transition) (s : Session) (w : World) : Prop :=
  let v : Services := { session := s, world := w }
  p.Along (fun v' => v' = v ∨ v' = { v with session := s.prompted }) v ∧
  ∃ answer : Input → Program Transition,
    p.stretch v = ⟨{ v with session := s.prompted }, s.prompt, .read s.mode.asks answer⟩ ∧
    ∀ input clock, let w' := w.shownBy clock
      (answer input).turn? s.prompted w' = some (s.prompted.respond w' input)

theorem bootMenu_prompts (selected : Nat) :
    Prompts (bootMenu selected) (s.enter (.bootMenu selected)) w := by
  refine ⟨trivial, _, rfl, fun input clock => ?_⟩
  rcases input with typed | key | frame
  · rfl
  · cases key with
    | char c =>
      change _ = some (Session.menuKey _ _ selected (.char c))
      simp only [done_bind, Session.menuKey]
      cases BootTarget.ofChar? c <;> rfl
    | _ => rfl
  · rfl

theorem loginName_prompts (target : BootTarget) :
    Prompts (loginName target) (s.enter (.loginName target)) w := by
  refine ⟨trivial, _, rfl, fun input clock => ?_⟩
  rcases input with typed | key | frame
  · change _ = some (Session.nameLine _ _ target typed)
    simp only [done_bind, Session.nameLine]
    cases Identity.ofName typed with
    | error e => rfl
    | ok identity =>
      simp only
      split
      · rfl
      · exact logIn_turn identity none target
  · rfl
  · rfl

theorem loginPassword_prompts (identity : Identity) (target : BootTarget) :
    Prompts (loginPassword identity target) (s.enter (.loginPassword identity target)) w := by
  refine ⟨trivial, _, rfl, fun input clock => ?_⟩
  rcases input with typed | key | frame
  · exact logIn_turn identity (some typed) target
  · rfl
  · rfl

theorem rescue_prompts : Prompts rescue (s.enter .rescue) w := by
  refine ⟨trivial, _, rfl, fun input clock => ?_⟩
  rcases input with typed | key | frame
  · change _ = some (Session.rescueLine _ _ typed)
    simp only [done_bind, Session.rescueLine]
    split
    · rfl
    · split <;> rfl
  · rfl
  · rfl

theorem game_prompts : Prompts game (s.enter .game) w := by
  refine ⟨trivial, _, rfl, fun input clock => ?_⟩
  rcases input with typed | key | frame
  · change _ = some (Session.gameLine _ _ typed)
    simp only [done_bind, Session.gameLine]
    cases Session.commandOf typed with
    | some line => exact runGameCommand_turn line
    | none => rfl
  · rfl
  · rfl

theorem shell_prompts : Prompts shell (s.enter .shell) w := by
  refine ⟨trivial, _, rfl, fun input clock => ?_⟩
  rcases input with typed | key | frame
  · change _ = some (Session.shellLine _ _ typed)
    simp only [done_bind, Session.shellLine]
    cases Session.commandOf typed with
    | some line => exact runCommand_turn line
    | none => rfl
  · rfl
  · rfl

theorem switchPassword_prompts (target : Identity) :
    Prompts (switchPassword target) (s.enter (.switchPassword target)) w := by
  refine ⟨trivial, _, rfl, fun input clock => ?_⟩
  rcases input with typed | key | frame
  · change _ = some (Session.switchPasswordLine _ _ target typed)
    simp only [done_bind, turn?_session, Session.switchPasswordLine]
    rcases Accounts.switchTo _ _ target (some typed) with e | ⟨_ | _, accounts⟩
    · simp only
      split <;> rfl
    · rfl
    · rfl
  · rfl
  · rfl

theorem productKey_prompts : Prompts productKey (s.enter .productKey) w := by
  refine ⟨trivial, _, rfl, fun input clock => ?_⟩
  rcases input with typed | key | frame
  · change _ = some (Session.productKeyLine _ _ typed)
    simp only [done_bind, turn?_session, Session.productKeyLine]
    rcases Activation.redeem _ typed with e | ⟨_ | _, activation⟩ <;> rfl
  · rfl
  · rfl

theorem manual_prompts : Prompts manual (s.enter .manual) w := by
  have heffects : [.clear] ++ (Effect.lines s.pager.render ++ (Effect.lines s.notice.toList ++ []))
      = (s.enter .manual).prompt := by
    rw [List.append_nil, ← List.append_assoc]
    rfl
  constructor
  · simp only [manual, clear, writeLines, along_performAll]
    exact (along_performAll _ _ _).mpr ⟨.inr rfl, (along_performAll _ _ _).mpr trivial⟩
  · simp only [manual, clear, writeLines, stretch_performAll, stretch_session, stretch_update,
      stretch_ask]
    rw [← heffects]
    refine ⟨_, rfl, fun input clock => ?_⟩
    rcases input with typed | key | frame
    · rfl
    · change _ = some (Session.manualKey _ _ key)
      simp only [turn?_session, turn?_update, Session.manualKey]
      rcases Pager.press _ key with ⟨pager, _ | _ | _⟩ <;> rfl
    · rfl

theorem desktopAction_turn (action : DesktopAction) :
    (desktopAction action).turn? s w = some (s.desktopAction w action) := by
  cases action with
  | activate item =>
    simp only [desktopAction, clear, turn?_performAll, Session.desktopAction, Session.leaveDesktop]
    cases (Session.itemCommand item).bind CommandLine.parse with
    | none => rfl
    | some line =>
      simp only [turn?_bind_to, runCommand_turn]
      generalize s.runCommand w line = turn
      rfl
  | _ => rfl

theorem desktop_prompts : Prompts desktop (s.enter .desktop) w := by
  refine ⟨trivial, _, rfl, fun input clock => ?_⟩
  rcases input with typed | key | frame
  · rfl
  · rfl
  · change _ = some (Session.desktopFrame _ _ frame)
    simp only [done_bind, turn?_session, turn?_update, turn?_performAll, desktopAction_turn,
      Session.desktopFrame]
    rfl

/-- **Every handler prompts, reads once and answers.** -/
theorem ofMode_prompts (mode : Mode) : Prompts (ofMode mode) (s.enter mode) w := by
  cases mode with
  | bootMenu selected => exact bootMenu_prompts selected
  | loginName target => exact loginName_prompts target
  | loginPassword identity target => exact loginPassword_prompts identity target
  | rescue => exact rescue_prompts
  | game => exact game_prompts
  | desktop => exact desktop_prompts
  | manual => exact manual_prompts
  | shell => exact shell_prompts
  | switchPassword target => exact switchPassword_prompts target
  | productKey => exact productKey_prompts

end Handler

/-! ## Steps -/

@[simp] theorem mapError_ok {α ε ε' : Type} (f : ε → ε') (result : α) :
    (Except.ok result).mapError f = .ok result := rfl

@[simp] theorem mapError_error {α ε ε' : Type} (f : ε → ε') (reason : ε) :
    (Except.error reason : Except ε α).mapError f = .error (f reason) := rfl

theorem Terminal.performAll_device {σ ε : Type} (t : Terminal σ ε) (state : σ)
    (effects : List Effect) :
    t.device.performAll state effects = (.ok (), t.performAll state effects) := by
  induction effects generalizing state with
  | nil => rfl
  | cons effect rest ih => exact ih (t.perform state effect)

namespace Session

open Handler

section Device

variable {σ ε : Type} (d : Device σ ε) (s : Session) (w : World) (state : σ)

/-- The ways that a step can go on a device. -/
inductive DispatchedBy : Dispatched σ ε → Prop
  /-- An effect of the prompt is refused. -/
  | unasked {reason left s'} (hprompt : d.performAll state s.prompt = (.error reason, left))
      (hs : s' = s ∨ s' = s.prompted) : DispatchedBy ⟨s', w, left, {}, .error (.terminal reason)⟩
  /-- The read fails. -/
  | unread {asked reason left} (hprompt : d.performAll state s.prompt = (.ok (), asked))
      (hread : d.read s.mode.asks asked = (.error reason, left)) :
      DispatchedBy ⟨s.prompted, w.shownBy (d.clock left), left, {}, .error (.terminal reason)⟩
  /-- An effect of the answer is refused. -/
  | cut {asked input heard turn reason left s' w' power}
      (hprompt : d.performAll state s.prompt = (.ok (), asked))
      (hread : d.read s.mode.asks asked = (.ok input, heard))
      (hturn : turn = s.prompted.respond (w.shownBy (d.clock heard)) input)
      (hanswer : d.performAll heard turn.effects = (.error reason, left)) :
      DispatchedBy ⟨s', w', left, power, .error (.terminal reason)⟩
  /-- The step is completed. -/
  | answered {asked input heard turn left}
      (hprompt : d.performAll state s.prompt = (.ok (), asked))
      (hread : d.read s.mode.asks asked = (.ok input, heard))
      (hturn : turn = s.prompted.respond (w.shownBy (d.clock heard)) input)
      (hanswer : d.performAll heard turn.effects = (.ok (), left)) :
      DispatchedBy ⟨turn.session, turn.world, left, ⟨turn.request⟩, .ok turn.request⟩

/-- **Every step writes its prompt, reads once and answers.** -/
theorem dispatchOn_by : DispatchedBy d s w state (s.dispatchOn d w state) := by
  have hform : Prompts (ofMode s.mode) s w := ofMode_prompts s.mode
  obtain ⟨halong, answer, hstretch, hanswer⟩ := hform
  unfold dispatchOn
  rcases hprompt : d.performAll state s.prompt with ⟨reason | _, asked⟩
  · obtain ⟨v, hv, hrun⟩ := Program.run_of_refused (Or.inl rfl) halong
      ((congrArg (d.performAll state ·.effects) hstretch).trans hprompt)
    rw [hrun]
    rcases hv with rfl | rfl
    · exact .unasked hprompt (Or.inl rfl)
    · exact .unasked hprompt (Or.inr rfl)
  · rw [Program.run_of_performed
      ((congrArg (d.performAll state ·.effects) hstretch).trans hprompt), hstretch]
    simp only [Program.run_read]
    rcases hread : d.read s.mode.asks asked with ⟨reason | input, heard⟩
    · exact .unread hprompt hread
    · have hturn := hanswer input (d.clock heard)
      rcases hleft : d.performAll heard
          (s.prompted.respond (w.shownBy (d.clock heard)) input).effects with ⟨reason | _, left⟩
      · obtain ⟨v, hrun⟩ := Program.run_of_turn_refused hturn hleft
        simp only [Services.shownBy, hrun]
        exact .cut hprompt hread rfl hleft
      · obtain ⟨v, transition, hrun, heq⟩ := Program.run_of_turn_performed hturn hleft
        simp only [Services.shownBy, hrun]
        exact .answered hprompt hread heq.symm hleft

end Device

/-! ### On a terminal -/

/-- A step on a terminal is told by what the terminal answers to its read. -/
theorem dispatch_eq {σ ε : Type} (t : Terminal σ ε) {s : Session} {state rest : σ}
    {answer : Except ε Input}
    (hread : t.read s.mode.asks (t.performAll state s.prompt) = (answer, rest)) (w : World) :
    s.dispatch t w state =
      let turn := s.step (w.shownBy (t.clock rest)) answer.toOption
      ⟨turn.session, turn.world, t.performAll rest turn.effects, ⟨turn.request⟩,
        (answer.map fun _ => turn.request).mapError .terminal⟩ := by
  have hby := dispatchOn_by t.device s w state
  change DispatchedBy t.device s w state (s.dispatch t w state) at hby
  generalize s.dispatch t w state = d at hby
  cases hby with
  | unasked hprompt => simp [t.performAll_device] at hprompt
  | unread hprompt hfail =>
    obtain rfl : t.performAll state s.prompt = _ := congrArg Prod.snd
      ((t.performAll_device state s.prompt).symm.trans hprompt)
    obtain ⟨rfl, rfl⟩ := Prod.mk.inj (hread.symm.trans hfail)
    rfl
  | cut hprompt hinput hturn hanswer => simp [t.performAll_device] at hanswer
  | answered hprompt hinput hturn hanswer =>
    obtain rfl : t.performAll state s.prompt = _ := congrArg Prod.snd
      ((t.performAll_device state s.prompt).symm.trans hprompt)
    obtain ⟨rfl, rfl⟩ := Prod.mk.inj (hread.symm.trans hinput)
    obtain rfl := congrArg Prod.snd ((t.performAll_device _ _).symm.trans hanswer)
    subst hturn
    rfl

end Session

end ModalConsole
