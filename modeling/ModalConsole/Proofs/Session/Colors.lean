import ModalConsole.Proofs.Session.Dispatch
import ModalConsole.Proofs.Session.ModeGraph

/-!
# The colours that a session leaves behind

Every answer that changes the colours of the terminal changes them back, so between two steps they
depend on the mode alone: white on blue at the boot menu, white on black everywhere else.

* `Colors.after`: the colours after some effects. `Mode.colors`: those that belong to a mode.
* `Turn.Tidy`: what the turn writes leaves white on black as it was. One lemma for each part of a
  session; only the boot menu has other colours, and a boot ends with white on black.
* **`colors_step`**: after a step, its reads failed or not, the colours are those of the mode.
* **`colors_follow_mode`**: so they are on a script, after every run that has taken a step.
-/

namespace ModalConsole

/-- The colours that text is written in, `none` for one that was never set. -/
structure Colors where
  foreground : Option Color
  background : Option Color
  deriving DecidableEq

namespace Colors

/-- White on black. -/
def standard : Colors := ⟨some .white, some .black⟩

/-- The colours after an effect. -/
def perform (c : Colors) : Effect → Colors
  | .foreground color => { c with foreground := some color }
  | .background color => { c with background := some color }
  | _ => c

/-- The colours after some effects. -/
def after (c : Colors) (effects : List Effect) : Colors := effects.foldl perform c

section After

variable (c : Colors)

@[simp] theorem after_nil : c.after [] = c := rfl

@[simp] theorem after_cons (e : Effect) (effects : List Effect) :
    c.after (e :: effects) = (c.perform e).after effects := rfl

@[simp] theorem after_append (effects effects' : List Effect) :
    c.after (effects ++ effects') = (c.after effects).after effects' := List.foldl_append

@[simp] theorem perform_text (content : String) : c.perform (.text content) = c := rfl

@[simp] theorem perform_clear : c.perform .clear = c := rfl

@[simp] theorem perform_pause (time : Nat) : c.perform (.pause time) = c := rfl

@[simp] theorem perform_randomPause (limit time : Nat) : c.perform (.randomPause limit time) = c :=
  rfl

@[simp] theorem perform_present (scene : Scene) : c.perform (.present scene) = c := rfl

@[simp] theorem after_line (content : String) : c.after (Effect.line content) = c := rfl

@[simp] theorem after_lines (contents : List String) : c.after (Effect.lines contents) = c := by
  induction contents with
  | nil => rfl
  | cons content contents ih => exact ih

@[simp] theorem after_resetColors : c.after Effect.resetColors = standard := rfl

/-- A coloured line goes back to white. -/
@[simp] theorem after_coloredLine (color : Color) (content : String) :
    standard.after (Effect.coloredLine color content) = standard := rfl

end After

end Colors

namespace Mode

/-- The background that belongs to a mode. -/
def background : Mode → Color
  | bootMenu _ => .blue
  | _ => .black

/-- The colours that belong to a mode. -/
def colors (mode : Mode) : Colors := ⟨some .white, some mode.background⟩

theorem colors_of_ne {mode : Mode} (h : ∀ n, mode ≠ bootMenu n) : mode.colors = .standard := by
  cases mode with
  | bootMenu selected => exact absurd rfl (h selected)
  | _ => rfl

end Mode

/-- What the turn writes leaves white on black as it was. -/
def Turn.Tidy (t : Turn) : Prop := Colors.standard.after t.effects = .standard

namespace Session

variable {s : Session} {w : World} {typed : String} {line : CommandLine}

@[simp] theorem tidy_say {effects : List Effect} :
    (s.say w effects).Tidy ↔ Colors.standard.after effects = .standard := Iff.rfl

/-! ## Logging in -/

theorem logIn_tidy (identity : Identity) (credential : Option String) (target : BootTarget) :
    (s.logIn w identity credential target).Tidy := by
  unfold logIn
  split <;> simp

theorem nameLine_tidy (target : BootTarget) : (s.nameLine w target typed).Tidy := by
  unfold nameLine
  split
  · simp
  · split
    · simp
    · exact logIn_tidy _ _ _

/-! ## The rescue console -/

theorem rescueLine_tidy : (s.rescueLine w typed).Tidy := by
  unfold rescueLine
  simp only
  split_ifs <;> simp

/-! ## Users -/

theorem switchUser_tidy (argument : Option String) : (s.switchUser w argument).Tidy := by
  unfold switchUser
  split
  · simp
  · split
    · unfold switchBack
      split <;> simp
    · unfold switchTo
      split
      · simp
      · split_ifs
        · simp
        · simp
        · split <;> simp

theorem switchPasswordLine_tidy (target : Identity) :
    (s.switchPasswordLine w target typed).Tidy := by
  unfold switchPasswordLine
  split
  · simp
  · simp
  · split <;> simp

/-! ## Product keys -/

theorem unlock_tidy : (s.unlock w).Tidy := by
  unfold unlock
  rcases Activation.unlock w.words with ⟨key, activation, words⟩
  exact Colors.after_lines _ _

theorem manageKey_tidy : (s.manageKey w line).Tidy := by
  unfold manageKey
  split_ifs
  · split <;> simp
  · simp
  · exact unlock_tidy
  · simp

theorem productKeyLine_tidy : (s.productKeyLine w typed).Tidy := by
  unfold productKeyLine
  split <;> simp

/-! ## The manual -/

theorem consultManual_tidy (topic : Option String) : (s.consultManual w topic).Tidy := by
  cases topic with
  | none => exact Colors.after_nil _
  | some name =>
    simp only [consultManual]
    split
    · exact Colors.after_nil _
    · simp

theorem manualKey_tidy (key : Key) : (s.manualKey w key).Tidy := by
  unfold manualKey
  split <;> simp

/-! ## The game -/

theorem buy_tidy (id : Option String) : (s.buy w id).Tidy := by
  cases id with
  | none => simp [buy]
  | some id =>
    simp only [buy, buyUpgrade, handOver]
    split_ifs
    · simp
    · simp
    · split
      · split_ifs <;> simp
      · simp

theorem gameLine_tidy : (s.gameLine w typed).Tidy := by
  unfold gameLine
  split
  · unfold runGameCommand gameData teach showShop
    split_ifs
    · simp
    · unfold saveGame
      simp only [tidy_say]
      split <;> simp
    · exact Colors.after_line _ _
    · simp
    · simp
    · simp
    · exact buy_tidy _
    · simp
    · simp
    · simp
    · simp
  · exact Colors.after_line _ _

/-! ## Commands of the shell -/

theorem helpEffects_tidy (argument : String) :
    Colors.standard.after (helpEffects argument) = .standard := by
  unfold helpEffects
  split_ifs
  · simp
  · simp
  · split
    · split_ifs <;> simp
    · simp

/-- The splash has colours of its own and goes back. -/
theorem splashEffects_tidy (settings : Settings) (keep : Bool) :
    Colors.standard.after (splashEffects settings keep) = .standard := by
  cases keep <;> simp [splashEffects]

theorem removeEffects_tidy (line : CommandLine) :
    Colors.standard.after (removeEffects line) = .standard := by
  unfold removeEffects
  simp only
  split_ifs <;> simp

theorem runBuiltin_tidy (b : Builtin) : (s.runBuiltin w line b).Tidy := by
  cases b with
  | help => exact helpEffects_tidy _
  | grub => exact splashEffects_tidy _ _
  | productman => exact manageKey_tidy
  | su => exact switchUser_tidy _
  | knowledge => exact consultManual_tidy _
  | remove => exact removeEffects_tidy _
  | infofetch => exact Colors.after_lines _ _
  -- the others write lines, some of them coloured
  | _ => rfl

theorem runCommand_tidy : (s.runCommand w line).Tidy := by
  unfold runCommand
  split
  · exact runBuiltin_tidy _
  · simp

theorem shellLine_tidy : (s.shellLine w typed).Tidy := by
  unfold shellLine
  split
  · exact runCommand_tidy
  · exact Colors.after_nil _

/-! ## The desktop -/

theorem leaveDesktop_tidy (command : Option String) : (s.leaveDesktop w command).Tidy := by
  unfold leaveDesktop
  split
  · simp
  · rename_i line _
    have hcommand : (s.runCommand w line).Tidy := runCommand_tidy
    simpa [Turn.Tidy] using hcommand

theorem desktopFrame_tidy (frame : PointerFrame) : (s.desktopFrame w frame).Tidy := by
  unfold desktopFrame
  rcases s.desktop.frame frame with ⟨desktop, action⟩
  cases action with
  | idle | toggled => exact Colors.after_nil _
  | leave | activate => exact leaveDesktop_tidy _

/-! ## The boot menu -/

/-- A boot goes back to white on black, whatever the colours were. -/
theorem boot_colors (c : Colors) (target : BootTarget) :
    c.after (s.boot w target).effects = (s.boot w target).session.mode.colors := by
  simp [boot, enter, Mode.colors, Mode.background, Colors.standard]

theorem menuKey_colors {selected : Nat} (hmode : s.mode = .bootMenu selected) (key : Key) :
    s.mode.colors.after (s.menuKey w selected key).effects =
      (s.menuKey w selected key).session.mode.colors := by
  have hstay : ∀ n, s.mode.colors = (s.enter (.bootMenu n)).mode.colors := fun n => by
    rw [hmode]
    rfl
  unfold menuKey
  cases key with
  | up | down => exact hstay _
  | enter => exact boot_colors _ _
  | char c =>
    simp only
    split
    · exact boot_colors _ _
    · rfl
  | _ => rfl

/-! ## Every step -/

/-- The colours that the next prompt can start from: any colours at the boot menu, which sets its
own. -/
def StartsFrom (s : Session) (c : Colors) : Prop := c = .standard ∨ ∃ n, s.mode = .bootMenu n

theorem startsFrom_mode (s : Session) : s.StartsFrom s.mode.colors := by
  by_cases hmenu : ∃ n, s.mode = .bootMenu n
  · exact Or.inr hmenu
  · exact Or.inl (Mode.colors_of_ne fun n hn => hmenu ⟨n, hn⟩)

theorem prompt_colors (s : Session) {c : Colors} (h : s.StartsFrom c) :
    c.after s.prompt = s.mode.colors := by
  rcases h with rfl | ⟨n, hmode⟩
  · unfold prompt
    cases hmode : s.mode with
    | bootMenu selected =>
      simp [Mode.colors, Mode.background, menuScreen, Colors.perform]
    | manual => simp [Mode.colors_of_ne]
    | _ => rfl
  · simp [prompt, hmode, Mode.colors, Mode.background, menuScreen, Colors.perform]

theorem respond_tidy (hmode : ∀ n, s.mode ≠ .bootMenu n) (input : Input) :
    (s.respond w input).Tidy := by
  cases input with
  | line typed =>
    simp only [respond, respondLine]
    split
    · exact nameLine_tidy _
    · exact logIn_tidy _ _ _
    · exact rescueLine_tidy
    · exact gameLine_tidy
    · exact shellLine_tidy
    · exact switchPasswordLine_tidy _
    · exact productKeyLine_tidy
    · simp
  | key key =>
    simp only [respond, respondKey]
    split
    · exact absurd (by assumption) (hmode _)
    · exact manualKey_tidy key
    · simp
  | pointer frame =>
    simp only [respond, respondPointer]
    split
    · exact desktopFrame_tidy frame
    · simp

/-- **The colours after a step are those of its mode**, whether its read fails or not. -/
theorem colors_step (s : Session) (w : World) (answer : Option Input) {c : Colors}
    (h : s.StartsFrom c) :
    c.after (s.prompt ++ (s.step w answer).effects) = (s.step w answer).session.mode.colors := by
  rw [Colors.after_append, prompt_colors s h]
  by_cases hmenu : ∃ n, s.mode = .bootMenu n
  · obtain ⟨n, hmode⟩ := hmenu
    cases answer with
    | none => rfl
    | some input =>
      rw [step_eq_respond hmode nofun]
      cases input with
      | key key =>
        simp only [respond, respondKey, hmode]
        rw [← hmode]
        exact menuKey_colors hmode key
      | line typed => simp [respond, respondLine, hmode, say]
      | pointer frame => simp [respond, respondPointer, hmode, say]
  · have hmode : ∀ n, s.mode ≠ .bootMenu n := fun n hn => hmenu ⟨n, hn⟩
    have hmode' : ∀ n, (s.step w answer).session.mode ≠ .bootMenu n :=
      leaves_menu_after hmode [⟨w, answer⟩]
    rw [Mode.colors_of_ne hmode, Mode.colors_of_ne hmode']
    cases answer with
    | none => rfl
    | some input => exact respond_tidy (s := s.prompted) hmode input

end Session

/-! ## On a script -/

namespace Script

/-- The colours that a script was told last. -/
def colors (script : Script) : Colors := ⟨script.foreground, script.background⟩

theorem colors_performAll (script : Script) (effects : List Effect) :
    (terminal.performAll script effects).colors = script.colors.after effects := by
  induction effects generalizing script with
  | nil => rfl
  | cons effect effects ih =>
    have hone : (script.perform effect).colors = script.colors.perform effect := by
      cases effect <;> rfl
    rw [Colors.after_cons, ← hone]
    exact ih (script.perform effect)

theorem colors_read (script : Script) (kind : InputKind) :
    (script.read kind).2.colors = script.colors := by
  unfold read
  split
  · rfl
  · simp only
    split <;> rfl

theorem colors_queue (script : Script) (items : List Input) :
    (items.foldl push script).colors = script.colors := by
  induction items generalizing script with
  | nil => rfl
  | cons item items ih => exact ih (script.push item)

end Script

namespace Session

/-- What happens outside of a session before a step on a script: the world becomes what the step
finds, and items are added to the script. -/
structure Interlude where
  world : World
  items : List Input

/-- A step on a script after an interlude: the session and the script that it leaves. -/
def scriptedStep (s : Session) (script : Script) (x : Interlude) : Session × Script :=
  let d := s.dispatch Script.terminal x.world (x.items.foldl Script.push script)
  (d.session, d.terminal)

/-- Steps on a script, each of them after an interlude. -/
def scripted (s : Session) (script : Script) (xs : List Interlude) : Session × Script :=
  xs.foldl (fun (s, script) x => s.scriptedStep script x) (s, script)

theorem colors_scriptedStep (s : Session) {script : Script} (x : Interlude)
    (h : s.StartsFrom script.colors) :
    (s.scriptedStep script x).2.colors = (s.scriptedStep script x).1.mode.colors := by
  have hqueue := Script.colors_queue script x.items
  rcases hread : Script.terminal.read s.mode.asks
    (Script.terminal.performAll (x.items.foldl Script.push script) s.prompt) with ⟨answer, rest⟩
  have hrest : rest.colors = script.colors.after s.prompt := by
    have hsnd : rest.colors = _ := (congrArg (·.2.colors) hread).symm
    rw [hsnd, ← hqueue, ← Script.colors_performAll]
    exact Script.colors_read _ _
  have hstep := colors_step s x.world answer.toOption h
  simp only [scriptedStep, dispatch_eq Script.terminal hread]
  rw [Script.colors_performAll, hrest, ← Colors.after_append]
  exact hstep

theorem startsFrom_scripted {s : Session} {script : Script} (h : s.StartsFrom script.colors)
    (xs : List Interlude) :
    (s.scripted script xs).1.StartsFrom (s.scripted script xs).2.colors := by
  induction xs generalizing s script with
  | nil => exact h
  | cons x xs ih =>
    have hstep := startsFrom_mode (s.scriptedStep script x).1
    rw [← colors_scriptedStep s x h] at hstep
    exact ih hstep

/-- **The colours follow the mode.** After any number of steps on a script, but for none at all,
the last foreground set is white, and the last background is blue at the boot menu and black in
every other mode, whatever the script was told before the session, whatever is read and whatever
fails to be read. -/
theorem colors_follow_mode (settings : Settings) (now : Timestamp) (script : Script)
    (xs : List Interlude) (x : Interlude) :
    let left := (start settings now).scripted script (xs ++ [x])
    left.2.foreground = some .white ∧ left.2.background = some left.1.mode.background := by
  intro left
  have hmenu : (start settings now).StartsFrom script.colors := Or.inr ⟨0, rfl⟩
  have hbefore := startsFrom_scripted hmenu xs
  have hlast : left = ((start settings now).scripted script xs).1.scriptedStep
      ((start settings now).scripted script xs).2 x := List.foldl_append
  have hcolors : left.2.colors = left.1.mode.colors := by
    rw [hlast]
    exact colors_scriptedStep _ x hbefore
  exact ⟨congrArg Colors.foreground hcolors, congrArg Colors.background hcolors⟩

end Session

end ModalConsole
