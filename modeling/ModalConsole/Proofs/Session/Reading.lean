import Mathlib.Data.List.Induction
import Mathlib.Data.List.Infix
import ModalConsole.Proofs.Manual.Leaving
import ModalConsole.Proofs.Session.Dispatch
import ModalConsole.Proofs.Session.ModeGraph

/-!
# Reading the manual

A visit of the manual begins with a command at the shell and lasts until a key leaves the pager. The
pager outlives its visits, and the notice is kept beside it: it is set after a key and drawn before
the next read. What a frame shows is nevertheless settled by the visit alone.

* `Pager.notice?_press_eq_some_iff`: the only key with a notice ends an unknown command.
* `Session.meet_of_manual`: a step in the manual feeds its key, if it reads one, to the pager.
* `Session.Visits`: the steps of a visit so far. `Visits.opened`: how it began. `exists_visits`: the
  manual is seen in visits only.
* `Visits.pager_eq`, `Visits.notice_eq_some_iff`: the pager has had the keys of the visit, and the
  notice is about the last step of it.
* **`frames_of_visit`**: the calls on a terminal with every step of every visit.
-/

namespace ModalConsole

open Text

/-! ## Notices -/

/-- The line to show that a key asks for. -/
def PagerEvent.notice? : PagerEvent → Option String
  | .notice text => some text
  | _ => none

namespace Pager

variable {p : Pager} {key : Key} {text : String}

/-- A key ends a typed command that is not known. -/
def EndsUnknown (p : Pager) (key : Key) : Prop :=
  key = .enter ∧ ∃ buffer, p.mode = .typing buffer ∧ trim buffer ≠ "exit".toList

theorem notice?_typeKey_eq_some_iff {buffer : List Char} :
    (p.typeKey buffer key).2.notice? = some text ↔
      text = "Unknown command." ∧ key = .enter ∧ trim buffer ≠ "exit".toList := by
  cases key with
  | enter =>
    rw [typeKey, exitCommand]
    split_ifs with hexit
    · simp [PagerEvent.notice?, hexit]
    · refine ⟨fun h => ⟨(Option.some.inj h).symm, rfl, hexit⟩, ?_⟩
      rintro ⟨rfl, -, -⟩
      rfl
  | _ => simp [typeKey, PagerEvent.notice?]

/-- **Only the end of an unknown command has a notice.** -/
theorem notice?_press_eq_some_iff :
    (p.press key).2.notice? = some text ↔ text = "Unknown command." ∧ p.EndsUnknown key := by
  unfold EndsUnknown
  cases hmode : p.mode with
  | viewing => simp [press_of_viewing hmode, PagerEvent.notice?]
  | locked => simp [press_of_locked hmode, PagerEvent.notice?]
  | leaving =>
    rw [press_of_leaving hmode]
    split_ifs <;> simp [PagerEvent.notice?]
  | typing buffer =>
    rw [press_of_typing hmode, notice?_typeKey_eq_some_iff]
    simp

end Pager

/-! ## One step in the manual -/

/-- The key that a step reads, if it reads one. -/
def Encounter.key? (x : Encounter) : Option Key :=
  match x.answer with
  | some (.key key) => some key
  | _ => none

/-- The keys that some steps read. -/
def Encounter.keys (xs : List Encounter) : List Key := xs.filterMap key?

theorem Encounter.keys_concat (xs : List Encounter) (x : Encounter) :
    keys (xs ++ [x]) = keys xs ++ x.key?.toList := by
  rw [keys, keys, List.filterMap_append]
  cases hkey : x.key? <;> simp [hkey]

namespace Session

variable {s : Session} {x : Encounter} {xs : List Encounter} {key : Key}

/-- A step that reads no key draws a frame and uses the notice up. -/
theorem meet_of_manual_none (hmode : s.mode = .manual) (hkey : x.key? = none) :
    s.meet x = { s with notice := none }.say x.world [] := by
  obtain ⟨w, answer⟩ := x
  have hprompted := prompted_of_manual hmode
  rcases answer with _ | typed | key | frame
  · rw [meet, step, hprompted]
  · rw [meet, step, hprompted, respond, respondLine]
    simp only [hmode]
  · cases hkey
  · rw [meet, step, hprompted, respond, respondPointer]
    simp only [hmode]

theorem meet_of_manual (hmode : s.mode = .manual) (hkey : x.key? = some key) :
    s.meet x = { s with notice := none }.manualKey x.world key := by
  obtain ⟨w, answer⟩ := x
  rcases answer with _ | typed | pressed | frame
  · cases hkey
  · cases hkey
  · obtain rfl := Option.some.inj hkey
    exact step_manual hmode pressed
  · cases hkey

/-- What a key does in the manual. -/
theorem manualKey_eq (s : Session) (w : World) (key : Key) :
    { s with notice := none }.manualKey w key =
      if (s.pager.press key).2 = .leave then
        { s with pager := (s.pager.press key).1, notice := none, mode := .shell }.say w [.clear]
      else
        { s with
          pager := (s.pager.press key).1
          notice := (s.pager.press key).2.notice? }.say w [] := by
  unfold manualKey
  rcases hpress : s.pager.press key with ⟨pager, event⟩
  cases event <;> rfl

/-! ## Visits -/

/-- The steps of a visit so far: one step at the shell has opened the manual, and none has left it
since. -/
structure Visits (s : Session) (opening : Encounter) (steps : List Encounter) : Prop where
  shell : s.mode = .shell
  stays : ∀ before, before <+: steps → (s.after (opening :: before)).mode = .manual

variable {opening : Encounter} {steps : List Encounter}

theorem Visits.mode (h : s.Visits opening steps) : (s.after (opening :: steps)).mode = .manual :=
  h.stays steps (List.prefix_refl steps)

theorem Visits.of_concat (h : s.Visits opening (steps ++ [x])) : s.Visits opening steps :=
  ⟨h.shell, fun before hbefore => h.stays before (hbefore.trans (List.prefix_append steps [x]))⟩

/-- A visit goes on with every step that stays in the manual. -/
theorem Visits.concat (h : s.Visits opening steps)
    (hmode : (s.after (opening :: (steps ++ [x]))).mode = .manual) :
    s.Visits opening (steps ++ [x]) := by
  refine ⟨h.shell, fun before hbefore => ?_⟩
  rcases List.prefix_concat_iff.mp hbefore with rfl | hbefore
  · exact hmode
  · exact h.stays before hbefore

/-- Only the shell leads into the manual. -/
theorem shell_of_opens (hmode : s.mode ≠ .manual) (hopens : (s.meet x).session.mode = .manual) :
    s.mode = .shell := by
  rcases meet_leads s x with hsame | hleads
  · exact absurd (hsame.symm.trans hopens) hmode
  · rw [hopens] at hleads
    generalize s.mode = m at hleads
    generalize hm' : Mode.manual = m' at hleads
    cases hleads with
    | openManual => rfl
    | logIn target | logInWith identity target => cases target <;> cases hm'
    | _ => cases hm'

/-- **The manual is seen in visits only.** -/
theorem exists_visits (hstart : s.mode ≠ .manual) (xs : List Encounter)
    (hmode : (s.after xs).mode = .manual) : ∃ before opening steps,
      xs = before ++ opening :: steps ∧ (s.after before).Visits opening steps := by
  induction xs using List.reverseRecOn with
  | nil => exact absurd hmode hstart
  | append_singleton xs x ih =>
    by_cases hbefore : (s.after xs).mode = .manual
    · -- the visit goes on
      obtain ⟨before, opening, steps, rfl, hvisits⟩ := ih hbefore
      refine ⟨before, opening, steps ++ [x], by simp, hvisits.concat ?_⟩
      rw [← after_append, ← List.cons_append, ← List.append_assoc]
      exact hmode
    · -- a visit begins
      rw [after_concat] at hmode
      refine ⟨xs, x, [], rfl, shell_of_opens hbefore hmode, fun before hprefix => ?_⟩
      rw [List.prefix_nil.mp hprefix]
      exact hmode

/-! ## The beginning of a visit -/

variable {s' : Session} {w w' : World} {answer : Option Input} {request : Option PowerAction}

/-- The manual is opened by its command. -/
theorem Move.runs_knowledge (h : Move s w answer s' w' request) (hmode : s.mode = .shell)
    (hopens : s'.mode = .manual) : ∃ typed line, answer = some (.line typed) ∧
      commandOf typed = some line ∧ line.Runs s.accounts.current .knowledge := by
  cases h with
  | openManual _ hline hruns => exact ⟨_, _, rfl, hline, hruns⟩
  | stay | blank | switchBack | switchUser | deactivate | unlock | power =>
    cases hmode.symm.trans hopens
  | visit _ _ hvisit => rcases hvisit with rfl | rfl | rfl <;> cases hopens
  | logOut | askSwitch | askKey => cases hopens
  | _ => simp_all only [reduceCtorEq]

/-- **A visit begins with the command for it**, at the topic that is asked for and without a
notice. -/
theorem Visits.opened (h : s.Visits opening steps) : ∃ line, s.Types .shell opening.answer line ∧
    line.head ∈ ["knowledge", "man"] ∧ (s.meet opening).session =
      { s with
        pager := s.pager.openAt ((line.arg? 0).map lowered)
        notice := none
        mode := .manual } := by
  obtain ⟨w, answer⟩ := opening
  have hopens : (s.meet ⟨w, answer⟩).session.mode = .manual := h.stays [] List.nil_prefix
  obtain ⟨typed, line, rfl, hline, hruns⟩ :=
    (step_moves s w answer).runs_knowledge h.shell hopens
  have hnames : Builtin.names .knowledge = ["knowledge", "man"] := by decide
  refine ⟨line, ⟨h.shell, typed, rfl, hline⟩, hnames ▸ head_of_runs hline hruns, ?_⟩
  obtain ⟨spec, hspec, haction⟩ := hruns
  have hstep : s.meet ⟨w, some (.line typed)⟩ = s.consultManual w (line.arg? 0) := by
    rw [meet, step_shell h.shell, shellLine, hline]
    simp only [runCommand, hspec, haction, runBuiltin]
  rw [hstep] at hopens ⊢
  cases harg : line.arg? 0 with
  | none => rfl
  | some argument =>
    rw [harg, consultManual] at hopens
    rw [consultManual]
    split_ifs with htopic
    · rfl
    · rw [if_neg htopic] at hopens
      cases h.shell.symm.trans hopens

/-! ## The steps of a visit -/

/-- A step of a visit feeds its key, if it reads one, to the pager, and leaves its notice. -/
theorem meet_of_stays (hmode : s.mode = .manual) (hstays : (s.meet x).session.mode = .manual) :
    (s.meet x).session.pager = s.pager.pressAll x.key?.toList ∧
      ∀ text, (s.meet x).session.notice = some text ↔
        text = "Unknown command." ∧ ∃ key, x.key? = some key ∧ s.pager.EndsUnknown key := by
  cases hkey : x.key? with
  | none =>
    rw [meet_of_manual_none hmode hkey]
    exact ⟨rfl, fun text => iff_of_false nofun nofun⟩
  | some key =>
    rw [meet_of_manual hmode hkey, manualKey_eq] at hstays ⊢
    split_ifs at hstays ⊢ with hleave
    · cases hstays
    · refine ⟨rfl, fun text => ?_⟩
      simp only [Option.some.injEq, exists_eq_left']
      exact Pager.notice?_press_eq_some_iff

/-- **The pager has had the keys of the visit.** -/
theorem Visits.pager_eq (h : s.Visits opening steps) :
    (s.after (opening :: steps)).pager =
      (s.meet opening).session.pager.pressAll (Encounter.keys steps) := by
  induction steps using List.reverseRecOn with
  | nil => rfl
  | append_singleton steps x ih =>
    have hmode := h.mode
    rw [← List.cons_append, after_concat] at hmode ⊢
    rw [(meet_of_stays h.of_concat.mode hmode).1, ih h.of_concat, ← Pager.pressAll_append,
      Encounter.keys_concat]

/-- **The notice is about the last step**, and tells that it has ended an unknown command. -/
theorem Visits.notice_eq_some_iff (h : s.Visits opening steps) {text : String} :
    (s.after (opening :: steps)).notice = some text ↔ text = "Unknown command." ∧
      ∃ before last key, steps = before ++ [last] ∧ last.key? = some key ∧
        ((s.meet opening).session.pager.pressAll (Encounter.keys before)).EndsUnknown key := by
  rcases List.eq_nil_or_concat steps with rfl | ⟨before, last, rfl⟩
  · obtain ⟨line, -, -, hopened⟩ := h.opened
    rw [after_cons, after_nil, hopened]
    exact iff_of_false nofun (by simp)
  · rw [List.concat_eq_append] at h ⊢
    have hmode := h.mode
    rw [← List.cons_append, after_concat] at hmode ⊢
    rw [(meet_of_stays h.of_concat.mode hmode).2, h.of_concat.pager_eq]
    refine and_congr Iff.rfl ⟨?_, ?_⟩
    · rintro ⟨key, hkey, hends⟩
      exact ⟨before, last, key, rfl, hkey, hends⟩
    · rintro ⟨before', last', key, hconcat, hkey, hends⟩
      obtain ⟨rfl, rfl⟩ := List.append_singleton_inj.mp hconcat
      exact ⟨key, hkey, hends⟩

/-! ## Frames -/

theorem prompt_of_manual (hmode : s.mode = .manual) :
    s.prompt = .clear :: Effect.lines (s.pager.render ++ s.notice.toList) := by
  rw [prompt, hmode, Effect.lines, Effect.lines, Effect.lines, List.flatMap_append]
  rfl

/-- After its read, a step in the manual writes nothing, unless its key leaves. -/
theorem effects_of_manual (hmode : s.mode = .manual) (x : Encounter) :
    (s.meet x).effects = [] ∨
      (s.meet x).effects = [.clear] ∧ (s.meet x).session.mode = .shell := by
  cases hkey : x.key? with
  | none =>
    rw [meet_of_manual_none hmode hkey]
    exact Or.inl rfl
  | some key =>
    rw [meet_of_manual hmode hkey, manualKey_eq]
    split_ifs
    · exact Or.inr ⟨rfl, rfl⟩
    · exact Or.inl rfl

/-- **Every frame shows the pager and the notice of the step before.** Take any visit of the manual,
after any steps of it; in a session that has been started, the manual is seen in visits only. The
visit has begun with its command, which has opened the pager. Whatever the terminal, the next step
empties the screen, writes line by line what the pager renders after the keys of the visit, and then
a notice iff the last step has ended an unknown command; only then does it read a key. After the
read it writes nothing, but a key that leaves empties the screen.

A step whose read fails has a frame of its own, and the notice is not shown a second time. -/
theorem frames_of_visit :
    (∀ (settings : Settings) (now : Timestamp) (xs : List Encounter),
      ((start settings now).after xs).mode = .manual → ∃ before opening steps,
        xs = before ++ opening :: steps ∧
          ((start settings now).after before).Visits opening steps) ∧
    ∀ (s : Session) (opening : Encounter) (steps : List Encounter), s.Visits opening steps →
      let opened := (s.meet opening).session.pager
      let pager := opened.pressAll (Encounter.keys steps)
      (∃ line, s.Types .shell opening.answer line ∧ line.head ∈ ["knowledge", "man"] ∧
        opened = s.pager.openAt ((line.arg? 0).map lowered)) ∧
      ∃ notice : Option String,
        (∀ text, notice = some text ↔ text = "Unknown command." ∧
          ∃ before last key, steps = before ++ [last] ∧ last.key? = some key ∧
            (opened.pressAll (Encounter.keys before)).EndsUnknown key) ∧
        ∀ {σ ε : Type} (t : Terminal σ ε) (w : World) (state : σ) (calls : List TerminalCall),
          let d := (s.after (opening :: steps)).dispatch t.traced w (state, calls)
          ∃ effects, d.terminal.2 = calls ++
            ((.clear :: Effect.lines (pager.render ++ notice.toList)).map .effect ++
              .read .key :: effects.map .effect) ∧
            (effects = [] ∨ effects = [.clear] ∧ d.session.mode = .shell) := by
  refine ⟨fun settings now xs =>
    exists_visits (show Mode.bootMenu 0 ≠ .manual from nofun) xs, fun s opening steps h => ?_⟩
  intro opened pager
  obtain ⟨line, htypes, hhead, hopened⟩ := h.opened
  have hpager : (s.after (opening :: steps)).pager = pager := h.pager_eq
  refine ⟨⟨line, htypes, hhead, congrArg Session.pager hopened⟩,
    (s.after (opening :: steps)).notice, fun text => h.notice_eq_some_iff,
    fun t w state calls => ?_⟩
  intro d
  have hasks : (s.after (opening :: steps)).mode.asks = .key := by rw [h.mode]; rfl
  rcases hread : t.read (s.after (opening :: steps)).mode.asks
    (t.performAll state (s.after (opening :: steps)).prompt) with ⟨answer, rest⟩
  refine ⟨((s.after (opening :: steps)).step (w.shownBy (t.clock rest)) answer.toOption).effects,
    ?_, ?_⟩
  · rw [← hpager, ← prompt_of_manual h.mode, ← hasks]
    exact congrArg (·.terminal.2) (dispatch_traced t hread w calls)
  · have hsession := congrArg (·.session) (dispatch_traced t hread w calls)
    rw [show d.session = _ from hsession]
    exact effects_of_manual h.mode ⟨w.shownBy (t.clock rest), answer.toOption⟩

/-- An unknown command is typed into the pager, and the next frame says so. -/
theorem frames_of_visit_unknown :
    let w : World := ⟨.memory [], ⟨[], 0⟩, ⟨0, 0⟩⟩
    let s := (start {} ⟨0, 0⟩).after [⟨w, some (.key .enter)⟩, ⟨w, some (.line "user")⟩]
    let opening : Encounter := ⟨w, some (.line "man grub")⟩
    let steps : List Encounter :=
      [⟨w, some (.key (.char 'c'))⟩, ⟨w, some (.key (.char 'x'))⟩, ⟨w, some (.key .enter)⟩]
    let pager := (s.meet opening).session.pager.pressAll (Encounter.keys steps)
    s.Visits opening steps ∧ pager.page = 2 ∧ pager.mode = .typing [] ∧
      ∀ {σ ε : Type} (t : Terminal σ ε) (state : σ) (calls : List TerminalCall),
        let d := (s.after (opening :: steps)).dispatch t.traced w (state, calls)
        ∃ effects : List Effect, d.terminal.2 = calls ++
          ((.clear :: Effect.lines (pager.render ++ ["Unknown command."])).map .effect ++
            .read .key :: effects.map .effect) := by
  intro w s opening steps pager
  have hstays : ∀ before ∈ steps.inits, (s.after (opening :: before)).mode = .manual := by
    decide +kernel
  have hvisits : s.Visits opening steps :=
    ⟨by decide, fun before hbefore => hstays before ((List.mem_inits before steps).mpr hbefore)⟩
  obtain ⟨-, notice, hnotice, hframe⟩ := frames_of_visit.2 s opening steps hvisits
  have hunknown : notice = some "Unknown command." :=
    (hnotice _).mpr ⟨rfl, steps.dropLast, ⟨w, some (.key .enter)⟩, .enter, rfl, rfl, rfl,
      ['x'], by decide +kernel, by decide⟩
  subst hunknown
  refine ⟨hvisits, by decide +kernel, by decide +kernel, fun t state calls => ?_⟩
  obtain ⟨effects, hcalls, -⟩ := hframe t w state calls
  exact ⟨effects, hcalls⟩

end Session

end ModalConsole
