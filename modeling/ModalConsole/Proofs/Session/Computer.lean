import ModalConsole.Proofs.Session.Economy
import ModalConsole.Proofs.Storage.Store

/-!
# What outlasts a session

A computer is a session at work on a store. A restart begins a new session on the same store, with
the same settings, so that nothing of a session outlasts it but what it has saved.

* `Computer`, `Event`, `after`: computers, and what can happen to them.
* `meet_store_cases`, `after_store`: only saving the game changes the store.
* `meet_sound`, `after_sound`: the economy keeps to its rules, so that its record can be read back
  while the balance is finite.
* **`load_after_save`**: what has been saved is loaded, however much happens in between.
-/

namespace ModalConsole

/-- A record that has been written is loaded. -/
theorem Economy.load_of_save {e : Economy} {store store' : Store} {path : String}
    (hvalid : e.isValid = true) (h : e.save store path = (store', none)) :
    load store' path = e := by
  simp only [load, Store.read_of_write h, ofRecord_record, hvalid, if_true]

/-! ## Deciding what is typed -/

namespace Session

/-- The command line that the answer to a read has the session run in the given mode. -/
def typed? (s : Session) (mode : Mode) : Option Input → Option CommandLine
  | some (.line typed) => if s.mode = mode then commandOf typed else none
  | _ => none

theorem typed?_eq_some_iff {s : Session} {mode : Mode} {answer : Option Input}
    {line : CommandLine} : s.typed? mode answer = some line ↔ s.Types mode answer line := by
  unfold typed? Types
  split
  · split_ifs with hmode
    · simp [hmode]
    · simp [hmode]
  · rename_i hline
    simp only [reduceCtorEq, false_iff]
    rintro ⟨-, typed, hanswer, -⟩
    exact hline typed hanswer

instance decidableTypes (s : Session) (mode : Mode) (answer : Option Input)
    (P : CommandLine → Prop) [DecidablePred P] :
    Decidable (∃ line, s.Types mode answer line ∧ P line) :=
  decidable_of_iff (∃ line ∈ s.typed? mode answer, P line) <| by
    simp only [Option.mem_def, typed?_eq_some_iff]

instance (s : Session) (answer : Option Input) : Decidable (s.SavesGame answer) :=
  inferInstanceAs (Decidable (∃ line, s.Types .game answer line ∧ _))

instance (s : Session) (answer : Option Input) : Decidable (s.LoadsGame answer) :=
  inferInstanceAs (Decidable (∃ line, s.Types .game answer line ∧ _))

end Session

/-! ## Computers -/

/-- A session at work on a store. -/
structure Computer where
  session : Session
  store : Store

namespace Computer

/-- What can happen to a computer. -/
inductive Event where
  /-- A step of the session, with the random words and the time that it finds and the answer to its
  read. -/
  | step (words : RandomWords) (now : Timestamp) (answer : Option Input)
  /-- A new session with the settings of the old one. -/
  | restart (now : Timestamp)

/-- The computer after an event. -/
def meet (c : Computer) : Event → Computer
  | .step words now answer =>
    let turn := c.session.step ⟨c.store, words, now⟩ answer
    ⟨turn.session, turn.world.store⟩
  | .restart now => ⟨.start c.session.settings now, c.store⟩

/-- The computer after a sequence of events. -/
def after (c : Computer) (events : List Event) : Computer := events.foldl meet c

/-- Does an event save the game? -/
def Saves (c : Computer) : Event → Prop
  | .step _ _ answer => c.session.SavesGame answer
  | .restart _ => False

/-- Does an event load the game? -/
def Loads (c : Computer) : Event → Prop
  | .step _ _ answer => c.session.LoadsGame answer
  | .restart _ => False

/-- Does no event of a sequence save the game? -/
def NeverSaves : Computer → List Event → Prop
  | _, [] => True
  | c, event :: events => ¬ c.Saves event ∧ (c.meet event).NeverSaves events

instance (c : Computer) : (event : Event) → Decidable (c.Saves event)
  | .step _ _ answer => inferInstanceAs (Decidable (c.session.SavesGame answer))
  | .restart _ => inferInstanceAs (Decidable False)

instance (c : Computer) : (event : Event) → Decidable (c.Loads event)
  | .step _ _ answer => inferInstanceAs (Decidable (c.session.LoadsGame answer))
  | .restart _ => inferInstanceAs (Decidable False)

instance decidableNeverSaves : (c : Computer) → (events : List Event) →
    Decidable (c.NeverSaves events)
  | _, [] => isTrue trivial
  | c, event :: events =>
    have := decidableNeverSaves (c.meet event) events
    inferInstanceAs (Decidable (¬ c.Saves event ∧ (c.meet event).NeverSaves events))

variable {c : Computer} {event : Event} {events : List Event}

/-! ## One event -/

theorem meet_settings (c : Computer) (event : Event) :
    (c.meet event).session.settings = c.session.settings := by
  cases event with
  | step words now answer => exact (Session.step_moves c.session _ answer).settings_eq
  | restart now => rfl

theorem meet_sound (h : c.session.economy.Sound) (event : Event) :
    (c.meet event).session.economy.Sound := by
  cases event with
  | step words now answer =>
    rcases (Session.step_moves c.session ⟨c.store, words, now⟩ answer).economy with
      hsame | ⟨d, hdeal, -⟩
    · rw [meet, hsame]
      exact h
    · rw [meet, hdeal]
      exact (h.deal_and_grown d).1
  | restart now => exact Economy.sound_initial

/-- Nothing is written but the record of a game that is saved. -/
theorem meet_store_cases (c : Computer) (event : Event) :
    (c.meet event).store = c.store ∨ c.Saves event ∧ (c.meet event).store =
      (c.session.economy.save c.store c.session.settings.gameFile).1 := by
  cases event with
  | step words now answer =>
    exact (Session.step_moves c.session ⟨c.store, words, now⟩ answer).store_frame
  | restart now => exact Or.inl rfl

theorem meet_store (h : ¬ c.Saves event) : (c.meet event).store = c.store :=
  (meet_store_cases c event).resolve_right fun hsaves => h hsaves.1

/-- A store in memory stays one. -/
theorem meet_memory (h : ∃ files, c.store = .memory files) (event : Event) :
    ∃ files, (c.meet event).store = .memory files := by
  obtain ⟨files, hfiles⟩ := h
  rcases meet_store_cases c event with hsame | ⟨-, hwrite⟩
  · exact ⟨files, hsame.trans hfiles⟩
  · rw [hwrite, Economy.save, hfiles, Store.write_memory]
    exact ⟨_, rfl⟩

theorem meet_of_saves (h : c.Saves event) : (c.meet event).store =
    (c.session.economy.save c.store c.session.settings.gameFile).1 := by
  cases event with
  | step words now answer =>
    rw [meet, Session.step_of_saves _ h]
    rfl
  | restart now => exact absurd h id

theorem meet_of_loads (h : c.Loads event) : (c.meet event).session.economy =
    Economy.load c.store c.session.settings.gameFile := by
  cases event with
  | step words now answer =>
    rw [meet, Session.step_of_loads _ h]
    rfl
  | restart now => exact absurd h id

/-! ## Sequences of events -/

/-- What every event keeps, every sequence of events keeps. -/
theorem after_induction {I : Computer → Prop} (step : ∀ c event, I c → I (c.meet event))
    (h : I c) (events : List Event) : I (c.after events) := by
  induction events generalizing c with
  | nil => exact h
  | cons event events ih => exact ih (step c event h)

theorem after_settings (c : Computer) (events : List Event) :
    (c.after events).session.settings = c.session.settings :=
  after_induction (I := fun c' => c'.session.settings = c.session.settings)
    (fun c' event h => (meet_settings c' event).trans h) rfl events

theorem after_sound (h : c.session.economy.Sound) (events : List Event) :
    (c.after events).session.economy.Sound :=
  after_induction (I := fun c => c.session.economy.Sound) (fun _ event h => meet_sound h event) h
    events

theorem after_memory (h : ∃ files, c.store = .memory files) (events : List Event) :
    ∃ files, (c.after events).store = .memory files :=
  after_induction (I := fun c => ∃ files, c.store = .memory files)
    (fun _ event h => meet_memory h event) h events

theorem after_store (h : c.NeverSaves events) : (c.after events).store = c.store := by
  induction events generalizing c with
  | nil => rfl
  | cons event events ih => exact (ih h.2).trans (meet_store h.1)

/-! ## Saving and loading -/

/-- A save that is not refused can be loaded until the next save. -/
theorem load_of_saves {save load : Event} (hsound : c.session.economy.Sound)
    (hfinite : c.session.economy.balance.isFinite = true) (hsave : c.Saves save)
    (hwritten : (c.session.economy.save c.store c.session.settings.gameFile).2 = none)
    (hevents : (c.meet save).NeverSaves events)
    (hload : ((c.meet save).after events).Loads load) :
    (((c.meet save).after events).meet load).session.economy = c.session.economy := by
  rw [meet_of_loads hload, after_store hevents, after_settings, meet_settings,
    meet_of_saves hsave]
  exact Economy.load_of_save (hsound.isValid hfinite) (Prod.ext rfl hwritten)

/-- **What has been saved is loaded.** Take any sequence of events, restarts among them, on a store
in memory, or on another one that does not refuse the save. If the game is saved while the balance
is finite, then loading it gives the same economy, in the same session or a later one and whatever
has happened in between, as long as it is not saved again. -/
theorem load_after_save (settings : Settings) (store : Store) (now : Timestamp)
    (before between : List Event) (save load : Event) :
    let saving := (Computer.mk (.start settings now) store).after before
    let loading := (saving.meet save).after between
    saving.Saves save → saving.session.economy.balance.isFinite = true →
    ((∃ files, store = .memory files) ∨
      (saving.session.economy.save saving.store settings.gameFile).2 = none) →
    (saving.meet save).NeverSaves between → loading.Loads load →
      (loading.meet load).session.economy = saving.session.economy := by
  intro saving loading hsave hfinite hstore hbetween hload
  have hsettings : saving.session.settings = settings := after_settings _ before
  have hwritten : (saving.session.economy.save saving.store settings.gameFile).2 = none := by
    rcases hstore with hmemory | hwritten
    · obtain ⟨files, hfiles⟩ := after_memory (c := ⟨.start settings now, store⟩) hmemory before
      rw [hfiles, Economy.save, Store.write_memory]
    · exact hwritten
  exact load_of_saves (after_sound Economy.sound_initial before) hfinite hsave
    (hsettings ▸ hwritten) hbetween hload

/-- A line is typed. -/
def typing (line : String) : Event := .step ⟨[], 0⟩ ⟨0, 0⟩ (some (.line line))

/-- A boot that ends in the game. -/
def bootToGame : List Event :=
  [.step ⟨[], 0⟩ ⟨0, 0⟩ (some (.key .enter)), typing "user", typing "game1"]

/-- A coin that has been earned and saved is there after a restart. -/
theorem load_after_restart :
    let saving := (Computer.mk (.start {} ⟨0, 0⟩) (.memory [])).after (bootToGame ++ [typing ""])
    let loading := (saving.meet (typing "data save")).after (.restart ⟨0, 0⟩ :: bootToGame)
    saving.session.economy.balance = .one ∧
      (loading.meet (typing "data load")).session.economy = saving.session.economy := by
  refine ⟨by decide +kernel, load_after_save {} (.memory []) ⟨0, 0⟩ (bootToGame ++ [typing ""])
    (.restart ⟨0, 0⟩ :: bootToGame) (typing "data save") (typing "data load") ?_ ?_ ?_ ?_ ?_⟩
  · decide +kernel
  · decide +kernel
  · exact Or.inl ⟨[], rfl⟩
  · decide +kernel
  · decide +kernel

end Computer

end ModalConsole
