import ModalConsole.Proofs.Session.Accounts

/-!
# What a step leaves alone

All modes share one session, but each of them keeps to its own parts of it.

* `Part`: the parts that the modes share. `Touches`: the steps that may change a part.
* `Move.frame`: a move changes no part that it does not touch. `frame_or_touched`: a run changes
  no part that none of its steps touches, whatever modes it enters and leaves.
* `step_blank`: blank lines are counted one by one. `Move.store_frame`: only saving the game writes.
* `step_of_refuses`: what is refused changes nothing at all.
* **`step_confined`**: all of them together.
-/

namespace ModalConsole

/-- The parts of a session that its modes share. -/
inductive Part where
  /-- The settings and the time of the start. -/
  | settings
  | accounts
  | economy
  | activation
  /-- The pager of the manual, with its notice. -/
  | manual
  | desktop
  | blankLines

/-- Do two sessions agree in a part? -/
def Part.Same (s s' : Session) : Part → Prop
  | settings => s'.settings = s.settings ∧ s'.startedAt = s.startedAt
  | accounts => s'.accounts = s.accounts
  | economy => s'.economy = s.economy
  | activation => s'.activation = s.activation
  | manual => s'.pager = s.pager ∧ s'.notice = s.notice
  | desktop => s'.desktop = s.desktop
  | blankLines => s'.blankLines = s.blankLines

theorem Part.Same.refl (s : Session) (part : Part) : part.Same s s := by
  cases part with
  | settings | manual => exact ⟨rfl, rfl⟩
  | _ => rfl

theorem Part.Same.trans {s s' s'' : Session} {part : Part} (h : part.Same s s')
    (h' : part.Same s' s'') : part.Same s s'' := by
  cases part with
  | settings | manual => exact ⟨h'.1.trans h.1, h'.2.trans h.2⟩
  | _ => exact Eq.trans h' h

/-- The commands of the game. -/
def gameCommands : List String :=
  ["bal", "balance", "data", "shop", "buy", "tutorial", "guides", "exit"]

namespace Session

/-- Is a blank line typed at the shell, one that begins with a space or has only blanks? -/
def TypesBlank (s : Session) (answer : Option Input) : Prop :=
  s.mode = .shell ∧ ∃ typed, answer = some (.line typed) ∧
    (typed.toList.head? = some ' ' ∨ ∀ c ∈ typed.toList, Text.isBlank c = true)

/-- Is a product key managed at the shell? -/
def TypesKeyCommand (s : Session) (answer : Option Input) : Prop :=
  ∃ line, s.Types .shell answer line ∧ line.head = "productman"

/-- Is the product key of the shop bought in the game? -/
def BuysKey (s : Session) (answer : Option Input) : Prop :=
  ∃ line id, s.Types .game answer line ∧ line.head = "buy" ∧ line.arg? 0 = some id ∧
    isKeyUpgrade id = true

/-- Is the game saved? -/
def SavesGame (s : Session) (answer : Option Input) : Prop :=
  ∃ line, s.Types .game answer line ∧ line.head = "data" ∧ line.arg? 0 = some "save"

/-- Is a command refused: at the shell by the table, or in the game because it is unknown or its
upgrade cannot be bought? -/
def Refuses (s : Session) (answer : Option Input) : Prop :=
  (∃ line e, s.Types .shell answer line ∧
    Builtin.table.resolve line s.accounts.current = .error e) ∨
  (∃ line, s.Types .game answer line ∧ line.head ∉ gameCommands) ∨
  ∃ line id e, s.Types .game answer line ∧ line.head = "buy" ∧ line.arg? 0 = some id ∧
    id ≠ "mod" ∧ s.economy.buy id = .error e

/-- May a step change a part? -/
def Touches (s : Session) (answer : Option Input) : Part → Prop
  | .settings => False
  | .accounts => s.mode.isLogin = true ∨ (∃ name, s.TypesSwitch answer name) ∨
      ∃ target, s.mode = .switchPassword target
  | .economy => s.mode = .game
  | .activation => s.mode = .productKey ∨ s.TypesKeyCommand answer ∨ s.BuysKey answer
  | .manual => s.mode = .manual ∨
      ∃ line, s.Types .shell answer line ∧ line.head ∈ ["knowledge", "man"]
  | .desktop => s.mode = .desktop
  | .blankLines => s.TypesBlank answer

variable {s s' : Session} {w w' : World} {answer : Option Input} {request : Option PowerAction}
  {typed : String} {line : CommandLine}

/-! ## Parts -/

theorem AccountsMove.frame {a : Accounts} (h : AccountsMove s answer a) :
    s.Touches answer .accounts ∨ a = s.accounts := by
  cases h with
  | keep => exact Or.inr rfl
  | login hmode => exact Or.inl (Or.inl hmode)
  | switch hmode => exact Or.inl (Or.inr hmode)
  | back hprv => exact Or.inl (Or.inr (Or.inl ⟨_, hprv⟩))

theorem Move.economy_frame (h : Move s w answer s' w' request) :
    s.Touches answer .economy ∨ s'.economy = s.economy := by
  cases h with
  | earn hmode | useModMenu hmode | load hmode | buy hmode | buyKey hmode => exact Or.inl hmode
  | _ => exact Or.inr rfl

theorem typesKeyCommand_of_runs (hmode : s.mode = .shell) (hline : commandOf typed = some line)
    (hruns : line.Runs s.accounts.current .productman) :
    s.TypesKeyCommand (some (.line typed)) := by
  have hnames : Builtin.names .productman = ["productman"] := by decide
  exact ⟨line, ⟨hmode, typed, rfl, hline⟩, head_eq_of_runs hline hruns hnames⟩

theorem buysKey_of_buy {id : String} {u : Upgrade} {economy : Economy} (hmode : s.mode = .game)
    (hline : commandOf typed = some line) (hhead : line.head = "buy")
    (harg : line.arg? 0 = some id) (hbuy : s.economy.buy id = .ok (u, economy))
    (hu : u.effect = .productKey) : s.BuysKey (some (.line typed)) := by
  refine ⟨line, id, ⟨hmode, typed, rfl, hline⟩, hhead, harg, ?_⟩
  simp [isKeyUpgrade, findUpgrade_of_buy hbuy, hu]

theorem Move.activation_frame (h : Move s w answer s' w' request) :
    s.Touches answer .activation ∨ s'.activation = s.activation := by
  cases h with
  | redeem hmode => exact Or.inl (Or.inl hmode)
  | deactivate hmode hline hruns | unlock hmode hline hruns =>
    exact Or.inl (Or.inr (Or.inl (typesKeyCommand_of_runs hmode hline hruns)))
  | buyKey hmode hline hhead harg hbuy hu =>
    exact Or.inl (Or.inr (Or.inr (buysKey_of_buy hmode hline hhead harg hbuy hu)))
  | _ => exact Or.inr rfl

theorem Move.manual_frame (h : Move s w answer s' w' request) :
    s.Touches answer .manual ∨ s'.pager = s.pager ∧ s'.notice = s.notice := by
  have hnames : Builtin.names .knowledge = ["knowledge", "man"] := by decide
  cases h with
  | stay =>
    by_cases hmode : s.mode = .manual
    · exact Or.inl (Or.inl hmode)
    · rw [prompted_of_ne hmode]
      exact Or.inr ⟨rfl, rfl⟩
  | turnPages hmode | note hmode | closeManual hmode => exact Or.inl (Or.inl hmode)
  | openManual hmode hline hruns =>
    exact Or.inl (Or.inr ⟨_, ⟨hmode, _, rfl, hline⟩, hnames ▸ head_of_runs hline hruns⟩)
  | _ => exact Or.inr ⟨rfl, rfl⟩

theorem Move.desktop_frame (h : Move s w answer s' w' request) :
    s.Touches answer .desktop ∨ s'.desktop = s.desktop := by
  cases h with
  | point hmode | leaveDesktop hmode => exact Or.inl hmode
  | _ => exact Or.inr rfl

theorem Move.blankLines_frame (h : Move s w answer s' w' request) :
    s.Touches answer .blankLines ∨ s'.blankLines = s.blankLines := by
  cases h with
  | blank hmode hblank => exact Or.inl ⟨hmode, _, rfl, commandOf_eq_none_iff.mp hblank⟩
  | _ => exact Or.inr rfl

/-- **A move changes no part that it does not touch.** -/
theorem Move.frame (h : Move s w answer s' w' request) (part : Part) :
    s.Touches answer part ∨ part.Same s s' := by
  cases part with
  | settings => exact Or.inr ⟨h.settings_eq, by cases h <;> rfl⟩
  | accounts => exact h.accounts.frame
  | economy => exact h.economy_frame
  | activation => exact h.activation_frame
  | manual => exact h.manual_frame
  | desktop => exact h.desktop_frame
  | blankLines => exact h.blankLines_frame

/-- A run changes no part that none of its steps touches. -/
theorem frame_or_touched (s : Session) (xs : List Encounter) (part : Part) :
    Met (fun s x => s.Touches x.answer part) s xs ∨ part.Same s (s.after xs) := by
  have step : ∀ (s' : Session) (x : Encounter), part.Same s s' → ¬ s'.Touches x.answer part →
      part.Same s (s'.meet x).session := by
    intro s' x hs htouches
    exact Part.Same.trans hs (((step_moves s' x.world x.answer).frame part).resolve_left htouches)
  exact met_or_after (I := (part.Same s ·)) step (Part.Same.refl s part) xs

/-! ## Blank lines -/

theorem step_blank (h : s.TypesBlank answer) :
    (s.step w answer).session = { s with blankLines := s.blankLines + 1 } := by
  obtain ⟨hmode, typed, rfl, hblank⟩ := h
  rw [step_shell hmode, shellLine, commandOf_eq_none_iff.mpr hblank]
  rfl

/-! ## The world -/

/-- Saving the game is one write, under the path of the settings. -/
theorem Move.store_frame (h : Move s w answer s' w' request) : w'.store = w.store ∨
    s.SavesGame answer ∧
      w'.store = (w.store.write s.settings.gameFile s.economy.record).1 := by
  cases h with
  | save hmode hline hhead harg =>
    exact Or.inr ⟨⟨_, ⟨hmode, _, rfl, hline⟩, hhead, harg⟩, rfl⟩
  | _ => exact Or.inl rfl

/-- Random words are drawn by a boot and for a product key. -/
theorem Move.words_frame (h : Move s w answer s' w' request) : w'.words = w.words ∨
    (∃ selected, s.mode = .bootMenu selected) ∨ s.TypesKeyCommand answer ∨ s.BuysKey answer := by
  cases h with
  | boot hmode => exact Or.inr (Or.inl ⟨_, hmode⟩)
  | unlock hmode hline hruns =>
    exact Or.inr (Or.inr (Or.inl (typesKeyCommand_of_runs hmode hline hruns)))
  | buyKey hmode hline hhead harg hbuy hu =>
    exact Or.inr (Or.inr (Or.inr (buysKey_of_buy hmode hline hhead harg hbuy hu)))
  | _ => exact Or.inl rfl

/-! ## Refused commands -/

/-- What is refused only writes. -/
theorem step_of_refuses (w : World) (h : s.Refuses answer) :
    ∃ effects, s.step w answer = s.say w effects := by
  rcases h with ⟨line, e, ⟨hmode, typed, rfl, hline⟩, he⟩ |
    ⟨line, ⟨hmode, typed, rfl, hline⟩, hhead⟩ |
    ⟨line, id, e, ⟨hmode, typed, rfl, hline⟩, hhead, harg, hmod, he⟩
  · rw [step_shell hmode, shellLine, hline]
    simp only [runCommand, he]
    exact ⟨_, rfl⟩
  · rw [step_game hmode, gameLine, hline]
    simp only [gameCommands, List.mem_cons, List.not_mem_nil, or_false, not_or] at hhead
    simp only [runGameCommand, hhead, decide_false, Bool.or_self, Bool.false_eq_true, if_false]
    exact ⟨_, rfl⟩
  · rw [step_game hmode, gameLine, hline]
    have hbuy : s.runGameCommand w line = s.buyUpgrade w id := by
      simp [runGameCommand, hhead, harg, buy, hmod]
    simp only [hbuy, buyUpgrade, he]
    split
    · exact ⟨_, rfl⟩
    · exact ⟨_, rfl⟩

/-! ## Every step -/

/-- What a step leaves alone. -/
structure Confined (s : Session) (x : Encounter) : Prop where
  frame : ∀ part, s.Touches x.answer part ∨ part.Same s (s.meet x).session
  blank : s.TypesBlank x.answer → (s.meet x).session.blankLines = s.blankLines + 1
  store : (s.meet x).world.store = x.world.store ∨ s.SavesGame x.answer ∧
    (s.meet x).world.store = (x.world.store.write s.settings.gameFile s.economy.record).1
  words : (s.meet x).world.words = x.world.words ∨
    (∃ selected, s.mode = .bootMenu selected) ∨ s.TypesKeyCommand x.answer ∨ s.BuysKey x.answer
  now : (s.meet x).world.now = x.world.now
  refused : s.Refuses x.answer →
    (s.meet x).session = s ∧ (s.meet x).world = x.world ∧ (s.meet x).request = none

/-- **Every step keeps to its own part of the session and of the world**, and a run, whatever modes
it enters and leaves, loses nothing of a part that none of its steps is about. -/
theorem step_confined : (∀ (s : Session) (x : Encounter), s.Confined x) ∧
    ∀ (s : Session) (xs : List Encounter) (part : Part),
      Met (fun s x => s.Touches x.answer part) s xs ∨ part.Same s (s.after xs) := by
  refine ⟨fun s x => ?_, frame_or_touched⟩
  have hmove := step_moves s x.world x.answer
  exact
    { frame := hmove.frame
      blank := fun h => congrArg Session.blankLines (step_blank h)
      store := hmove.store_frame
      words := hmove.words_frame
      now := hmove.now_eq
      refused := fun h => by
        obtain ⟨effects, heffects⟩ := step_of_refuses x.world h
        rw [meet, heffects]
        exact ⟨rfl, rfl, rfl⟩ }

end Session

end ModalConsole
