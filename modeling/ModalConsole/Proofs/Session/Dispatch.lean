import ModalConsole.Proofs.Session.Run
import ModalConsole.Terminal.Script

/-!
# One step, one read

Whatever a session is doing and whatever its store is like, a step reads once: after the prompt,
and before anything is changed. So nothing but the read can make a step fail, and then there is
nothing to undo.

* `Terminal.performAll_traced`, `dispatch_traced`: the calls that a step makes on a terminal.
* `Input.Answers`, `Script.read_error_iff`: which items a script can answer a read with.
* `dispatch_readsOnce`: what a step on a script comes to. `terminalAfter_script`: what a run takes
  from its script.
* **`step_reads_once`**: both together, with the kind of input that each mode reads.
-/

namespace ModalConsole

/-! ## Calls on a terminal -/

/-- The kind of input that a call reads. -/
def TerminalCall.reads? : TerminalCall → Option InputKind
  | effect _ => none
  | read kind => some kind

/-- The kinds of input that a list of calls reads. -/
def TerminalCall.reads (calls : List TerminalCall) : List InputKind := calls.filterMap reads?

@[simp] theorem TerminalCall.reads_append (calls calls' : List TerminalCall) :
    reads (calls ++ calls') = reads calls ++ reads calls' := List.filterMap_append

@[simp] theorem TerminalCall.reads_read (kind : InputKind) (calls : List TerminalCall) :
    reads (.read kind :: calls) = kind :: reads calls := rfl

@[simp] theorem TerminalCall.reads_effects (effects : List Effect) :
    reads (effects.map .effect) = [] := by
  simp [reads, reads?]

section Traced

variable {σ ε : Type} (t : Terminal σ ε)

theorem Terminal.performAll_traced (state : σ) (calls : List TerminalCall)
    (effects : List Effect) : t.traced.performAll (state, calls) effects =
      (t.performAll state effects, calls ++ effects.map .effect) := by
  induction effects generalizing state calls with
  | nil => simp [performAll]
  | cons effect effects ih =>
    have hrest := ih (t.perform state effect) (calls ++ [.effect effect])
    rw [List.append_assoc] at hrest
    exact hrest

theorem Terminal.read_traced (kind : InputKind) (state : σ) (calls : List TerminalCall) :
    t.traced.read kind (state, calls) =
      ((t.read kind state).1, (t.read kind state).2, calls ++ [.read kind]) := rfl

/-- The calls of a step are those of its prompt, one read and those of its answer. -/
theorem Session.dispatch_traced {s : Session} {state rest : σ} {answer : Except ε Input}
    (hread : t.read s.mode.asks (t.performAll state s.prompt) = (answer, rest)) (w : World)
    (calls : List TerminalCall) :
    s.dispatch t.traced w (state, calls) =
      let turn := s.step (w.shownBy (t.clock rest)) answer.toOption
      ⟨turn.session, turn.world, (t.performAll rest turn.effects, calls ++
        (s.prompt.map .effect ++ .read s.mode.asks :: turn.effects.map .effect)), ⟨turn.request⟩,
        (answer.map fun _ => turn.request).mapError .terminal⟩ := by
  have hread' : t.traced.read s.mode.asks (t.traced.performAll (state, calls) s.prompt) =
      (answer, rest, calls ++ s.prompt.map .effect ++ [.read s.mode.asks]) := by
    rw [t.performAll_traced, t.read_traced, hread]
  rw [dispatch_eq t.traced hread']
  simp only [t.performAll_traced, List.append_assoc, List.singleton_append]
  rfl

end Traced

/-! ## Reading from a script -/

/-- Can an item answer a read of some kind? A key stands in for a pointer frame as well. -/
def Input.Answers (item : Input) (kind : InputKind) : Prop :=
  item.kind = kind ∨ item.kind = .key ∧ kind = .pointer

namespace Script

theorem answer?_eq_none_iff {kind : InputKind} {item : Input} :
    answer? kind item = none ↔ ¬ item.Answers kind := by
  cases kind <;> cases item <;> simp [answer?, Input.Answers, Input.kind]

/-- Effects take no items. -/
theorem items_performAll (script : Script) (effects : List Effect) :
    (terminal.performAll script effects).items = script.items := by
  induction effects generalizing script with
  | nil => rfl
  | cons effect effects ih =>
    have hone : (script.perform effect).items = script.items := by cases effect <;> rfl
    exact (ih (script.perform effect)).trans hone

/-- A read takes the first item, also when it fails. -/
theorem items_read (script : Script) (kind : InputKind) :
    (script.read kind).2.items = script.items.tail := by
  unfold read
  cases hitems : script.items with
  | nil => exact hitems
  | cons item rest =>
    simp only
    split <;> rfl

/-- A read fails without items, and with a first item of the wrong kind. -/
theorem read_error_iff {script : Script} {kind : InputKind} {e : ScriptError} :
    (script.read kind).1 = .error e ↔ script.items = [] ∧ e = .exhausted ∨
      ∃ item, script.items.head? = some item ∧ ¬ item.Answers kind ∧ e = .mismatch kind item := by
  simp only [← answer?_eq_none_iff]
  unfold read
  split
  · rename_i hitems
    simp [hitems, eq_comm]
  · rename_i item rest hitems
    cases hanswer : answer? kind item with
    | none => simp [hitems, hanswer, eq_comm]
    | some answer => simp [hitems, hanswer]

end Script

/-! ## Steps on a script -/

namespace Mode

variable {mode : Mode}

theorem asks_eq_key_iff :
    mode.asks = .key ↔ (∃ selected, mode = .bootMenu selected) ∨ mode = .manual := by
  cases mode <;> simp [asks]

theorem asks_eq_pointer_iff : mode.asks = .pointer ↔ mode = .desktop := by
  cases mode <;> simp [asks]

end Mode

namespace Session

/-- What a step comes to that finds the script, with the calls made before it. -/
structure ReadsOnce (s : Session) (w : World) (script : Script) (calls : List TerminalCall)
    (d : Dispatched (Script × List TerminalCall) ScriptError) : Prop where
  /-- One read is made, after the prompt. If it fails, it is the last call. -/
  calls : ∃ effects, d.terminal.2 =
      calls ++ (s.prompt.map .effect ++ .read s.mode.asks :: effects.map .effect) ∧
    ((∃ e, d.outcome = .error e) → effects = [])
  items : d.terminal.1.items = script.items.tail
  /-- Only the script and the kind of the read decide whether the step fails. -/
  fails : ∀ e, d.outcome = .error e ↔ script.items = [] ∧ e = .terminal .exhausted ∨
    ∃ item, script.items.head? = some item ∧ ¬ item.Answers s.mode.asks ∧
      e = .terminal (.mismatch s.mode.asks item)
  /-- A step that fails uses up the notice of the manual and changes nothing else. -/
  unchanged : (∃ e, d.outcome = .error e) →
    d.session = { s with notice := d.session.notice } ∧
    (d.session.notice = s.notice ∨ s.mode = .manual ∧ d.session.notice = none) ∧ d.world = w ∧
    d.power = {}

theorem notice_prompted (s : Session) :
    s.prompted.notice = s.notice ∨ s.mode = .manual ∧ s.prompted.notice = none := by
  by_cases hmode : s.mode = .manual
  · exact Or.inr ⟨hmode, if_pos hmode⟩
  · exact Or.inl (if_neg hmode)

theorem outcome_eq_error_iff {ε : Type} {answer : Except ε Input}
    {request : Option PowerAction} {e : Failure ε} :
    (answer.map fun _ => request).mapError .terminal = .error e ↔
      ∃ reason, answer = .error reason ∧ e = .terminal reason := by
  cases answer <;> simp [Except.map, eq_comm]

theorem dispatch_readsOnce (s : Session) (w : World) (script : Script)
    (calls : List TerminalCall) :
    s.ReadsOnce w script calls (s.dispatch Script.terminal.traced w (script, calls)) := by
  rcases hread : Script.terminal.read s.mode.asks (Script.terminal.performAll script s.prompt) with
    ⟨answer, rest⟩
  -- the read is made on the script as the prompt leaves it, which has the same items
  have hitems := Script.items_performAll script s.prompt
  have hrest : rest.items = script.items.tail := by
    rw [← hitems, ← Script.items_read _ s.mode.asks]
    exact congrArg (·.2.items) hread.symm
  have hanswer : ∀ e, answer = .error e ↔ script.items = [] ∧ e = .exhausted ∨
      ∃ item, script.items.head? = some item ∧ ¬ item.Answers s.mode.asks ∧
        e = .mismatch s.mode.asks item := by
    intro e
    rw [← hitems, ← Script.read_error_iff]
    rw [show (Script.read s.mode.asks (Script.terminal.performAll script s.prompt)).1 = answer from
      congrArg (·.1) hread]
  have hfails : ∀ (request : Option PowerAction) (e : Failure ScriptError),
      (answer.map fun _ => request).mapError .terminal = .error e ↔
        script.items = [] ∧ e = .terminal .exhausted ∨
          ∃ item, script.items.head? = some item ∧ ¬ item.Answers s.mode.asks ∧
            e = .terminal (.mismatch s.mode.asks item) := by
    intro request e
    simp only [outcome_eq_error_iff, hanswer]
    constructor
    · rintro ⟨reason, ⟨hnone, rfl⟩ | ⟨item, hhead, hwrong, rfl⟩, rfl⟩
      · exact Or.inl ⟨hnone, rfl⟩
      · exact Or.inr ⟨item, hhead, hwrong, rfl⟩
    · rintro (⟨hnone, rfl⟩ | ⟨item, hhead, hwrong, rfl⟩)
      · exact ⟨_, Or.inl ⟨hnone, rfl⟩, rfl⟩
      · exact ⟨_, Or.inr ⟨item, hhead, hwrong, rfl⟩, rfl⟩
  rw [dispatch_traced _ hread]
  cases answer with
  | error reason =>
    exact
      { calls := ⟨[], rfl, fun _ => rfl⟩
        items := hrest
        fails := hfails none
        unchanged := fun _ => ⟨rfl, notice_prompted s, rfl, rfl⟩ }
  | ok input =>
    exact
      { calls := ⟨_, rfl, fun hfails => nomatch hfails.choose_spec⟩
        items := (Script.items_performAll rest _).trans hrest
        fails := hfails _
        unchanged := fun hfails => nomatch hfails.choose_spec }

/-- The terminal after a number of steps. -/
def terminalAfter {σ ε : Type} (t : Terminal σ ε) : Nat → Session → World → σ → σ
  | 0, _, _, state => state
  | n + 1, s, w, state =>
    let d := s.dispatch t w state
    terminalAfter t n d.session d.world d.terminal

theorem terminalAfter_script (n : Nat) (s : Session) (w : World) (script : Script)
    (calls : List TerminalCall) :
    let left := terminalAfter Script.terminal.traced n s w (script, calls)
    left.1.items = script.items.drop n ∧
      (TerminalCall.reads left.2).length = (TerminalCall.reads calls).length + n := by
  induction n generalizing s w script calls with
  | zero => exact ⟨rfl, rfl⟩
  | succ n ih =>
    have hone := dispatch_readsOnce s w script calls
    obtain ⟨effects, hcalls, -⟩ := hone.calls
    have hreads : TerminalCall.reads
        (s.dispatch Script.terminal.traced w (script, calls)).terminal.2 =
        TerminalCall.reads calls ++ [s.mode.asks] := by
      rw [hcalls]
      simp
    obtain ⟨hitems, hlength⟩ := ih (s.dispatch Script.terminal.traced w (script, calls)).session
      (s.dispatch Script.terminal.traced w (script, calls)).world
      (s.dispatch Script.terminal.traced w (script, calls)).terminal.1
      (s.dispatch Script.terminal.traced w (script, calls)).terminal.2
    refine ⟨hitems.trans ?_, hlength.trans ?_⟩
    · rw [hone.items, List.drop_tail]
    · rw [hreads, List.length_append, List.length_singleton]
      omega

/-- **One step, one read.** Each mode reads its own kind of input. On any device, one that refuses
whatever it likes, a step writes its prompt, makes that one read and answers; it fails only if the
device refuses a call, and changes nothing before the read. A step on a script, which refuses no
effect, takes at most one item and fails only if no item answers the read, whatever the world is
like; then nothing is changed. A run makes as many reads as it takes steps. -/
theorem step_reads_once :
    (∀ mode : Mode,
      (mode.asks = .key ↔ (∃ selected, mode = .bootMenu selected) ∨ mode = .manual) ∧
      (mode.asks = .pointer ↔ mode = .desktop)) ∧
    (∀ {σ ε : Type} (d : Device σ ε) (s : Session) (w : World) (state : σ),
      DispatchedBy d s w state (s.dispatchOn d w state)) ∧
    (∀ (s : Session) (w : World) (script : Script) (calls : List TerminalCall),
      s.ReadsOnce w script calls (s.dispatch Script.terminal.traced w (script, calls))) ∧
    ∀ (n : Nat) (s : Session) (w : World) (script : Script) (calls : List TerminalCall),
      let left := terminalAfter Script.terminal.traced n s w (script, calls)
      left.1.items = script.items.drop n ∧
        (TerminalCall.reads left.2).length = (TerminalCall.reads calls).length + n :=
  ⟨fun _ => ⟨Mode.asks_eq_key_iff, Mode.asks_eq_pointer_iff⟩, dispatchOn_by, dispatch_readsOnce,
    terminalAfter_script⟩

end Session

end ModalConsole
