import Mathlib.Data.List.Induction
import ModalConsole.Proofs.Session.Dispatch
import ModalConsole.Proofs.Session.Move

/-!
# Runs of a session that has its world to itself

A stage is a session in its world. From outside come only the time and the answers to the reads;
the store and the random words are what the steps before have left of them.

* `Stage.turn`, `Stage.next`, `Stage.after`: one step, the stage after it and after a run.
* `Stage.calls`: the calls that a step makes on a terminal. `dispatch_stage`: a step on any terminal
  makes these calls.
* `Stage.Met`: some step of a run has a property.
-/

namespace ModalConsole

/-- A session in its world. -/
structure Stage where
  session : Session
  world : World

/-- What a step is given from outside: the time, and the answer to its read, `none` if the read
fails. -/
structure Cue where
  now : Timestamp
  answer : Option Input

namespace Stage

/-- A new session. -/
def start (settings : Settings) (store : Store) (words : RandomWords) (now : Timestamp) : Stage :=
  ⟨.start settings now, ⟨store, words, now⟩⟩

/-- What the session makes of a cue. -/
def turn (r : Stage) (x : Cue) : Turn := r.session.step { r.world with now := x.now } x.answer

/-- The stage after a step. -/
def next (r : Stage) (x : Cue) : Stage := ⟨(r.turn x).session, (r.turn x).world⟩

/-- The stage after a run. -/
def after (r : Stage) (xs : List Cue) : Stage := xs.foldl next r

/-- The calls that a step makes on a terminal. -/
def calls (r : Stage) (x : Cue) : List TerminalCall :=
  r.session.prompt.map .effect ++ .read r.session.mode.asks :: (r.turn x).effects.map .effect

/-- Some step of the run has the property, which is one of the session before the step and of the
answer to its read. -/
def Met (P : Session → Option Input → Prop) (r : Stage) (xs : List Cue) : Prop :=
  ∃ before x rest, xs = before ++ x :: rest ∧ P (r.after before).session x.answer

variable {r : Stage} {x : Cue} {xs : List Cue} {P : Session → Option Input → Prop}

/-- A step on a terminal makes the calls of the stage, whatever the terminal answers and its clock
shows. -/
theorem dispatch_stage {σ ε : Type} (t : Terminal σ ε) (r : Stage) (state : σ)
    (calls : List TerminalCall) : ∃ (answer : Except ε Input) (now : Timestamp),
      let x : Cue := ⟨now, answer.toOption⟩
      let d := r.session.dispatch t.traced r.world (state, calls)
      (⟨d.session, d.world⟩ : Stage) = r.next x ∧ d.terminal.2 = calls ++ r.calls x ∧
        d.outcome = (answer.map fun _ => (r.turn x).request).mapError .terminal := by
  rcases hread : t.read r.session.mode.asks (t.performAll state r.session.prompt) with
    ⟨answer, rest⟩
  refine ⟨answer, (t.clock rest).getD r.world.now, ?_⟩
  rw [Session.dispatch_traced t hread]
  exact ⟨rfl, rfl, rfl⟩

theorem after_concat (r : Stage) (xs : List Cue) (x : Cue) :
    r.after (xs ++ [x]) = (r.after xs).next x := List.foldl_append

theorem turn_settings (r : Stage) (x : Cue) : (r.turn x).session.settings = r.session.settings :=
  (Session.step_moves r.session _ x.answer).settings_eq

theorem after_settings (r : Stage) (xs : List Cue) :
    (r.after xs).session.settings = r.session.settings := by
  induction xs using List.reverseRecOn with
  | nil => rfl
  | append_singleton xs x ih =>
    rw [after_concat]
    exact (turn_settings (r.after xs) x).trans ih

theorem met_concat (h : r.Met P xs) (x : Cue) : r.Met P (xs ++ [x]) := by
  obtain ⟨before, y, rest, rfl, hy⟩ := h
  exact ⟨before, y, rest ++ [x], by simp, hy⟩

theorem met_last (h : P (r.after xs).session x.answer) : r.Met P (xs ++ [x]) :=
  ⟨xs, x, [], rfl, h⟩

end Stage

end ModalConsole
