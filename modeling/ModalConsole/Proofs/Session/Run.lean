import ModalConsole.Proofs.Session.Handlers

/-!
# Runs of a session

A run takes a session through steps. Each step encounters a world and the answer to its read,
which may have failed. The worlds of a run are arbitrary: between two steps time passes and others
may have used the store, so that what holds of all runs holds whatever happens outside of the
session.

* `meet`: one step. `dispatch_eq_meet`: a step on a terminal is one, whatever the terminal.
* `after`: the session that a run leaves. `dispatched_eq_after`: steps on a terminal are a run.
* `requests`: what a run asks the power supply for.
* `Met P`: some step of a run has the property `P`.
* **`after_induction`**: what every step keeps, a run keeps. `met_or_after`: what every step
  without `P` keeps, a run keeps unless it has met `P`.
-/

namespace ModalConsole

/-- What a step finds: the world, and the answer to its read, `none` if the read fails. -/
structure Encounter where
  world : World
  answer : Option Input

namespace Session

/-- What a session makes of an encounter. -/
def meet (s : Session) (x : Encounter) : Turn := s.step x.world x.answer

/-- A step on a terminal is an encounter with what the terminal reads, at the time that its clock
shows then. -/
theorem dispatch_eq_meet {σ ε : Type} (t : Terminal σ ε) (s : Session) (w : World) (state : σ) :
    ∃ (answer : Except ε Input) (clock : Option Timestamp),
      let turn := s.meet ⟨w.shownBy clock, answer.toOption⟩
      (s.dispatch t w state).session = turn.session ∧ (s.dispatch t w state).world = turn.world ∧
      (s.dispatch t w state).outcome = (answer.map fun _ => turn.request).mapError .terminal := by
  rcases hread : t.read s.mode.asks (t.performAll state s.prompt) with ⟨answer, rest⟩
  refine ⟨answer, t.clock rest, ?_⟩
  rw [dispatch_eq t hread w]
  exact ⟨rfl, rfl, rfl⟩

/-! ## Runs -/

/-- The session after a run. -/
def after (s : Session) (xs : List Encounter) : Session :=
  xs.foldl (fun s x => (s.meet x).session) s

/-- The session after a number of steps on a terminal, failed ones included. -/
def dispatched {σ ε : Type} (t : Terminal σ ε) : Nat → Session → World → σ → Session
  | 0, s, _, _ => s
  | n + 1, s, w, state =>
    let d := s.dispatch t w state
    dispatched t n d.session d.world d.terminal

/-- What a run asks the power supply for, in order. -/
def requests : Session → List Encounter → List PowerAction
  | _, [] => []
  | s, x :: xs => (s.meet x).request.toList ++ requests (s.meet x).session xs

/-- Some step of the run has the property, which is one of the session before the step and of
what the step encounters. -/
def Met (P : Session → Encounter → Prop) (s : Session) (xs : List Encounter) : Prop :=
  ∃ before x rest, xs = before ++ x :: rest ∧ P (s.after before) x

variable {s : Session} {xs : List Encounter} {P : Session → Encounter → Prop} {I : Session → Prop}

@[simp] theorem after_nil : s.after [] = s := rfl

@[simp] theorem after_cons (x : Encounter) : s.after (x :: xs) = (s.meet x).session.after xs := rfl

theorem after_append (s : Session) (xs ys : List Encounter) :
    s.after (xs ++ ys) = (s.after xs).after ys := List.foldl_append

theorem after_concat (s : Session) (xs : List Encounter) (x : Encounter) :
    s.after (xs ++ [x]) = ((s.after xs).meet x).session := after_append s xs [x]

theorem met_head {x : Encounter} (h : P s x) : Met P s (x :: xs) := ⟨[], x, xs, rfl, h⟩

theorem met_tail {x : Encounter} (h : Met P (s.meet x).session xs) : Met P s (x :: xs) := by
  obtain ⟨before, y, rest, rfl, hy⟩ := h
  exact ⟨x :: before, y, rest, rfl, hy⟩

theorem met_cons {x : Encounter} : Met P s (x :: xs) ↔ P s x ∨ Met P (s.meet x).session xs := by
  constructor
  · rintro ⟨before, y, rest, hxs, hy⟩
    cases before with
    | nil =>
      obtain ⟨rfl, -⟩ := List.cons.inj hxs
      exact Or.inl hy
    | cons z before =>
      obtain ⟨rfl, rfl⟩ := List.cons.inj hxs
      exact Or.inr ⟨before, y, rest, rfl, hy⟩
  · rintro (hx | hxs)
    · exact met_head hx
    · exact met_tail hxs

theorem met_append (h : Met P s xs) (ys : List Encounter) : Met P s (xs ++ ys) := by
  obtain ⟨before, x, rest, rfl, hx⟩ := h
  exact ⟨before, x, rest ++ ys, by simp, hx⟩

/-- A request of a run is one of a step. -/
theorem met_of_mem_requests {action : PowerAction} (h : action ∈ requests s xs) :
    Met (fun s x => (s.meet x).request = some action) s xs := by
  induction xs generalizing s with
  | nil => cases h
  | cons x xs ih =>
    rcases List.mem_append.mp h with hx | hxs
    · exact met_head (Option.mem_toList.mp hx)
    · exact met_tail (ih hxs)

/-- Steps on a terminal are a run, whatever the terminal. -/
theorem dispatched_eq_after {σ ε : Type} (t : Terminal σ ε) (n : Nat) (s : Session) (w : World)
    (state : σ) : ∃ xs, xs.length = n ∧ dispatched t n s w state = s.after xs := by
  induction n generalizing s w state with
  | zero => exact ⟨[], rfl, rfl⟩
  | succ n ih =>
    obtain ⟨answer, clock, hsession, -, -⟩ := dispatch_eq_meet t s w state
    obtain ⟨xs, hlength, hxs⟩ := ih (s.dispatch t w state).session (s.dispatch t w state).world
      (s.dispatch t w state).terminal
    refine ⟨⟨w.shownBy clock, answer.toOption⟩ :: xs, congrArg (· + 1) hlength, ?_⟩
    rw [after_cons, ← hsession]
    exact hxs

/-- **What every step keeps, a run keeps.** -/
theorem after_induction (step : ∀ s x, I s → I (s.meet x).session) (h : I s)
    (xs : List Encounter) : I (s.after xs) := by
  induction xs generalizing s with
  | nil => exact h
  | cons x xs ih => exact ih (step s x h)

/-- What every step keeps that does not have the property, a run keeps unless it has met it. -/
theorem met_or_after (step : ∀ s x, I s → ¬ P s x → I (s.meet x).session) (h : I s)
    (xs : List Encounter) : Met P s xs ∨ I (s.after xs) := by
  induction xs generalizing s with
  | nil => exact Or.inr h
  | cons x xs ih =>
    by_cases hx : P s x
    · exact Or.inl (met_head hx)
    · exact (ih (step s x h hx)).imp_left met_tail

end Session

end ModalConsole
