import ModalConsole.Proofs.Host.Run
import ModalConsole.Proofs.Session.Power

/-!
# Sessions come to an end

Sessions follow one another without a bound, but every step that does not end them takes events from
the queue, and nobody puts events back. So they end: with the first step that leaves a shutdown
pending, or with a read that finds no event.

* `Seat.Runs`: the steps of a run and what it leaves, whatever their number. `runs_seats`: `seats`
  and `ended` are those of a run.
* `Seat.taken`, `Seat.Interrupted`: the events that a step takes, and whether there is an interrupt
  among them.
* `Seat.Accounted`: what becomes of the events at a step, and why a shutdown is pending after it.
  `accounted`: this holds of every step.
* **`runs_to_shutdown_or_end`**: every run ends, after how many steps, and which way.
-/

namespace ModalConsole

/-- The same read on a host with the same events and the same latch. -/
theorem Host.Takes.of_same {α : Type} {dismissed : α → Prop} {events : List HostEvent}
    {latch : PowerLatch} {r : Except HostError α} {h h' : Host}
    (htakes : Takes dismissed events latch (r, h)) (hevents : h'.events = h.events)
    (hlatch : h'.latch = h.latch) : Takes dismissed events latch (r, h') := by
  cases htakes with
  | nothing hquiet hnone hsame => exact .nothing hquiet (hevents.trans hnone) (hlatch.trans hsame)
  | answer hsplit hquiet he hrest hsame =>
    exact .answer hsplit hquiet he (hevents.trans hrest) (hlatch.trans hsame)
  | interrupt hsplit hquiet he ha hrest hrequest =>
    exact .interrupt hsplit hquiet he ha (hevents.trans hrest) (hlatch.trans hrequest)

namespace Seat

/-- The steps of a run, and what it leaves. -/
inductive Runs (settings : Settings) : Seat → List Seat → Ended → Prop
  | last {q e} (h : q.next settings = .error e) : Runs settings q [q] e
  | step {q q' steps e} (h : q.next settings = .ok q') (hrest : Runs settings q' steps e) :
      Runs settings q (q :: steps) e

/-- The events that the step takes. -/
def taken (q : Seat) : List HostEvent :=
  q.host.events.take (q.host.events.length - q.dispatched.terminal.events.length)

/-- Does the step take a press of control with `c`? -/
def Interrupted (q : Seat) : Prop :=
  ∃ k : KeyEvent, .key k ∈ q.taken ∧ k.motion ≠ .release ∧ k.isInterrupt = true

/-- Does root ask for a shutdown in the step? -/
def AsksShutdown (q : Seat) : Prop :=
  q.session.accounts.current = .root ∧ q.session.AsksPower q.read.1.toOption .shutdown

/-- What becomes of the events at a step, and why a shutdown is pending after it. -/
structure Accounted (settings : Settings) (q : Seat) : Prop where
  taken_append : q.taken ++ q.dispatched.terminal.events = q.host.events
  /-- A step that is completed takes an event. -/
  completed : ∀ request, q.dispatched.outcome = .ok request → q.taken ≠ []
  /-- A step fails when no event answers its read. -/
  failed : ∀ reason, q.dispatched.outcome = .error reason →
    reason = .terminal .inputEnded ∧ q.dispatched.terminal.events = []
  /-- What follows a step, be it a new session or not, begins with the events that the step has
  left. -/
  next : ∀ q', q.next settings = .ok q' → q'.host.events = q.dispatched.terminal.events
  shutdown : q.pending = some .shutdown ↔ (∃ request, q.dispatched.outcome = .ok request) ∧
    (q.host.latch.pending = some .shutdown ∨ q.Interrupted ∨ q.AsksShutdown)

variable {settings : Settings} {q q' : Seat} {e : Ended} {steps : List Seat}

/-! ## Runs -/

theorem seats_of_error (h : q.next settings = .error e) : q.seats settings = [q] := by
  rw [seats, seatsWithin, h]

theorem seats_of_ok (h : q.next settings = .ok q') :
    q.seats settings = q :: q'.seats settings := by
  rw [seats, seatsWithin, h]
  simp only
  rw [seatsWithin_eq_seats settings (length_next_lt h)]

/-- The seats are the steps of a run, which leaves what is left in the end. -/
theorem runs_seats (settings : Settings) (q : Seat) :
    Runs settings q (q.seats settings) (q.ended settings) := by
  induction q using next_induction settings with
  | step q ih =>
    cases hnext : q.next settings with
    | error e =>
      rw [seats_of_error hnext, ended_of_error hnext]
      exact .last hnext
    | ok q' =>
      rw [seats_of_ok hnext, ended_of_ok hnext]
      exact .step hnext (ih q' hnext)

theorem Runs.length_le (h : Runs settings q steps e) :
    steps.length ≤ q.host.events.length + 1 := by
  induction h with
  | last => exact Nat.le_add_left 1 _
  | step hnext _ ih =>
    have hlt := length_next_lt hnext
    rw [List.length_cons]
    omega

/-! ## The end of a run -/

/-- A step fails with its read, or is followed by what the pending request asks for. -/
theorem next_cases (settings : Settings) (q : Seat) :
    (∃ reason, q.dispatched.outcome = .error reason ∧ q.pending = none ∧
      q.next settings = .error ⟨.failed reason, q.dispatched.terminal, q.dispatched.world⟩) ∨
    q.next settings =
      follow settings q.pending ⟨q.dispatched.session, q.dispatched.world⟩ q.settled := by
  cases houtcome : q.dispatched.outcome with
  | error reason => exact Or.inl ⟨reason, rfl, by rw [pending, houtcome], by rw [next, houtcome]⟩
  | ok request => exact Or.inr (by rw [next, houtcome])

theorem next_eq_error (h : q.next settings = .error e) :
    q.pending = some .shutdown ∧ e = ⟨.shutdown, q.settled, q.dispatched.world⟩ ∨
    ∃ reason, q.dispatched.outcome = .error reason ∧ q.pending = none ∧
      e = ⟨.failed reason, q.dispatched.terminal, q.dispatched.world⟩ := by
  rcases next_cases settings q with ⟨reason, houtcome, hpending, hnext⟩ | hnext
  · exact Or.inr ⟨reason, houtcome, hpending, Except.error.inj (h.symm.trans hnext)⟩
  · exact Or.inl (follow_eq_error_iff.mp (hnext.symm.trans h))

theorem next_eq_ok (h : q.next settings = .ok q') :
    q.pending ≠ some .shutdown ∧ q'.host = q.settled := by
  rcases next_cases settings q with ⟨_, _, _, hnext⟩ | hnext
  · cases h.symm.trans hnext
  · have hfollow := hnext.symm.trans h
    refine ⟨fun hshutdown => ?_, host_of_follow hfollow⟩
    rw [hshutdown] at hfollow
    cases hfollow

/-! ## The events of a step -/

theorem taken_eq {l : List HostEvent} (h : q.host.events = l ++ q.dispatched.terminal.events) :
    q.taken = l := by
  simp [taken, h]

/-- A step on a host is a read, apart from what it writes and makes of the session. -/
theorem dispatched_takes (q : Seat) :
    Host.Takes Input.Dismisses q.host.events q.host.latch
      (q.read.1, q.dispatched.terminal) := by
  rw [dispatched_eq]
  exact q.read_takes.of_same (Host.events_performAll _ _) (Host.latch_performAll _ _)

/-- A step fails iff its read does. -/
theorem outcome_of_read (q : Seat) : q.dispatched.outcome =
    (q.read.1.map fun _ => (q.turn q.read.1.toOption).request).mapError .terminal := by
  rw [dispatched_eq]

/-- A request that is pending after a step has been pending before it or is made by it. -/
theorem pending_note_iff {latch : PowerLatch} {request : Option PowerAction} :
    (latch.note request).pending = some .shutdown ↔
      latch.pending = some .shutdown ∨ request = some .shutdown := by
  rcases request with _ | action
  · simp [PowerLatch.note]
  · by_cases h : latch.pending = some .shutdown <;> simp [PowerLatch.note, PowerLatch.request, h]

theorem interrupt_iff {e : HostEvent} : e.keyReport = .interrupt ↔
    ∃ k : KeyEvent, e = .key k ∧ k.motion ≠ .release ∧ k.isInterrupt = true := by
  cases e with
  | key k =>
    simp only [HostEvent.keyReport, HostEvent.key.injEq, exists_eq_left']
    split_ifs <;> simp [*]
  | _ => simp [HostEvent.keyReport]

theorem interrupted_iff : q.Interrupted ↔ ∃ e ∈ q.taken, e.keyReport = .interrupt := by
  simp only [Interrupted, interrupt_iff]
  constructor
  · rintro ⟨k, hmem, hk⟩
    exact ⟨.key k, hmem, k, rfl, hk⟩
  · rintro ⟨_, hmem, k, rfl, hk⟩
    exact ⟨k, hmem, hk⟩

/-- A step takes all events and fails, or takes some, an interrupt among them or none. -/
theorem taken_cases (q : Seat) :
    q.dispatched.outcome = .error (.terminal .inputEnded) ∧ q.taken = q.host.events ∧
      q.dispatched.terminal.events = [] ∨
    (∃ request, q.dispatched.outcome = .ok request) ∧ q.taken ≠ [] ∧
      q.taken ++ q.dispatched.terminal.events = q.host.events ∧
      (q.dispatched.terminal.latch.pending = some .shutdown ↔
        q.host.latch.pending = some .shutdown ∨ q.Interrupted) := by
  have htakes := q.dispatched_takes
  rw [outcome_of_read]
  generalize q.read.1 = answer at htakes
  generalize hterminal : q.dispatched.terminal = terminal at htakes
  cases htakes with
  | nothing hquiet hevents hlatch =>
    have htaken : q.taken = q.host.events := taken_eq (by simp [hterminal, hevents])
    exact Or.inl ⟨rfl, htaken, hevents⟩
  | @answer taken e rest input _ hsplit hquiet he hevents hlatch =>
    have htaken : q.taken = taken ++ [e] := taken_eq (by simp [hsplit, hterminal, hevents])
    have hnone : ¬ q.Interrupted := by
      rw [interrupted_iff, htaken]
      rintro ⟨e', hmem, he'⟩
      rcases List.mem_append.mp hmem with htyped | hlast
      · exact hquiet e' htyped he'
      · exact he (List.mem_singleton.mp hlast ▸ he')
    refine Or.inr ⟨⟨_, rfl⟩, by simp [htaken], by simp [htaken, hsplit, hevents], ?_⟩
    rw [hlatch, or_iff_left hnone]
  | @interrupt taken e rest input _ hsplit hquiet he ha hevents hlatch =>
    have htaken : q.taken = taken ++ [e] := taken_eq (by simp [hsplit, hterminal, hevents])
    have hinterrupted : q.Interrupted := by
      rw [interrupted_iff, htaken]
      exact ⟨e, by simp, he⟩
    refine Or.inr ⟨⟨_, rfl⟩, by simp [htaken], by simp [htaken, hsplit, hevents], ?_⟩
    rw [hlatch, iff_true_right (Or.inr hinterrupted)]
    exact pending_note_of_shutdown q.host.latch none

/-- A completed step makes a request for a shutdown iff root asks for one. -/
theorem asksShutdown_iff {request : Option PowerAction} (h : q.dispatched.outcome = .ok request) :
    request = some .shutdown ↔ q.AsksShutdown := by
  rw [outcome_of_read] at h
  unfold AsksShutdown
  rw [← Session.request_iff q.session (q.read.2.found q.world) q.read.1.toOption]
  cases hanswer : q.read.1 with
  | error reason => simp [hanswer, Except.map] at h
  | ok input =>
    simp only [hanswer, Except.map, mapError_ok, Except.ok.injEq] at h
    rw [← h]
    rfl

theorem pending_eq {request : Option PowerAction} (h : q.dispatched.outcome = .ok request) :
    q.pending = (q.dispatched.terminal.latch.note request).pending := by
  rw [pending, h]

/-- **What becomes of the events at a step**, and why a shutdown is pending after it. -/
theorem accounted (settings : Settings) (q : Seat) : q.Accounted settings := by
  have hnext : ∀ q', q.next settings = .ok q' → q'.host.events = q.dispatched.terminal.events :=
    fun q' h => by
      rw [(next_eq_ok h).2]
      rfl
  rcases q.taken_cases with ⟨houtcome, htaken, hevents⟩ |
    ⟨⟨request, houtcome⟩, htaken, hsplit, hlatch⟩
  · exact
      { taken_append := by rw [htaken, hevents, List.append_nil]
        completed := by simp [houtcome]
        failed := by simp [houtcome, hevents]
        next := hnext
        shutdown := by simp [pending, houtcome] }
  · exact
      { taken_append := hsplit
        completed := fun _ _ => htaken
        failed := by simp [houtcome]
        next := hnext
        shutdown := by
          rw [pending_eq houtcome, pending_note_iff, hlatch, asksShutdown_iff houtcome, or_assoc]
          exact (and_iff_right ⟨request, houtcome⟩).symm }

/-! ## Every run -/

/-- A shutdown that is pending after a step ends the run there. -/
theorem Runs.shutdown (h : Runs settings q steps e) {p : Seat} (hp : p ∈ steps)
    (hpending : p.pending = some .shutdown) :
    steps.getLast? = some p ∧ e = ⟨.shutdown, p.settled, p.dispatched.world⟩ := by
  induction h with
  | last hnext =>
    obtain rfl := List.mem_singleton.mp hp
    rcases next_eq_error hnext with ⟨-, rfl⟩ | ⟨_, -, hnone, -⟩
    · exact ⟨rfl, rfl⟩
    · cases hpending.symm.trans hnone
  | step hnext hrest ih =>
    rcases List.mem_cons.mp hp with rfl | hp
    · exact absurd hpending (next_eq_ok hnext).1
    · obtain ⟨hlast, he⟩ := ih hp
      refine ⟨?_, he⟩
      rw [List.getLast?_cons, hlast]
      rfl

/-- A run that is not shut down fails when it has taken all events. -/
theorem Runs.shutdown_or_failed (h : Runs settings q steps e) :
    (∃ p ∈ steps, p.pending = some .shutdown) ∨
      e.ending = .failed (.terminal .inputEnded) ∧ e.host.events = [] := by
  induction h with
  | @last q e hnext =>
    rcases next_eq_error hnext with ⟨hpending, -⟩ | ⟨reason, houtcome, -, rfl⟩
    · exact Or.inl ⟨q, List.mem_singleton_self q, hpending⟩
    · obtain ⟨rfl, hevents⟩ := (accounted settings q).failed reason houtcome
      exact Or.inr ⟨rfl, hevents⟩
  | step hnext hrest ih =>
    exact ih.imp_left fun ⟨p, hp, hpending⟩ => ⟨p, List.mem_cons_of_mem _ hp, hpending⟩

/-- No request is pending before a step, except one that was when the run began. -/
theorem Runs.latch (h : Runs settings q steps e) {p : Seat} (hp : p ∈ steps) :
    p.host.latch = q.host.latch ∨ p.host.latch = {} := by
  induction h with
  | last =>
    obtain rfl := List.mem_singleton.mp hp
    exact Or.inl rfl
  | @step q q' steps e hnext hrest ih =>
    rcases List.mem_cons.mp hp with rfl | hp
    · exact Or.inl rfl
    · have hempty : q'.host.latch = {} := by
        rw [(next_eq_ok hnext).2]
        rfl
      rw [hempty] at ih
      exact Or.inr ((or_self_iff).mp (ih hp))

/-- **Every run ends**, with no bound on the number of its steps, and it takes at most one more step
than there are events. Every step but one that fails takes an event, and a new session begins with
the events that the one before has left. If a shutdown is pending after a step, because root has
asked for it or because of an interrupt, then the run ends there and takes no more events; if it
never is, the run takes all events and fails with the report that the input has stopped. -/
theorem runs_to_shutdown_or_end (settings : Settings) (w : World) (h : Host) :
    let ended := Host.runSessions settings w h
    let steps := (first settings w h).seats settings
    Runs settings (first settings w h) steps ended ∧ steps.length ≤ h.events.length + 1 ∧
    (∀ q ∈ steps, q.Accounted settings ∧ (q.host.latch = h.latch ∨ q.host.latch = {})) ∧
    (ended.ending = .shutdown ↔ ∃ q ∈ steps, q.pending = some .shutdown) ∧
    (∀ q ∈ steps, q.pending = some .shutdown →
      steps.getLast? = some q ∧ ended.host.events = q.dispatched.terminal.events) ∧
    (ended.ending ≠ .shutdown →
      ended.ending = .failed (.terminal .inputEnded) ∧ ended.host.events = []) ∧
    Failure.message HostError.message (.terminal .inputEnded) = "input thread stopped" := by
  intro ended steps
  have hruns : Runs settings (first settings w h) steps ended := runs_seats settings _
  refine ⟨hruns, hruns.length_le, fun q hq => ⟨accounted settings q, hruns.latch hq⟩, ?_, ?_, ?_,
    rfl⟩
  · constructor
    · intro hending
      refine hruns.shutdown_or_failed.resolve_right fun hfailed => ?_
      cases hending.symm.trans hfailed.1
    · rintro ⟨q, hq, hpending⟩
      rw [(hruns.shutdown hq hpending).2]
  · intro q hq hpending
    obtain ⟨hlast, hended⟩ := hruns.shutdown hq hpending
    refine ⟨hlast, ?_⟩
    rw [hended]
    rfl
  · intro hending
    refine hruns.shutdown_or_failed.resolve_left ?_
    rintro ⟨q, hq, hpending⟩
    rw [(hruns.shutdown hq hpending).2] at hending
    exact hending rfl

end Seat

end ModalConsole
