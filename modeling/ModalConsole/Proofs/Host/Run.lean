import ModalConsole.Host.Sessions
import ModalConsole.Proofs.Host.Read
import ModalConsole.Proofs.Session.Stage

/-!
# Sessions that follow one another on a host

A seat is a session in its world at a host. A step leads to the next seat, or ends the sessions.
Every step takes events or ends the sessions, so the bound on the number of steps in `runSteps` is
no bound: here the sessions run until they end.

* `Seat.next`: one step. `Seat.ended`: what is left in the end. `Seat.seats`: the seats on the way.
* `Seat.Outcome`: the ways a step can go. `next_outcome`: every step goes one of these ways.
* **`next_induction`**: induction along a run. `ended_of_ok`, `mem_seats_iff`: a run from its first
  step; no bound on the number of steps appears in them.
* `ended_of_mem`: what is left in the end is the same from all seats of a run.
-/

namespace ModalConsole

namespace HostEvent

/-- The keys of a text. -/
def keys (text : String) : List HostEvent := text.toList.map fun c => .key { code := .char c }

/-- The keys of a line, with Enter at the end. -/
def typing (line : String) : List HostEvent := keys line ++ [.key { code := .enter }]

end HostEvent

/-- A session in its world at a host. -/
structure Seat extends Stage where
  host : Host

namespace Seat

open Host (Quiet)

/-- The first seat. -/
def first (settings : Settings) (w : World) (h : Host) : Seat :=
  ⟨⟨Session.start settings h.now, h.found w⟩, h⟩

/-- What follows a step, given the request of the power supply that is pending after it. -/
def follow (settings : Settings) (pending : Option PowerAction) (r : Stage) (h : Host) :
    Except Ended Seat :=
  match nextOf pending with
  | .finish ending => .error ⟨ending, h, r.world⟩
  | .restart => .ok (first settings r.world h)
  | .proceed => .ok ⟨r, h⟩

/-- The step of a seat. -/
def dispatched (q : Seat) : Dispatched Host HostError :=
  q.session.dispatch Host.terminal q.world q.host

/-- The request of the power supply that is pending after the step. -/
def pending (q : Seat) : Option PowerAction :=
  match q.dispatched.outcome with
  | .error _ => none
  | .ok request => (q.dispatched.terminal.latch.note request).pending

/-- The host after the step, when the pending request has been taken. -/
def settled (q : Seat) : Host := { q.dispatched.terminal with latch := {} }

/-- The next seat, or what is left if the sessions end. -/
def next (settings : Settings) (q : Seat) : Except Ended Seat :=
  let d := q.dispatched
  match d.outcome with
  | .error e => .error ⟨.failed e, d.terminal, d.world⟩
  | .ok _ => follow settings q.pending ⟨d.session, d.world⟩ q.settled

/-- What is left when the sessions have ended. -/
def ended (settings : Settings) (q : Seat) : Ended :=
  Host.runSteps settings (q.host.events.length + 1) q.session q.world q.host

/-- The seats of at most `fuel` steps. -/
def seatsWithin (settings : Settings) : Nat → Seat → List Seat
  | 0, _ => []
  | fuel + 1, q =>
    q :: match q.next settings with
      | .error _ => []
      | .ok q' => seatsWithin settings fuel q'

/-- The seats of a run: in each of them a step begins. -/
def seats (settings : Settings) (q : Seat) : List Seat :=
  seatsWithin settings (q.host.events.length + 1) q

theorem runSessions_eq (settings : Settings) (w : World) (h : Host) :
    Host.runSessions settings w h = (first settings w h).ended settings := rfl

variable {settings : Settings} {request : Option PowerAction} {q q' : Seat}

/-! ## One step -/

theorem next_of_reboot (settings : Settings) (h : q.pending = some .reboot) :
    q.next settings = .ok (first settings q.dispatched.world q.settled) := by
  unfold next
  cases houtcome : q.dispatched.outcome with
  | error e => simp [pending, houtcome] at h
  | ok request =>
    simp only [houtcome, h]
    rfl

theorem runSteps_succ (settings : Settings) (fuel : Nat) (q : Seat) :
    Host.runSteps settings (fuel + 1) q.session q.world q.host =
      match q.next settings with
      | .error ended => ended
      | .ok q' => Host.runSteps settings fuel q'.session q'.world q'.host := by
  rw [Host.runSteps, next, pending, settled, dispatched]
  generalize q.session.dispatch Host.terminal q.world q.host = d
  cases d.outcome with
  | error e => rfl
  | ok request =>
    simp only [PowerLatch.take, follow]
    cases nextOf (d.terminal.latch.note request).pending <;> rfl

theorem follow_eq_ok_iff {r : Stage} {h : Host} : follow settings request r h = .ok q ↔
    request = some .reboot ∧ q = first settings r.world h ∨ request = none ∧ q = ⟨r, h⟩ := by
  rcases request with _ | _ | _ <;> simp [follow, nextOf, eq_comm]

theorem follow_eq_error_iff {r : Stage} {h : Host} {e : Ended} :
    follow settings request r h = .error e ↔
      request = some .shutdown ∧ e = ⟨.shutdown, h, r.world⟩ := by
  rcases request with _ | _ | _ <;> simp [follow, nextOf, eq_comm]

theorem host_of_follow {r : Stage} {h : Host} (hfollow : follow settings request r h = .ok q) :
    q.host = h := by
  rcases follow_eq_ok_iff.mp hfollow with ⟨-, rfl⟩ | ⟨-, rfl⟩ <;> rfl

/-- The read of a step, which comes after the prompt: the answer, and the host that is left. -/
def read (q : Seat) : Except HostError Input × Host :=
  Host.read q.session.mode.asks (Host.terminal.performAll q.host q.session.prompt)

/-- The turn of a step whose read has given the answer, at the time when it was given. -/
def turn (q : Seat) (answer : Option Input) : Turn :=
  q.session.step (q.read.2.found q.world) answer

theorem read_takes (q : Seat) :
    Host.Takes Input.Dismisses q.host.events q.host.latch q.read := by
  have htakes := Host.read_takes q.session.mode.asks
    (Host.terminal.performAll q.host q.session.prompt)
  rwa [Host.events_performAll, Host.latch_performAll] at htakes

theorem dispatched_eq (q : Seat) : q.dispatched =
    let t := q.turn q.read.1.toOption
    ⟨t.session, t.world, Host.terminal.performAll q.read.2 t.effects, ⟨t.request⟩,
      (q.read.1.map fun _ => t.request).mapError .terminal⟩ :=
  Session.dispatch_eq Host.terminal rfl q.world

/-- The ways a step can go: no event answers the read; one does; or there is an interrupt first. -/
inductive Outcome (settings : Settings) (q : Seat) : Except Ended Seat → Prop
  | failed {h} (hquiet : Quiet q.host.events) (hevents : h.events = [])
      (hlatch : h.latch = q.host.latch) :
      Outcome settings q (.error ⟨.failed (.terminal .inputEnded), h, (q.turn none).world⟩)
  | answered {taken e rest input h} (hread : q.read.1 = .ok input)
      (hsplit : q.host.events = taken ++ e :: rest) (hquiet : Quiet taken)
      (he : e.keyReport ≠ .interrupt) (hevents : h.events = rest) (hlatch : h.latch = {}) :
      Outcome settings q (follow settings (q.host.latch.note (q.turn (some input)).request).pending
        ⟨(q.turn (some input)).session, (q.turn (some input)).world⟩ h)
  | interrupted {taken e rest input h} (hread : q.read.1 = .ok input)
      (hsplit : q.host.events = taken ++ e :: rest) (hquiet : Quiet taken)
      (he : e.keyReport = .interrupt) (hinput : input.Dismisses)
      (hleft : q.read.2.events = rest) (hevents : h.events = rest) (hlatch : h.latch = {}) :
      Outcome settings q (.error ⟨.shutdown, h, (q.turn (some input)).world⟩)

/-- An interrupt ends the sessions, whatever the answer to it asks for. -/
theorem pending_note_of_shutdown (latch : PowerLatch) (request : Option PowerAction) :
    ((latch.request .shutdown).note request).pending = some .shutdown := by
  have hshutdown : (latch.request .shutdown).pending = some .shutdown := by
    unfold PowerLatch.request
    split
    · assumption
    · rfl
  cases request with
  | none => exact hshutdown
  | some action =>
    rw [PowerLatch.note, PowerLatch.request, if_pos hshutdown]
    exact hshutdown

/-- **Every step goes one of these ways.** -/
theorem next_outcome (settings : Settings) (q : Seat) : Outcome settings q (q.next settings) := by
  have htakes := q.read_takes
  unfold next pending settled
  rw [dispatched_eq]
  generalize hread : q.read = answer at htakes
  cases htakes with
  | nothing hquiet hevents hlatch =>
    refine .failed hquiet ?_ ?_
    · rw [Host.events_performAll, hevents]
    · rw [Host.latch_performAll, hlatch]
  | answer hsplit hquiet he hevents hlatch =>
    simp only [Except.map, mapError_ok, Except.toOption, Host.latch_performAll, hlatch]
    refine .answered (by rw [hread]) hsplit hquiet he ?_ rfl
    rw [Host.events_performAll, hevents]
  | interrupt hsplit hquiet he ha hevents hlatch =>
    simp only [Except.map, mapError_ok, Except.toOption, Host.latch_performAll, hlatch,
      pending_note_of_shutdown]
    refine .interrupted (by rw [hread]) hsplit hquiet he ha (by rw [hread, hevents]) ?_ rfl
    rw [Host.events_performAll, hevents]

/-- A step that the sessions survive takes events. -/
theorem length_next_lt (h : q.next settings = .ok q') :
    q'.host.events.length < q.host.events.length := by
  have houtcome := next_outcome settings q
  generalize q.next settings = o at h houtcome
  cases houtcome with
  | failed => cases h
  | interrupted => cases h
  | @answered _ _ rest _ _ _ hsplit _ _ hevents _ =>
    have hrest : rest.length < q.host.events.length := by
      rw [hsplit, List.length_append, List.length_cons]
      omega
    rwa [host_of_follow h, hevents]

/-! ## Runs -/

/-- Induction along a run. -/
theorem next_induction {P : Seat → Prop} (settings : Settings)
    (step : ∀ q, (∀ q', q.next settings = .ok q' → P q') → P q) (q : Seat) : P q := by
  -- on the number of events that are left
  induction hlength : q.host.events.length using Nat.strong_induction_on generalizing q with
  | _ n ih =>
    subst hlength
    exact step q fun q' hnext => ih _ (length_next_lt hnext) q' rfl

/-- A bound above the number of events is no bound. -/
theorem runSteps_eq_ended (settings : Settings) {fuel : Nat} {q : Seat}
    (hfuel : q.host.events.length < fuel) :
    Host.runSteps settings fuel q.session q.world q.host = q.ended settings := by
  induction q using next_induction settings generalizing fuel with
  | step q ih =>
    obtain ⟨fuel, rfl⟩ := Nat.exists_eq_succ_of_ne_zero (Nat.ne_zero_of_lt hfuel)
    rw [ended, Nat.succ_eq_add_one, runSteps_succ, runSteps_succ]
    cases hnext : q.next settings with
    | error e => rfl
    | ok q' =>
      have hlt := length_next_lt hnext
      exact (ih q' hnext (by omega)).trans (ih q' hnext hlt).symm

theorem ended_of_error {e : Ended} (h : q.next settings = .error e) : q.ended settings = e := by
  rw [ended, runSteps_succ, h]

theorem ended_of_ok (h : q.next settings = .ok q') : q.ended settings = q'.ended settings := by
  rw [ended, runSteps_succ, h]
  exact runSteps_eq_ended settings (length_next_lt h)

theorem seatsWithin_eq_seats (settings : Settings) {fuel : Nat} {q : Seat}
    (hfuel : q.host.events.length < fuel) : seatsWithin settings fuel q = q.seats settings := by
  induction q using next_induction settings generalizing fuel with
  | step q ih =>
    obtain ⟨fuel, rfl⟩ := Nat.exists_eq_succ_of_ne_zero (Nat.ne_zero_of_lt hfuel)
    rw [seats, Nat.succ_eq_add_one, seatsWithin, seatsWithin]
    cases hnext : q.next settings with
    | error e => rfl
    | ok q' =>
      have hlt := length_next_lt hnext
      simp only
      rw [ih q' hnext (by omega), ih q' hnext hlt]

theorem mem_seats_self (settings : Settings) (q : Seat) : q ∈ q.seats settings := List.mem_cons_self

/-- The seats after the first are those of the run from the second. -/
theorem mem_seats_iff {r : Seat} :
    r ∈ q.seats settings ↔ r = q ∨ ∃ q', q.next settings = .ok q' ∧ r ∈ q'.seats settings := by
  rw [seats, seatsWithin, List.mem_cons]
  refine or_congr_right ?_
  cases hnext : q.next settings with
  | error e => simp
  | ok q' =>
    simp only [Except.ok.injEq, exists_eq_left']
    rw [seatsWithin_eq_seats settings (length_next_lt hnext)]

/-- The seats of the run from a seat are seats of the run. -/
theorem seats_subset {r : Seat} (h : r ∈ q.seats settings) :
    r.seats settings ⊆ q.seats settings := by
  induction q using next_induction settings with
  | step q ih =>
    rcases mem_seats_iff.mp h with rfl | ⟨q', hnext, hr⟩
    · exact List.Subset.refl _
    · exact fun p hp => mem_seats_iff.mpr (Or.inr ⟨q', hnext, ih q' hnext hr hp⟩)

/-- What is left in the end is the same from all seats of a run. -/
theorem ended_of_mem {r : Seat} (h : r ∈ q.seats settings) :
    r.ended settings = q.ended settings := by
  induction q using next_induction settings with
  | step q ih =>
    rcases mem_seats_iff.mp h with rfl | ⟨q', hnext, hr⟩
    · rfl
    · exact (ih q' hnext hr).trans (ended_of_ok hnext).symm

end Seat

end ModalConsole
