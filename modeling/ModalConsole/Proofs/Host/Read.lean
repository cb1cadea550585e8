import Mathlib.Data.List.Basic
import ModalConsole.Host.Basic

/-!
# What a read of a host takes

A read takes events up to the one that answers it. It fails if there is none, and then all events
are gone; if there is an interrupt on the way, that is the last event that it takes, whatever has
been typed before.

* `Host.Quiet`: events without an interrupt. `Input.Dismisses`: the answers that an interrupt gives.
* `Host.events_performAll`, `Host.latch_performAll`: effects take no events and make no requests.
* `Host.Takes`: the ways a read can go. One lemma for each kind of read.
* **`Host.read_takes`**: every read goes one of these ways.
* `Host.clock_performAll`, `Host.clock_read`: neither effects nor reads set the clock.
-/

namespace ModalConsole

/-- The input that an interrupt stands for: an empty line, the escape key, or a frame with it. -/
def Input.Dismisses : Input → Prop
  | .line typed => typed = ""
  | .key k => k = .escape
  | .pointer frame => frame.key = some .escape

namespace Host

/-- Is there no interrupt among the events? -/
def Quiet (events : List HostEvent) : Prop := ∀ e ∈ events, e.keyReport ≠ .interrupt

/-! ## Effects -/

@[simp] theorem events_emit (h : Host) (text : String) : (h.emit text).events = h.events := rfl

@[simp] theorem latch_emit (h : Host) (text : String) : (h.emit text).latch = h.latch := rfl

@[simp] theorem events_leaveDesktop (h : Host) : h.leaveDesktop.events = h.events := by
  unfold leaveDesktop
  split <;> rfl

@[simp] theorem latch_leaveDesktop (h : Host) : h.leaveDesktop.latch = h.latch := by
  unfold leaveDesktop
  split <;> rfl

@[simp] theorem events_enterDesktop (h : Host) : h.enterDesktop.events = h.events := by
  unfold enterDesktop
  split <;> rfl

@[simp] theorem latch_enterDesktop (h : Host) : h.enterDesktop.latch = h.latch := by
  unfold enterDesktop
  split <;> rfl

theorem events_performAll (h : Host) (effects : List Effect) :
    (terminal.performAll h effects).events = h.events := by
  induction effects generalizing h with
  | nil => rfl
  | cons e effects ih =>
    have hone : (h.perform e).events = h.events := by cases e <;> simp [perform]
    exact (ih (h.perform e)).trans hone

theorem latch_performAll (h : Host) (effects : List Effect) :
    (terminal.performAll h effects).latch = h.latch := by
  induction effects generalizing h with
  | nil => rfl
  | cons e effects ih =>
    have hone : (h.perform e).latch = h.latch := by cases e <;> simp [perform]
    exact (ih (h.perform e)).trans hone

/-! ## Events -/

theorem absorb_of_interrupt {h : Host} {e : HostEvent} (he : e.keyReport = .interrupt) :
    h.absorb e = { h with latch := h.latch.request .shutdown } := by
  unfold absorb
  rw [he]

theorem latch_absorb {h : Host} {e : HostEvent} (he : e.keyReport ≠ .interrupt) :
    (h.absorb e).latch = h.latch := by
  unfold absorb
  split
  · contradiction
  · rfl
  · rfl

/-- The ways a read can go, given the events and the latch before it: the answer, and the host
that is left. `dismissed` are the answers that an interrupt gives. -/
inductive Takes {α : Type} (dismissed : α → Prop) (events : List HostEvent) (latch : PowerLatch) :
    Except HostError α × Host → Prop
  | nothing {h} (hquiet : Quiet events) (hevents : h.events = []) (hlatch : h.latch = latch) :
      Takes dismissed events latch (.error .inputEnded, h)
  | answer {taken e rest a h} (hsplit : events = taken ++ e :: rest) (hquiet : Quiet taken)
      (he : e.keyReport ≠ .interrupt) (hevents : h.events = rest) (hlatch : h.latch = latch) :
      Takes dismissed events latch (.ok a, h)
  | interrupt {taken e rest a h} (hsplit : events = taken ++ e :: rest) (hquiet : Quiet taken)
      (he : e.keyReport = .interrupt) (ha : dismissed a) (hevents : h.events = rest)
      (hlatch : h.latch = latch.request .shutdown) : Takes dismissed events latch (.ok a, h)

section Takes

variable {α β : Type} {dismissed : α → Prop} {events : List HostEvent} {latch : PowerLatch}
  {r : Except HostError α × Host}

theorem Takes.skip {e : HostEvent} (he : e.keyReport ≠ .interrupt)
    (h : Takes dismissed events latch r) : Takes dismissed (e :: events) latch r := by
  have hcons {taken : List HostEvent} (hquiet : Quiet taken) : Quiet (e :: taken) :=
    List.forall_mem_cons.mpr ⟨he, hquiet⟩
  cases h with
  | nothing hquiet hevents hlatch => exact .nothing (hcons hquiet) hevents hlatch
  | answer hsplit hquiet he' hevents hlatch =>
    exact .answer (congrArg (e :: ·) hsplit) (hcons hquiet) he' hevents hlatch
  | interrupt hsplit hquiet he' ha hevents hlatch =>
    exact .interrupt (congrArg (e :: ·) hsplit) (hcons hquiet) he' ha hevents hlatch

/-- An event that is no interrupt changes at most the size of the terminal. -/
theorem Takes.absorb {e : HostEvent} {h : Host} (he : e.keyReport ≠ .interrupt)
    (htakes : Takes dismissed events (h.absorb e).latch r) :
    Takes dismissed (e :: events) h.latch r := by
  rw [latch_absorb he] at htakes
  exact htakes.skip he

theorem Takes.first {e : HostEvent} (he : e.keyReport ≠ .interrupt) {a : α} {h : Host}
    (hevents : h.events = events) (hlatch : h.latch = latch) :
    Takes dismissed (e :: events) latch (.ok a, h) :=
  .answer (List.nil_append _).symm (List.forall_mem_nil _) he hevents hlatch

/-- The same read with another form of answer. -/
theorem Takes.map {f : α → β} {dismissed' : β → Prop} (hf : ∀ a, dismissed a → dismissed' (f a))
    (h : Takes dismissed events latch r) : Takes dismissed' events latch (r.1.map f, r.2) := by
  cases h with
  | nothing hquiet hevents hlatch => exact .nothing hquiet hevents hlatch
  | answer hsplit hquiet he hevents hlatch => exact .answer hsplit hquiet he hevents hlatch
  | interrupt hsplit hquiet he ha hevents hlatch =>
    exact .interrupt hsplit hquiet he (hf _ ha) hevents hlatch

theorem Takes.dismissal {e : HostEvent} (he : e.keyReport = .interrupt) {a : α} {h : Host}
    (ha : dismissed a) (hevents : h.events = events) (hlatch : h.latch = latch.request .shutdown) :
    Takes dismissed (e :: events) latch (.ok a, h) :=
  .interrupt (List.nil_append _).symm (List.forall_mem_nil _) he ha hevents hlatch

end Takes

/-! ## Reads -/

theorem nextKeyFrom_takes (events : List HostEvent) (h : Host) :
    Takes (· = none) events h.latch (nextKeyFrom events h) := by
  induction events generalizing h with
  | nil => exact .nothing (List.forall_mem_nil _) rfl rfl
  | cons e rest ih =>
    unfold nextKeyFrom
    cases he : e.keyReport with
    | nothing =>
      have hquiet : e.keyReport ≠ .interrupt := by simp [he]
      exact (ih (h.absorb e)).absorb hquiet
    | interrupt => exact .dismissal he rfl rfl (by rw [absorb_of_interrupt he])
    | key k =>
      have hquiet : e.keyReport ≠ .interrupt := by simp [he]
      exact .first hquiet rfl (latch_absorb hquiet)

theorem readKey_eq (h : Host) : h.readKey =
    (h.leaveDesktop.nextKey.1.map (·.getD .escape), h.leaveDesktop.nextKey.2) := by
  unfold readKey
  rcases h.leaveDesktop.nextKey with ⟨_ | _, _⟩ <;> rfl

theorem readKey_takes (h : Host) : Takes (· = .escape) h.events h.latch h.readKey := by
  have hkey := nextKeyFrom_takes h.leaveDesktop.events h.leaveDesktop
  rw [events_leaveDesktop, latch_leaveDesktop, ← events_leaveDesktop] at hkey
  rw [readKey_eq, ← events_leaveDesktop]
  exact hkey.map fun a ha => by rw [ha]; rfl

theorem readLineFrom_takes (events : List HostEvent) (editor : LineEditor) (h : Host) :
    Takes (· = "") events h.latch (readLineFrom events editor h) := by
  induction events generalizing editor h with
  | nil => exact .nothing (List.forall_mem_nil _) rfl rfl
  | cons e rest ih =>
    unfold readLineFrom
    cases he : e.keyReport with
    | nothing =>
      have hquiet : e.keyReport ≠ .interrupt := by simp [he]
      exact (ih editor (h.absorb e)).absorb hquiet
    | interrupt => exact .dismissal he rfl rfl (by rw [absorb_of_interrupt he]; rfl)
    | key k =>
      have hquiet : e.keyReport ≠ .interrupt := by simp [he]
      simp only
      split
      · rename_i editor _
        exact (ih editor (h.absorb e)).absorb hquiet
      · rename_i editor text _
        -- an echo is written to the screen and changes nothing that is taken
        exact (ih editor ((h.absorb e).emit text)).absorb hquiet
      · exact .first hquiet rfl (latch_absorb hquiet)

theorem readLine_takes (h : Host) : Takes (· = "") h.events h.latch h.readLine := by
  have hline := readLineFrom_takes h.leaveDesktop.events {} (h.leaveDesktop.emit showCursor)
  rw [events_leaveDesktop, latch_emit, latch_leaveDesktop] at hline
  unfold readLine
  simpa only [events_emit, events_leaveDesktop] using hline

theorem latch_movePointer (h : Host) (clicked : Bool) (motion : MouseMotion) (column row : Nat) :
    (h.movePointer clicked motion column row).latch = h.latch := by
  unfold movePointer
  cases motion <;> cases clicked <;> rfl

theorem sampleFrom_takes (events : List HostEvent) (clicked : Bool) (h : Host) :
    Takes (·.key = some .escape) events h.latch (sampleFrom events clicked h) := by
  induction events generalizing clicked h with
  | nil => exact .nothing (List.forall_mem_nil _) rfl rfl
  | cons e rest ih =>
    unfold sampleFrom
    cases e with
    | tick => exact .first (by simp [HostEvent.keyReport]) rfl rfl
    | resize columns rows =>
      exact (ih clicked { h with columns := columns, rows := rows }).skip
        (by simp [HostEvent.keyReport])
    | mouse motion column row =>
      have hrest := ih (clicked || motion == .down) (h.movePointer clicked motion column row)
      rw [latch_movePointer] at hrest
      exact hrest.skip (by simp [HostEvent.keyReport])
    | other => exact (ih clicked h).skip (by simp [HostEvent.keyReport])
    | key e =>
      simp only
      cases he : (HostEvent.key e).keyReport with
      | nothing => exact (ih clicked h).skip (by simp [he])
      | interrupt => exact .dismissal he rfl rfl rfl
      | key k => exact .first (by simp [he]) rfl rfl

theorem samplePointer_takes (h : Host) :
    Takes (·.key = some .escape) h.events h.latch h.samplePointer := by
  have hstart : h.enterDesktop.startFrame.events = h.events := h.events_enterDesktop
  have hlatch : h.enterDesktop.startFrame.latch = h.latch := h.latch_enterDesktop
  have hframe := sampleFrom_takes h.enterDesktop.startFrame.events false h.enterDesktop.startFrame
  rw [hstart, hlatch] at hframe
  simpa only [samplePointer, hstart] using hframe

/-- **Every read goes one of these ways.** -/
theorem read_takes (kind : InputKind) (h : Host) :
    Takes Input.Dismisses h.events h.latch (h.read kind) := by
  cases kind with
  | line => exact h.readLine_takes.map fun _ => id
  | key => exact h.readKey_takes.map fun _ => id
  | pointer => exact h.samplePointer_takes.map fun _ => id

/-! ## The clock -/

/-- Two hosts with the same clock and as many events to come show the same time. -/
theorem now_eq {h h' : Host} (hclock : h'.clock = h.clock)
    (hlength : h'.events.length = h.events.length) : h'.now = h.now := by
  rw [now, now, hclock, hlength]

theorem clock_leaveDesktop (h : Host) : h.leaveDesktop.clock = h.clock := by
  unfold leaveDesktop
  split <;> rfl

theorem clock_enterDesktop (h : Host) : h.enterDesktop.clock = h.clock := by
  unfold enterDesktop
  split <;> rfl

theorem clock_performAll (h : Host) (effects : List Effect) :
    (terminal.performAll h effects).clock = h.clock := by
  induction effects generalizing h with
  | nil => rfl
  | cons e effects ih =>
    have hone : (h.perform e).clock = h.clock := by
      cases e <;> simp [perform, emit, clock_leaveDesktop, clock_enterDesktop]
    exact (ih (h.perform e)).trans hone

theorem clock_absorb (h : Host) (e : HostEvent) : (h.absorb e).clock = h.clock := by
  unfold absorb
  split <;> rfl

theorem clock_nextKeyFrom (events : List HostEvent) (h : Host) :
    (nextKeyFrom events h).2.clock = h.clock := by
  induction events generalizing h with
  | nil => rfl
  | cons e rest ih =>
    unfold nextKeyFrom
    split
    · exact (ih _).trans (h.clock_absorb e)
    · exact h.clock_absorb e
    · exact h.clock_absorb e

theorem clock_readLineFrom (events : List HostEvent) (editor : LineEditor) (h : Host) :
    (readLineFrom events editor h).2.clock = h.clock := by
  induction events generalizing editor h with
  | nil => rfl
  | cons e rest ih =>
    unfold readLineFrom
    split
    · exact (ih editor _).trans (h.clock_absorb e)
    · exact h.clock_absorb e
    · split
      · exact (ih _ _).trans (h.clock_absorb e)
      · exact (ih _ _).trans (h.clock_absorb e)
      · exact h.clock_absorb e

theorem clock_movePointer (h : Host) (clicked : Bool) (motion : MouseMotion) (column row : Nat) :
    (h.movePointer clicked motion column row).clock = h.clock := by
  unfold movePointer
  cases motion <;> cases clicked <;> rfl

theorem clock_sampleFrom (events : List HostEvent) (clicked : Bool) (h : Host) :
    (sampleFrom events clicked h).2.clock = h.clock := by
  induction events generalizing clicked h with
  | nil => rfl
  | cons e rest ih =>
    unfold sampleFrom
    cases e with
    | tick => rfl
    | resize columns rows => exact ih clicked _
    | mouse motion column row => exact (ih _ _).trans (h.clock_movePointer _ _ _ _)
    | other => exact ih clicked h
    | key e =>
      simp only
      split
      · exact ih clicked h
      · rfl
      · rfl

/-- Reads leave the clock as it is. -/
theorem clock_read (h : Host) (kind : InputKind) : (h.read kind).2.clock = h.clock := by
  cases kind with
  | line => exact (clock_readLineFrom _ _ _).trans h.clock_leaveDesktop
  | key =>
    have hkey : h.readKey.2.clock = h.leaveDesktop.nextKey.2.clock := by rw [readKey_eq]
    exact hkey.trans ((clock_nextKeyFrom _ _).trans h.clock_leaveDesktop)
  | pointer => exact (clock_sampleFrom _ _ _).trans h.clock_enterDesktop

end Host

end ModalConsole
