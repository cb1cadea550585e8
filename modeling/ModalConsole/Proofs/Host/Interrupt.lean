import ModalConsole.Proofs.Host.Run
import ModalConsole.Proofs.Session.Frame
import ModalConsole.Proofs.Session.Power

/-!
# Interrupts

An interrupt ends the sessions with the step that reads it. The step goes as if nothing had been
typed and the question had been dismissed, and no dismissal does any harm.

* `HostEvent.dismissing`: the key that dismisses a question. `Host.read_dismissing`: it gives the
  same answer as an interrupt.
* `Session.Move.of_dismisses`: a dismissal writes no file and asks for nothing.
* `Seat.exists_interrupted`: the step of a run that reads an interrupt, by induction along the run.
* **`Seat.interrupt_dismisses`**: what such a step does, and that the run ends with it.
-/

namespace ModalConsole

/-- The key that dismisses a question: Enter at once for a line, escape otherwise. -/
def HostEvent.dismissing : InputKind → HostEvent
  | .line => .key { code := .enter }
  | _ => .key { code := .escape }

namespace Host

theorem kind_of_map {α : Type} {answer : Except HostError α} {f : α → Input} {kind : InputKind}
    {input : Input} (hf : ∀ a, (f a).kind = kind) (h : answer.map f = .ok input) :
    input.kind = kind := by
  rcases answer with _ | a <;> cases h
  exact hf a

/-- The answer to a read is of the kind that was asked for. -/
theorem kind_of_read {h : Host} {kind : InputKind} {input : Input}
    (hread : (h.read kind).1 = .ok input) : input.kind = kind := by
  cases kind with
  | line => exact kind_of_map (fun _ => rfl) hread
  | key => exact kind_of_map (fun _ => rfl) hread
  | pointer => exact kind_of_map (fun _ => rfl) hread

/-- The key that dismisses a question is answered with what an interrupt stands for, and no more is
taken. -/
theorem read_dismissing {h : Host} {kind : InputKind} {rest : List HostEvent} {input : Input}
    (hevents : h.events = .dismissing kind :: rest) (hkind : input.kind = kind)
    (hinput : input.Dismisses) (hpointer : kind ≠ .pointer) :
    (h.read kind).1 = .ok input ∧ (h.read kind).2.events = rest := by
  have hleft : h.leaveDesktop.events = .dismissing kind :: rest := by
    rw [events_leaveDesktop, hevents]
  cases input with
  | line typed =>
    obtain rfl : typed = "" := hinput
    obtain rfl : InputKind.line = kind := hkind
    unfold read readLine
    simp only [events_emit, hleft]
    exact ⟨rfl, rfl⟩
  | key k =>
    obtain rfl : k = .escape := hinput
    obtain rfl : InputKind.key = kind := hkind
    unfold read readKey nextKey
    rw [hleft]
    exact ⟨rfl, rfl⟩
  | pointer frame => exact absurd hkind.symm hpointer

/-- Of two ways to cut a list of events at an interrupt, the first with no interrupt before, either
they are the same or the second cuts later. -/
theorem same_or_later {taken typed rest rest' : List HostEvent} {e e' : HostEvent}
    (hsplit : taken ++ e' :: rest' = typed ++ e :: rest) (hquiet : Quiet taken)
    (he : e.keyReport = .interrupt) :
    taken = typed ∧ e' = e ∧ rest' = rest ∨ ∃ later, rest' = later ++ e :: rest := by
  rcases List.append_eq_append_iff.mp hsplit with ⟨_ | ⟨a, later⟩, htyped, hrest⟩ |
    ⟨_ | ⟨a, more⟩, htaken, hrest⟩
  · obtain ⟨rfl, rfl⟩ := List.cons.inj hrest
    exact Or.inl ⟨by simpa using htyped.symm, rfl, rfl⟩
  · exact Or.inr ⟨later, (List.cons.inj hrest).2⟩
  · obtain ⟨rfl, rfl⟩ := List.cons.inj hrest
    exact Or.inl ⟨by simpa using htaken, rfl, rfl⟩
  · -- the interrupt would be among the events before the first one
    obtain ⟨rfl, -⟩ := List.cons.inj hrest
    exact absurd he (hquiet e (by rw [htaken]; simp))

end Host

/-- A dismissal writes no file and asks the power supply for nothing. -/
theorem Session.Move.of_dismisses {s s' : Session} {w w' : World} {input : Input}
    {request : Option PowerAction} (h : Move s w (some input) s' w' request)
    (hinput : input.Dismisses) (hmode : s.mode ≠ .desktop) :
    w'.store = w.store ∧ request = none := by
  constructor
  · rcases h.store_frame with hsame | ⟨⟨line, ⟨-, typed, htyped, hline⟩, -⟩, -⟩
    · exact hsame
    · obtain rfl := Option.some.inj htyped
      obtain rfl : typed = "" := hinput
      have hblank : commandOf "" = none := by decide
      exact absurd (hblank.symm.trans hline) (by simp)
  · cases request with
    | none => rfl
    | some action =>
      rcases h.request_eq_some.2 with ⟨-, typed, word, rest, htyped, -, hwords, -⟩ |
        ⟨hdesktop, -⟩
      · obtain rfl := Option.some.inj htyped
        obtain rfl : typed = "" := hinput
        cases hwords
      · exact absurd hdesktop hmode

namespace Seat

variable {settings : Settings} {q : Seat} {before rest : List HostEvent} {e : HostEvent}

/-- A run that takes an interrupt has a step that reads it, and ends with this step. -/
theorem exists_interrupted (hevents : q.host.events = before ++ e :: rest)
    (he : e.keyReport = .interrupt)
    (htaken : (q.ended settings).host.events.length ≤ rest.length) :
    ∃ r ∈ q.seats settings, ∃ typed input h, r.host.events = typed ++ e :: rest ∧
      r.read.1 = .ok input ∧ input.Dismisses ∧ r.read.2.events = rest ∧ h.events = rest ∧
      r.next settings = .error ⟨.shutdown, h, (r.turn (some input)).world⟩ := by
  induction q using next_induction settings generalizing before with
  | step q ih =>
    -- no run ends before it has taken the interrupt
    have hgoes {e' : Ended} {later : List HostEvent} (hnext : q.next settings = .error e')
        (hleft : e'.host.events = later ++ e :: rest) : False := by
      rw [ended_of_error hnext, hleft, List.length_append, List.length_cons] at htaken
      omega
    have houtcome := next_outcome settings q
    generalize hnext : q.next settings = o at houtcome
    cases houtcome with
    | failed hquiet => exact absurd he (hquiet e (by rw [hevents]; simp))
    | @interrupted taken e' rest' input h hread hsplit hquiet he' hinput hleft hrest hlatch =>
      rcases Host.same_or_later (hsplit.symm.trans hevents) hquiet he with
        ⟨-, -, rfl⟩ | ⟨later, rfl⟩
      · exact ⟨q, mem_seats_self settings q, before, input, h, hevents, hread, hinput, hleft,
          hrest, hnext⟩
      · exact (hgoes hnext hrest).elim
    | @answered taken e' rest' input h hread hsplit hquiet he' hrest hlatch =>
      rcases Host.same_or_later (hsplit.symm.trans hevents) hquiet he with
        ⟨-, rfl, -⟩ | ⟨later, rfl⟩
      · exact absurd he he'
      · cases hfollow : follow settings (q.host.latch.note (q.turn (some input)).request).pending
            ⟨(q.turn (some input)).session, (q.turn (some input)).world⟩ h with
        | error e' =>
          rw [hfollow] at hnext
          obtain ⟨-, rfl⟩ := follow_eq_error_iff.mp hfollow
          exact (hgoes hnext hrest).elim
        | ok q' =>
          rw [hfollow] at hnext
          rw [ended_of_ok hnext] at htaken
          obtain ⟨r, hr, hinterrupted⟩ :=
            ih q' hnext ((host_of_follow hfollow).symm ▸ hrest) htaken
          exact ⟨r, mem_seats_iff.mpr (Or.inr ⟨q', hnext, hr⟩), hinterrupted⟩

/-- **An interrupt dismisses the question and ends the sessions.** If a run that stays away from the
desktop takes a press of control with `c`, then there is a step with which it ends, and after which
no event is taken. Whatever has been typed before the interrupt, this step becomes of the session,
of its world and of the power supply, and calls on the terminal, just what it would do if the
question were dismissed at once; it writes no file and makes no request. -/
theorem interrupt_dismisses {w : World} {h : Host} {k : KeyEvent}
    (hevents : h.events = before ++ .key k :: rest) (hmotion : k.motion ≠ .release)
    (hinterrupt : k.isInterrupt = true)
    (htaken : (Host.runSessions settings w h).host.events.length ≤ rest.length)
    (htext : ∀ q ∈ (first settings w h).seats settings, q.session.mode ≠ .desktop) :
    let ended := Host.runSessions settings w h
    ended.ending = .shutdown ∧ ended.host.events = rest ∧
    ∃ q ∈ (first settings w h).seats settings, ∃ typed,
      q.host.events = typed ++ .key k :: rest ∧ q.next settings = .error ended ∧
      ended.world.store = q.world.store ∧
      let dismissed := { q.host with events := .dismissing q.session.mode.asks :: rest }
      let d := q.session.dispatch Host.terminal.traced q.world (q.host, [])
      let d' := q.session.dispatch Host.terminal.traced q.world (dismissed, [])
      d.outcome = .ok none ∧ d'.outcome = .ok none ∧ d'.session = d.session ∧
        d'.world = d.world ∧ d'.terminal.2 = d.terminal.2 := by
  have he : (HostEvent.key k).keyReport = .interrupt := by
    simp [HostEvent.keyReport, hmotion, hinterrupt]
  obtain ⟨q, hq, typed, input, left, hq', hread, hinput, hheard, hleft, hnext⟩ :=
    exists_interrupted (q := first settings w h) hevents he htaken
  have hended := ended_of_error hnext
  rw [ended_of_mem hq, ← runSessions_eq] at hended
  have hmode := htext q hq
  obtain ⟨hstore, hrequest⟩ := (Session.step_moves q.session (q.read.2.found q.world)
    (some input)).of_dismisses hinput hmode
  intro ended
  refine ⟨?_, ?_, q, hq, typed, hq', ?_, ?_, ?_⟩
  · exact congrArg Ended.ending hended
  · exact (congrArg (·.host.events) hended).trans hleft
  · exact hnext.trans (congrArg Except.error hended.symm)
  · exact (congrArg (·.world.store) hended).trans hstore
  · intro dismissed d d'
    have hkind : input.kind = q.session.mode.asks := Host.kind_of_read hread
    have hpointer : q.session.mode.asks ≠ .pointer := Mode.asks_eq_pointer_iff.not.mpr hmode
    have hkeys : (Host.terminal.performAll dismissed q.session.prompt).events =
        .dismissing q.session.mode.asks :: rest := Host.events_performAll dismissed _
    obtain ⟨hread', hheard'⟩ := Host.read_dismissing hkeys hkind hinput hpointer
    have hd : d = _ := Session.dispatch_traced Host.terminal (Prod.ext hread rfl) q.world []
    have hd' : d' = _ := Session.dispatch_traced Host.terminal (Prod.ext hread' rfl) q.world []
    -- both answers are given with the same events to come, hence at the same time
    have hnow : ((Host.terminal.performAll dismissed q.session.prompt).read
        q.session.mode.asks).2.now = q.read.2.now := by
      refine Host.now_eq ?_ (by rw [hheard', hheard])
      rw [Host.clock_read, Host.clock_performAll, Seat.read, Host.clock_read,
        Host.clock_performAll]
    have hclock : Host.terminal.clock (Host.terminal.read q.session.mode.asks
        (Host.terminal.performAll dismissed q.session.prompt)).2 = Host.terminal.clock q.read.2 :=
      congrArg some hnow
    rw [hd, hd', hclock]
    exact ⟨congrArg Except.ok hrequest, congrArg Except.ok hrequest, rfl, rfl, rfl⟩

/-- A command that is interrupted in the game before Enter does not run, nor does what is typed
after it. -/
theorem interrupt_in_game :
    let w : World := ⟨.memory [], ⟨[], 0⟩, ⟨0, 0⟩⟩
    let before := .key { code := .enter } :: HostEvent.typing "user" ++ HostEvent.typing "game1" ++
      HostEvent.keys "data save"
    let interrupt := .key { code := .char 'c', modifiers := { control := true } }
    let h : Host := { events := before ++ interrupt :: HostEvent.typing "data save" }
    (Host.runSessions {} w h).ending = .shutdown ∧
      (Host.runSessions {} w h).host.events = HostEvent.typing "data save" ∧
      ∃ q ∈ (first {} w h).seats {}, q.next {} = .error (Host.runSessions {} w h) ∧
        (Host.runSessions {} w h).world.store = q.world.store := by
  intro w before interrupt h
  have hevents : h.events = before ++ interrupt :: HostEvent.typing "data save" := rfl
  have htaken : (Host.runSessions {} w h).host.events.length ≤
      (HostEvent.typing "data save").length := by decide +kernel
  have htext : ∀ q ∈ (first {} w h).seats {}, q.session.mode ≠ .desktop := by decide +kernel
  obtain ⟨hending, hleft, q, hq, -, -, hnext, hstore, -⟩ :=
    interrupt_dismisses hevents (by decide) (by decide) htaken htext
  exact ⟨hending, hleft, q, hq, hnext, hstore⟩

end Seat

end ModalConsole
