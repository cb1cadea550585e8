import ModalConsole.Proofs.Host.Run
import ModalConsole.Proofs.ProductKey
import ModalConsole.Proofs.Session.Randomness

/-!
# What outlasts a reboot

Nothing but the store. The sessions after a reboot do what they would do on a fresh host, with the
same files and the events that are left; only the random words show that there has been something
before, in the keys that are generated. Events that come at other times make no difference either,
but for the line in which a session tells the times.

* `TextAlike`: texts that are the same but for generated keys and for that line. `KeysAlike`: what
  the keys of two sessions have to be for their texts to be so.
* `Host.SameTimes`: the events that are left come at the same times. `Host.Alike`: two hosts that
  show text and have written the same since some moment. One lemma for each thing a host does.
* `Seat.Alike`, `Ended.Alike`: the same for seats and for what is left in the end.
  `Seat.Alike.next`, `Seat.Alike.ended`: one step, and all of them.
* `Seat.RebootsAt`: a history that ends in a reboot.
* **`Seat.reboot_forgets`**: what follows a reboot.
-/

namespace ModalConsole

/-! ## Texts with keys and times in them -/

/-- Texts that are the same but for generated keys in the same places and, if the clocks are adrift,
for the lines that tell the times. -/
inductive TextAlike (adrift : Prop) : String → String → Prop
  | same (text) : TextAlike adrift text text
  | keys {k k'} (hk : IsGenerated k) (hk' : IsGenerated k') : TextAlike adrift k k'
  | uptime (h : adrift) (startedAt now startedAt' now') :
      TextAlike adrift (Host.screenText (Session.uptimeLine startedAt now))
        (Host.screenText (Session.uptimeLine startedAt' now'))
  | append {s s' t t'} (hs : TextAlike adrift s s') (ht : TextAlike adrift t t') :
      TextAlike adrift (s ++ t) (s' ++ t')

/-- The keys of two sessions, if they have any: the same, or both generated. -/
def KeysAlike (key key' : Option String) : Prop :=
  key' = key ∨ ∃ k k', key = some k ∧ key' = some k' ∧ IsGenerated k ∧ IsGenerated k'

namespace Host

theorem screenText_append (s t : String) :
    screenText (s ++ t) = screenText s ++ screenText t := by
  simp [screenText, String.ofList_append]

/-- A key has no line ends. -/
theorem screenText_of_generated {k : String} (h : IsGenerated k) : screenText k = k := by
  have hchars : ∀ c ∈ k.toList, screenChars c = [c] := by
    intro c hc
    have hne : c ≠ '\n' := by
      rintro rfl
      rcases h.mem hc with hhyphen | hkey
      · exact absurd hhyphen (by decide)
      · exact absurd hkey (by decide)
    exact if_neg hne
  rw [screenText, List.flatMap_congr hchars, List.flatMap_singleton', String.ofList_toList]

theorem screenText_alike {adrift : Prop} {key key' : Option String} {k k' : String}
    (hkeys : KeysAlike key key') (hk : key = some k) (hk' : key' = some k')
    (before after : String) :
    TextAlike adrift (screenText (before ++ k ++ after)) (screenText (before ++ k' ++ after)) := by
  rcases hkeys with hsame | ⟨l, l', hl, hl', hg, hg'⟩
  · obtain rfl : k' = k := by simpa [hk, hk'] using hsame
    exact .same _
  · obtain rfl : k = l := by simpa [hk] using hl
    obtain rfl : k' = l' := by simpa [hk'] using hl'
    simp only [screenText_append, screenText_of_generated hg, screenText_of_generated hg']
    exact .append (.append (.same _) (.keys hg hg')) (.same _)

/-! ## Hosts -/

/-- The clocks show the same as long as events of the first host are to come, and when the last of
them has come. -/
def SameTimes (h h' : Host) : Prop := ∀ n ≤ h.events.length, h'.clock n = h.clock n

/-- Two hosts that show text, have the same events to come and the same pending request, and have
written the same but for generated keys since the one had written `base` and the other `base'`. If
their clocks are adrift, then they may also have written different times. -/
structure Alike (adrift : Prop) (base base' : String) (h h' : Host) : Prop where
  events : h'.events = h.events
  times : ¬ adrift → h.SameTimes h'
  latch : h'.latch = h.latch
  display : h.display = .text
  display' : h'.display = .text
  output : ∃ written written', h.output = base ++ written ∧ h'.output = base' ++ written' ∧
    TextAlike adrift written written'

theorem leaveDesktop_of_text {h : Host} (hdisplay : h.display = .text) : h.leaveDesktop = h := by
  unfold leaveDesktop
  rw [hdisplay]

section Alike

variable {adrift : Prop} {base base' : String} {l l' : Host}

theorem Alike.refl (hdisplay : l.display = .text) : Alike adrift l.output l.output l l :=
  ⟨rfl, fun _ _ _ => rfl, rfl, hdisplay, hdisplay, "", "", by simp, by simp, .same _⟩

theorem Alike.now (h : Alike adrift base base' l l') (hadrift : ¬ adrift) : l'.now = l.now := by
  rw [Host.now, Host.now, h.events]
  exact h.times hadrift _ le_rfl

theorem Alike.emit (h : Alike adrift base base' l l') {text text' : String}
    (htext : TextAlike adrift text text') :
    Alike adrift base base' (l.emit text) (l'.emit text') := by
  obtain ⟨written, written', hwritten, hwritten', hsame⟩ := h.output
  refine ⟨h.events, h.times, h.latch, h.display, h.display', written ++ text, written' ++ text',
    ?_, ?_, hsame.append htext⟩
  · rw [Host.emit, hwritten, String.append_assoc]
  · rw [Host.emit, hwritten', String.append_assoc]

theorem Alike.leaveDesktop (h : Alike adrift base base' l l') :
    Alike adrift base base' l.leaveDesktop l'.leaveDesktop := by
  rwa [leaveDesktop_of_text h.display, leaveDesktop_of_text h.display']

/-- Some of the events are taken. -/
theorem Alike.withEvents (h : Alike adrift base base' l l') {events : List HostEvent}
    (hle : events.length ≤ l.events.length) :
    Alike adrift base base' { l with events := events } { l' with events := events } :=
  ⟨rfl, fun hadrift n hn => h.times hadrift n (hn.trans hle), h.latch, h.display, h.display',
    h.output⟩

@[simp] theorem events_absorb (h : Host) (e : HostEvent) : (h.absorb e).events = h.events := by
  unfold absorb
  split <;> rfl

theorem Alike.absorb (h : Alike adrift base base' l l') (e : HostEvent) :
    Alike adrift base base' (l.absorb e) (l'.absorb e) := by
  unfold Host.absorb
  split
  · exact ⟨h.events, h.times, congrArg (·.request .shutdown) h.latch, h.display, h.display',
      h.output⟩
  · exact ⟨h.events, h.times, h.latch, h.display, h.display', h.output⟩
  · exact h

/-- Alike effects are carried out alike, except on the desktop. -/
theorem Alike.perform (h : Alike adrift base base' l l') {settings : Settings} {mode : Mode}
    {key key' : Option String} {e e' : Effect} (he : e.Similar adrift settings mode key key' e')
    (hmode : mode ≠ .desktop) (hkeys : KeysAlike key key') :
    Alike adrift base base' (l.perform e) (l'.perform e') := by
  cases he with
  | uptime hadrift =>
    refine h.leaveDesktop.emit ?_
    rw [screenText_append, screenText_append]
    exact .append (.uptime hadrift _ _ _ _) (.same _)
  | alike he =>
    cases he with
    | plain hplain =>
      cases e with
      | text content => exact h.leaveDesktop.emit (.same _)
      | clear => exact h.leaveDesktop.emit (.same _)
      | foreground color => exact h.emit (.same _)
      | background color => exact h.emit (.same _)
      | pause => exact h
      | randomPause => cases hplain
      | present => cases hplain
    | present hdesktop => exact absurd hdesktop hmode
    | pause => exact h
    | key before after hk hk' =>
      exact h.leaveDesktop.emit (screenText_alike hkeys hk hk' before after)

theorem Alike.performAll (h : Alike adrift base base' l l') {settings : Settings} {mode : Mode}
    {key key' : Option String} {effects effects' : List Effect}
    (heffects : List.Forall₂ (Effect.Similar adrift settings mode key key') effects effects')
    (hmode : mode ≠ .desktop) (hkeys : KeysAlike key key') :
    Alike adrift base base' (terminal.performAll l effects) (terminal.performAll l' effects') := by
  induction heffects generalizing l l' with
  | nil => exact h
  | cons he _ ih => exact ih (h.perform he hmode hkeys)

/-! ## Reading -/

/-- The same answer, and hosts that are alike. -/
def AlikeAnswers {α : Type} (adrift : Prop) (base base' : String)
    (r r' : Except HostError α × Host) : Prop :=
  r'.1 = r.1 ∧ Alike adrift base base' r.2 r'.2

theorem Alike.nextKeyFrom (h : Alike adrift base base' l l') {events : List HostEvent}
    (hle : events.length ≤ l.events.length) :
    AlikeAnswers adrift base base' (Host.nextKeyFrom events l) (Host.nextKeyFrom events l') := by
  induction events generalizing l l' with
  | nil => exact ⟨rfl, h.withEvents (Nat.zero_le _)⟩
  | cons e rest ih =>
    have hrest : rest.length ≤ (l.absorb e).events.length := by
      rw [events_absorb]
      exact (Nat.le_succ _).trans hle
    unfold Host.nextKeyFrom
    cases e.keyReport with
    | nothing => exact ih (h.absorb e) hrest
    | interrupt => exact ⟨rfl, (h.absorb e).withEvents hrest⟩
    | key k => exact ⟨rfl, (h.absorb e).withEvents hrest⟩

theorem Alike.readKey (h : Alike adrift base base' l l') :
    AlikeAnswers adrift base base' l.readKey l'.readKey := by
  have hkey := h.leaveDesktop.nextKeyFrom le_rfl
  rw [readKey_eq, readKey_eq, nextKey, nextKey, h.leaveDesktop.events]
  exact ⟨congrArg (Except.map (·.getD .escape)) hkey.1, hkey.2⟩

theorem Alike.readLineFrom (h : Alike adrift base base' l l') {events : List HostEvent}
    (hle : events.length ≤ l.events.length) (editor : LineEditor) :
    AlikeAnswers adrift base base' (Host.readLineFrom events editor l)
      (Host.readLineFrom events editor l') := by
  induction events generalizing editor l l' with
  | nil => exact ⟨rfl, h.withEvents (Nat.zero_le _)⟩
  | cons e rest ih =>
    have hrest : rest.length ≤ (l.absorb e).events.length := by
      rw [events_absorb]
      exact (Nat.le_succ _).trans hle
    unfold Host.readLineFrom
    cases e.keyReport with
    | nothing => exact ih (h.absorb e) hrest editor
    | interrupt => exact ⟨rfl, ((h.absorb e).withEvents hrest).emit (.same _)⟩
    | key k =>
      simp only
      rcases editor.feed (some k) with ⟨editor, _ | text | line⟩
      · exact ih (h.absorb e) hrest editor
      · exact ih ((h.absorb e).emit (.same text)) hrest editor
      · exact ⟨rfl, ((h.absorb e).withEvents hrest).emit (.same _)⟩

theorem Alike.readLine (h : Alike adrift base base' l l') :
    AlikeAnswers adrift base base' l.readLine l'.readLine := by
  have hshown := h.leaveDesktop.emit (.same showCursor)
  unfold Host.readLine
  simp only
  rw [hshown.events]
  exact hshown.readLineFrom le_rfl {}

/-- Alike hosts are read alike, except on the desktop. -/
theorem Alike.read (h : Alike adrift base base' l l') {kind : InputKind} (hkind : kind ≠ .pointer) :
    AlikeAnswers adrift base base' (l.read kind) (l'.read kind) := by
  cases kind with
  | line => exact ⟨congrArg (Except.map Input.line) h.readLine.1, h.readLine.2⟩
  | key => exact ⟨congrArg (Except.map Input.key) h.readKey.1, h.readKey.2⟩
  | pointer => exact absurd rfl hkind

end Alike

end Host

/-! ## Seats -/

/-- What is left in the end by two runs: the same but for the random words, the times, and generated
keys in what has been written since the one had written `base` and the other `base'`. If the clocks
are adrift, then different times may have been written as well. -/
structure Ended.Alike (adrift : Prop) (base base' : String) (e e' : Ended) : Prop where
  ending : e'.ending = e.ending
  store : e'.world.store = e.world.store
  host : e.host.Alike adrift base base' e'.host

namespace Seat

/-- Two seats whose sessions and worlds are the same but for the key, the words to come and the
times, at hosts that are alike. -/
structure Alike (adrift : Prop) (base base' : String) (q q' : Seat) : Prop where
  stage : q.toStage.Similar adrift q'.toStage
  keys : KeysAlike q.session.activation.key q'.session.activation.key
  host : q.host.Alike adrift base base' q'.host

variable {settings : Settings} {adrift : Prop} {base base' : String} {q q' : Seat}

/-- A step keeps keys alike: it leaves both, or makes them the same, or generates both. -/
theorem Alike.keysTurn (h : q.Alike adrift base base' q') {x x' : Cue}
    (hx : x.Similar adrift x') :
    KeysAlike (q.toStage.turn x).session.activation.key
      (q'.toStage.turn x').session.activation.key := by
  cases h.stage.keys hx with
  | kept hkept hkept' =>
    rw [hkept, hkept']
    exact h.keys
  | level hlevel => exact Or.inl (congrArg Activation.key hlevel)
  | @generated k k' hk hk' =>
    refine Or.inr ⟨k, k', ?_, ?_, ⟨_, congrArg Prod.fst hk.2.2⟩, ⟨_, congrArg Prod.fst hk'.2.2⟩⟩
    · rw [hk.2.1]
    · rw [hk'.2.1]

theorem Alike.read (h : q.Alike adrift base base' q') (hmode : q.session.mode ≠ .desktop) :
    Host.AlikeAnswers adrift base base' q.read q'.read := by
  have hprompt : q'.session.prompt = q.session.prompt := by rw [h.stage.session]; rfl
  have hmode' : q'.session.mode = q.session.mode := by rw [h.stage.session]
  have heffects : List.Forall₂ (Effect.Similar adrift q.session.settings q.session.mode
      q.session.activation.key q'.session.activation.key) q.session.prompt q.session.prompt :=
    Session.similar_of_allPlain q.session.allPlain_prompt
  have hprompted := h.host.performAll heffects hmode h.keys
  unfold Seat.read
  rw [hprompt, hmode']
  exact hprompted.read (Mode.asks_eq_pointer_iff.not.mpr hmode)

/-- Two steps that both end the sessions or both lead on, to what is alike. -/
inductive AlikeNext (adrift : Prop) (base base' : String) :
    Except Ended Seat → Except Ended Seat → Prop
  | error {e e'} (h : e.Alike adrift base base' e') :
    AlikeNext adrift base base' (.error e) (.error e')
  | ok {p p'} (h : p.Alike adrift base base' p') : AlikeNext adrift base base' (.ok p) (.ok p')

/-- What two new sessions find is alike if their stores are the same and their hosts are alike. -/
theorem first_alike {w w' : World} {l l' : Host} (hstore : w'.store = w.store)
    (hhost : l.Alike adrift base base' l') :
    (first settings w l).Alike adrift base base' (first settings w' l') :=
  ⟨⟨rfl, hhost.now, rfl, hstore⟩, Or.inl rfl, hhost⟩

theorem follow_alike (settings : Settings) (pending : Option PowerAction) {r r' : Stage}
    {l l' : Host} (hstage : r.Similar adrift r')
    (hkeys : KeysAlike r.session.activation.key r'.session.activation.key)
    (hhost : l.Alike adrift base base' l') :
    AlikeNext adrift base base' (follow settings pending r l) (follow settings pending r' l') := by
  rcases pending with _ | _ | _
  · exact .ok ⟨hstage, hkeys, hhost⟩
  · exact .ok (first_alike hstage.store hhost)
  · exact .error ⟨rfl, hstage.store, hhost⟩

/-- The cue of a step on a host: what is read, and the time when it has been read. -/
def cue (q : Seat) : Cue := ⟨q.read.2.now, q.read.1.toOption⟩

theorem turn_eq (q : Seat) : q.turn q.read.1.toOption = q.toStage.turn q.cue := rfl

/-- Seats that are alike make steps that are alike, except on the desktop. -/
theorem Alike.next (settings : Settings) (h : q.Alike adrift base base' q')
    (hmode : q.session.mode ≠ .desktop) :
    AlikeNext adrift base base' (q.next settings) (q'.next settings) := by
  obtain ⟨hanswer, hleft⟩ := h.read hmode
  have hcue : q.cue.Similar adrift q'.cue := ⟨congrArg Except.toOption hanswer, hleft.now⟩
  have hturn := h.stage.turn hcue
  have hstage := h.stage.next hcue
  have hkeys := h.keysTurn hcue
  have hhost := hleft.performAll hturn.effects hmode hkeys
  unfold Seat.next pending settled
  rw [dispatched_eq, dispatched_eq, turn_eq, turn_eq, hanswer]
  cases q.read.1 with
  | error e => exact .error ⟨rfl, hstage.store, hhost⟩
  | ok input =>
    simp only [Except.map, mapError_ok, hturn.request, hhost.latch]
    exact follow_alike settings _ hstage hkeys
      ⟨hhost.events, hhost.times, rfl, hhost.display, hhost.display', hhost.output⟩

/-- Seats that are alike come to ends that are alike, if the desktop is not entered. -/
theorem Alike.ended (h : q.Alike adrift base base' q')
    (htext : ∀ r ∈ q.seats settings, r.session.mode ≠ .desktop) :
    (q.ended settings).Alike adrift base base' (q'.ended settings) := by
  induction q using next_induction settings generalizing q' with
  | step q ih =>
    have halike := h.next settings (htext q (mem_seats_self settings q))
    generalize hnext : q.next settings = o, hnext' : q'.next settings = o' at halike
    cases halike with
    | error he =>
      rwa [ended_of_error hnext, ended_of_error hnext']
    | ok hp =>
      rw [ended_of_ok hnext, ended_of_ok hnext']
      exact ih _ hnext hp fun r hr => htext r (mem_seats_iff.mpr (Or.inr ⟨_, hnext, hr⟩))

theorem Alike.refl (hdisplay : q.host.display = .text) :
    q.Alike False q.host.output q.host.output q :=
  ⟨⟨rfl, fun _ => rfl, rfl, rfl⟩, Or.inl rfl, .refl hdisplay⟩

/-- Sessions that stay away from the desktop leave it out of sight. -/
theorem display_of_mem (hdisplay : q.host.display = .text)
    (htext : ∀ r ∈ q.seats settings, r.session.mode ≠ .desktop) {r : Seat}
    (hr : r ∈ q.seats settings) : r.host.display = .text := by
  induction q using next_induction settings with
  | step q ih =>
    rcases mem_seats_iff.mp hr with rfl | ⟨p, hnext, hr'⟩
    · exact hdisplay
    · have halike := (Alike.refl hdisplay).next settings (htext q (mem_seats_self settings q))
      rw [hnext] at halike
      cases halike with
      | ok hp =>
        exact ih p hnext hp.host.display
          (fun r hr => htext r (mem_seats_iff.mpr (Or.inr ⟨p, hnext, hr⟩))) hr'

/-- A history that ends in a reboot: sessions that begin on a host that shows text and stay away
from the desktop, and a step of theirs after which a reboot is pending. -/
structure RebootsAt (settings : Settings) (w : World) (h : Host) (q : Seat) : Prop where
  display : h.display = .text
  text : ∀ r ∈ (first settings w h).seats settings, r.session.mode ≠ .desktop
  mem : q ∈ (first settings w h).seats settings
  reboot : q.pending = some .reboot

section RebootsAt

variable {w : World} {h : Host}

/-- The seat after a reboot is that of a new session. -/
theorem RebootsAt.mem_first (hq : RebootsAt settings w h q) :
    first settings q.dispatched.world q.settled ∈ (first settings w h).seats settings :=
  seats_subset hq.mem
    (mem_seats_iff.mpr (Or.inr ⟨_, next_of_reboot settings hq.reboot, mem_seats_self _ _⟩))

theorem RebootsAt.display_settled (hq : RebootsAt settings w h q) :
    q.settled.display = .text :=
  display_of_mem hq.display hq.text hq.mem_first

/-- After a reboot the sessions go on as if they began. -/
theorem RebootsAt.runSessions_again (hq : RebootsAt settings w h q) :
    Host.runSessions settings w h = Host.runSessions settings q.dispatched.world q.settled := by
  rw [runSessions_eq, runSessions_eq, ended_of_mem hq.mem_first]

theorem RebootsAt.alike (hq : RebootsAt settings w h q) {w' : World} {fresh : Host}
    (hstore : w'.store = q.dispatched.world.store) (hevents : fresh.events = q.settled.events)
    (hdisplay : fresh.display = .text) (hlatch : fresh.latch = {}) :
    (Host.runSessions settings w h).Alike (¬ q.settled.SameTimes fresh) q.settled.output
      fresh.output (Host.runSessions settings w' fresh) := by
  rw [hq.runSessions_again]
  have hhost : q.settled.Alike (¬ q.settled.SameTimes fresh) q.settled.output fresh.output fresh :=
    ⟨hevents, not_not.mp, hlatch, hq.display_settled, hdisplay, "", "", by simp, by simp, .same _⟩
  exact Alike.ended (first_alike hstore hhost) fun r hr => hq.text r (seats_subset hq.mem_first hr)

end RebootsAt

end Seat

end ModalConsole
