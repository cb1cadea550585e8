import Mathlib.Data.List.Basic
import ModalConsole.Proofs.Host.LineEditor
import ModalConsole.Proofs.Host.Read

/-!
# Which events a read goes by

While a line or a key is read, only the keys that are not let go count. All other events may come
wherever they like; the size of the terminal is all that they change.

* `HostEvent.presses`: the events that count. `HostEvent.EndsLine`: those that end a line.
* `HostEvent.FirstAt`: the first event of a kind, with the events before and behind it.
  `FirstAt.transfer`: it is the same in all queues with the same events that count.
* `Host.absorbAll`: what events that are taken change. `SameButQueue`: hosts that differ in their
  queues and sizes only; `SameButQueue.absorbAll`: only the events that count tell hosts apart.
* `Host.readLine_of_firstAt`, `readLine_of_none`, `readKey_of_firstAt`, `readKey_of_none`: what a
  read answers and what it leaves, by the first event that ends it.
* `Host.ReadsUpTo`: how far a read goes, and the size that it leaves. `Host.ReadKind`: what a read
  does by the events that count; `ReadKind.Reads.readsUpTo`, `ReadKind.Reads.same`: any such read.
* **`Host.reads_go_by_presses`**: reads from queues with the same events that count.
-/

namespace ModalConsole

/-! ## Events -/

namespace HostEvent

/-- Is the event a key that is not let go? -/
def isPress : HostEvent → Bool
  | .key e => e.motion != .release
  | _ => false

/-- The keys that are not let go. -/
def presses (events : List HostEvent) : List HostEvent := events.filter isPress

/-- The event is Enter, or control with `c`. -/
def EndsLine (e : HostEvent) : Prop :=
  ∃ k : KeyEvent, e = .key k ∧ k.motion ≠ .release ∧ (k.code = .enter ∨ k.isInterrupt = true)

/-- The key that an event reports. -/
def reported? (e : HostEvent) : Option Key :=
  match e.keyReport with
  | .key k => some k
  | _ => none

/-- The keys that events report. -/
def keysOf (events : List HostEvent) : List Key := events.filterMap reported?

/-- The size that an event reports. -/
def resized? : HostEvent → Option (Nat × Nat)
  | .resize columns rows => some (columns, rows)
  | _ => none

/-- The size after some events: that of the last resize among them, if there is one. -/
def sizeAfter (size : Nat × Nat) (events : List HostEvent) : Nat × Nat :=
  ((events.filterMap resized?).getLast?).getD size

variable {e : HostEvent} {events events' before rest : List HostEvent} {p : HostEvent → Prop}

theorem keyReport_eq_nothing_iff : e.keyReport = .nothing ↔ e.isPress = false := by
  cases e with
  | key k =>
    simp only [keyReport, isPress, bne_eq_false_iff_eq]
    split_ifs <;> simp [*]
  | _ => simp [keyReport, isPress]

theorem endsLine_iff : e.EndsLine ↔ e.keyReport = .interrupt ∨ e.keyReport = .key .enter := by
  have henter : ∀ code : KeyCode, code.key = .enter ↔ code = .enter := by
    intro code
    cases code <;> simp [KeyCode.key]
  cases e with
  | key k =>
    simp only [EndsLine, HostEvent.key.injEq, exists_eq_left', keyReport]
    split_ifs <;> simp [*]
  | _ => simp [EndsLine, keyReport]

theorem isPress_of_endsLine (h : e.EndsLine) : e.isPress = true := by
  obtain ⟨k, rfl, hmotion, -⟩ := h
  exact bne_iff_ne.mpr hmotion

theorem keysOf_cons_of_nothing (h : e.keyReport = .nothing) (events : List HostEvent) :
    keysOf (e :: events) = keysOf events := by
  simp [keysOf, reported?, h]

theorem keysOf_cons_of_key {k : Key} (h : e.keyReport = .key k) (events : List HostEvent) :
    keysOf (e :: events) = k :: keysOf events := by
  simp [keysOf, reported?, h]

theorem keysOf_presses (events : List HostEvent) : keysOf (presses events) = keysOf events := by
  rw [keysOf, presses, List.filterMap_filter]
  refine List.filterMap_congr fun e _ => ?_
  split_ifs with h
  · rfl
  · rw [reported?, keyReport_eq_nothing_iff.mpr (Bool.eq_false_iff.mpr h)]

/-! ### The first event of a kind -/

/-- The first event of a kind, with the events before and behind it. -/
structure FirstAt (p : HostEvent → Prop) (events before : List HostEvent) (e : HostEvent)
    (rest : List HostEvent) : Prop where
  split : events = before ++ e :: rest
  none_before : ∀ x ∈ before, ¬ p x
  here : p e

theorem firstAt_or_none (p : HostEvent → Prop) (events : List HostEvent) :
    (∃ before e rest, FirstAt p events before e rest) ∨ ∀ e ∈ events, ¬ p e := by
  induction events with
  | nil => exact Or.inr (List.forall_mem_nil _)
  | cons e events ih =>
    by_cases he : p e
    · exact Or.inl ⟨[], e, events, rfl, List.forall_mem_nil _, he⟩
    · rcases ih with ⟨before, e', rest, rfl, hbefore, he'⟩ | hnone
      · exact Or.inl ⟨e :: before, e', rest, rfl, List.forall_mem_cons.mpr ⟨he, hbefore⟩, he'⟩
      · exact Or.inr (List.forall_mem_cons.mpr ⟨he, hnone⟩)

theorem none_in_presses_iff (hpress : ∀ x, p x → x.isPress = true) :
    (∀ x ∈ presses events, ¬ p x) ↔ ∀ x ∈ events, ¬ p x := by
  refine forall_congr' fun x => ?_
  rw [presses, List.mem_filter, and_imp]
  exact imp_congr_right fun _ => ⟨fun h hx => h (hpress x hx) hx, fun h _ => h⟩

/-- Of a kind that counts, the first event is the same in all queues with the same events that
count, and so are the ones that count before and behind it. -/
theorem FirstAt.transfer (hpress : ∀ x, p x → x.isPress = true) (h : FirstAt p events before e rest)
    (hsame : presses events' = presses events) :
    ∃ before' rest', FirstAt p events' before' e rest' ∧ presses before' = presses before ∧
      presses rest' = presses rest := by
  obtain ⟨rfl, hbefore, he⟩ := h
  have hcut : presses (before ++ e :: rest) = presses before ++ e :: presses rest := by
    rw [presses, List.filter_append, List.filter_cons_of_pos (hpress e he), presses, presses]
  obtain ⟨front, back, rfl, hfront, hback⟩ :=
    List.filter_eq_append_iff.mp (hsame.trans hcut)
  obtain ⟨quiet, rest', rfl, hquiet, -, hrest⟩ := List.filter_eq_cons_iff.mp hback
  have hpresses : presses (front ++ quiet) = presses before := by
    rw [presses, List.filter_append, hfront, List.filter_eq_nil_iff.mpr hquiet, List.append_nil]
  have hnone : ∀ x ∈ front ++ quiet, ¬ p x := by
    rwa [← none_in_presses_iff hpress, hpresses, none_in_presses_iff hpress]
  exact ⟨front ++ quiet, rest', ⟨by simp, hnone, he⟩, hpresses, hrest⟩

/-! ### Sizes -/

theorem sizeAfter_cons (size : Nat × Nat) (e : HostEvent) (events : List HostEvent) :
    sizeAfter size (e :: events) = sizeAfter (e.resized?.getD size) events := by
  rw [sizeAfter, sizeAfter, List.filterMap_cons]
  cases e.resized? with
  | none => rfl
  | some size' => rw [List.getLast?_cons, Option.getD_some, Option.getD_some]

end HostEvent

/-! ## Hosts -/

namespace Host

open HostEvent

/-- The size of the terminal as the host has it. -/
def size (h : Host) : Nat × Nat := (h.columns, h.rows)

/-- What events that are taken change. -/
def absorbAll (h : Host) (events : List HostEvent) : Host := events.foldl absorb h

variable {h h' : Host} {e : HostEvent} {events events' before rest : List HostEvent}

theorem emit_empty (h : Host) : h.emit "" = h := by
  rw [emit, String.append_empty]

theorem emit_emit (h : Host) (s t : String) : (h.emit s).emit t = h.emit (s ++ t) := by
  rw [emit, emit, emit, String.append_assoc]

theorem absorb_emit (h : Host) (e : HostEvent) (text : String) :
    (h.emit text).absorb e = (h.absorb e).emit text := by
  unfold absorb
  split <;> rfl

theorem absorbAll_emit (h : Host) (events : List HostEvent) (text : String) :
    (h.emit text).absorbAll events = (h.absorbAll events).emit text := by
  induction events generalizing h with
  | nil => rfl
  | cons e events ih => exact (congrArg (absorbAll · events) (absorb_emit h e text)).trans (ih _)

theorem output_absorbAll (h : Host) (events : List HostEvent) :
    (h.absorbAll events).output = h.output := by
  induction events generalizing h with
  | nil => rfl
  | cons e events ih =>
    have hone : (h.absorb e).output = h.output := by
      unfold absorb
      split <;> rfl
    exact (ih (h.absorb e)).trans hone

theorem size_absorb (h : Host) (e : HostEvent) : (h.absorb e).size = e.resized?.getD h.size := by
  cases e with
  | key k =>
    unfold absorb
    split <;> first | rfl | contradiction
  | _ => rfl

theorem size_absorbAll (h : Host) (events : List HostEvent) :
    (h.absorbAll events).size = sizeAfter h.size events := by
  induction events generalizing h with
  | nil => rfl
  | cons e events ih =>
    rw [sizeAfter_cons, ← size_absorb, ← ih, absorbAll, List.foldl_cons, absorbAll]

/-! ### Hosts with other queues -/

/-- Two hosts that differ at most in the events to come and in the size of the terminal. -/
structure SameButQueue (h h' : Host) : Prop where
  output : h.output = h'.output
  display : h.display = h'.display
  pointer : h.pointer = h'.pointer
  releasePending : h.releasePending = h'.releasePending
  latch : h.latch = h'.latch

theorem SameButQueue.refl (h : Host) : SameButQueue h h := ⟨rfl, rfl, rfl, rfl, rfl⟩

theorem SameButQueue.symm (hsame : SameButQueue h h') : SameButQueue h' h :=
  ⟨hsame.output.symm, hsame.display.symm, hsame.pointer.symm, hsame.releasePending.symm,
    hsame.latch.symm⟩

theorem SameButQueue.trans {h'' : Host} (hsame : SameButQueue h h') (hmore : SameButQueue h' h'') :
    SameButQueue h h'' :=
  ⟨hsame.output.trans hmore.output, hsame.display.trans hmore.display,
    hsame.pointer.trans hmore.pointer, hsame.releasePending.trans hmore.releasePending,
    hsame.latch.trans hmore.latch⟩

theorem SameButQueue.emit (hsame : SameButQueue h h') (text : String) :
    SameButQueue (h.emit text) (h'.emit text) :=
  { hsame with output := congrArg (· ++ text) hsame.output }

theorem SameButQueue.leaveDesktop (hsame : SameButQueue h h') :
    SameButQueue h.leaveDesktop h'.leaveDesktop := by
  have hdisplay := hsame.display
  unfold Host.leaveDesktop
  cases hshown : h'.display with
  | text =>
    rw [hshown] at hdisplay
    simpa only [hdisplay] using hsame
  | desktop picture =>
    rw [hshown] at hdisplay
    simp only [hdisplay]
    exact { hsame with output := congrArg (· ++ leaveSequence) hsame.output, display := rfl }

theorem SameButQueue.absorb (hsame : SameButQueue h h') (e : HostEvent) :
    SameButQueue (h.absorb e) (h'.absorb e) := by
  unfold Host.absorb
  split
  · exact { hsame with latch := congrArg (·.request .shutdown) hsame.latch }
  · exact { hsame with }
  · exact hsame

/-- An event that does not count changes at most the size. -/
theorem sameButQueue_absorb (he : e.isPress = false) : SameButQueue (h.absorb e) h := by
  unfold Host.absorb
  rw [keyReport_eq_nothing_iff.mpr he]
  split
  · contradiction
  · exact ⟨rfl, rfl, rfl, rfl, rfl⟩
  · exact .refl h

theorem SameButQueue.absorbAll_same (hsame : SameButQueue h h') (events : List HostEvent) :
    SameButQueue (h.absorbAll events) (h'.absorbAll events) := by
  induction events generalizing h h' with
  | nil => exact hsame
  | cons e events ih => exact ih (hsame.absorb e)

theorem absorbAll_presses (h : Host) (events : List HostEvent) :
    SameButQueue (h.absorbAll events) (h.absorbAll (presses events)) := by
  induction events generalizing h with
  | nil => exact .refl h
  | cons e events ih =>
    by_cases he : e.isPress = true
    · rw [presses, List.filter_cons_of_pos he]
      exact ih (h.absorb e)
    · rw [presses, List.filter_cons_of_neg he]
      have hquiet := sameButQueue_absorb (h := h) (Bool.eq_false_iff.mpr he)
      exact (ih (h.absorb e)).trans (hquiet.absorbAll_same _)

/-- Only the events that count tell apart what queues leave behind. -/
theorem SameButQueue.absorbAll (hsame : SameButQueue h h')
    (hpresses : presses events = presses events') :
    SameButQueue (h.absorbAll events) (h'.absorbAll events') := by
  have hboth := hsame.absorbAll_same (presses events')
  rw [← hpresses] at hboth
  refine (absorbAll_presses h events).trans (hboth.trans ?_)
  rw [hpresses]
  exact (absorbAll_presses h' events').symm

theorem SameButQueue.withEvents (hsame : SameButQueue h h') (events events' : List HostEvent) :
    SameButQueue { h with events := events } { h' with events := events' } := { hsame with }

/-! ### Reading a line -/

/-- The line that an event ends: nothing if it is an interrupt. -/
def lineAt (editor : LineEditor) (e : HostEvent) : String :=
  if e.keyReport = .interrupt then "" else String.ofList editor.buffer

theorem readLineFrom_of_nothing (he : e.keyReport = .nothing) (rest : List HostEvent)
    (editor : LineEditor) (h : Host) :
    readLineFrom (e :: rest) editor h = readLineFrom rest editor (h.absorb e) := by
  rw [readLineFrom, he]

/-- A key that does not end the line goes to the editor. -/
theorem readLineFrom_of_key {k : Key} (he : e.keyReport = .key k) (hk : k ≠ .enter)
    (rest : List HostEvent) (editor : LineEditor) (h : Host) :
    readLineFrom (e :: rest) editor h =
      readLineFrom rest (editor.press k) ((h.absorb e).emit (editor.echo k)) := by
  have hdone := editor.feed_ne_done hk
  rw [readLineFrom, he]
  simp only [LineEditor.press, LineEditor.echo]
  generalize editor.feed (some k) = result at hdone ⊢
  rcases result with ⟨next, _ | text | line⟩
  · rw [emit_empty]
  · rfl
  · exact (hdone line rfl).elim

theorem readLineFrom_of_endsLine (he : e.EndsLine) (rest : List HostEvent) (editor : LineEditor)
    (h : Host) : readLineFrom (e :: rest) editor h =
      (.ok (lineAt editor e), { (h.absorb e).emit lineEnd with events := rest }) := by
  rw [readLineFrom, lineAt]
  rcases endsLine_iff.mp he with hreport | hreport <;> simp [hreport, LineEditor.feed, emit]

/-- Events that do not end the line are typed. -/
theorem readLineFrom_append (hbefore : ∀ x ∈ before, ¬ x.EndsLine) (rest : List HostEvent)
    (editor : LineEditor) (h : Host) :
    readLineFrom (before ++ rest) editor h = readLineFrom rest (editor.pressAll (keysOf before))
      ((h.absorbAll before).emit (editor.echoes (keysOf before))) := by
  induction before generalizing editor h with
  | nil => exact congrArg (readLineFrom rest editor) (emit_empty h).symm
  | cons e before ih =>
    obtain ⟨he, hrest⟩ := List.forall_mem_cons.mp hbefore
    rw [endsLine_iff, not_or] at he
    rw [List.cons_append]
    cases hreport : e.keyReport with
    | interrupt => exact absurd hreport he.1
    | nothing =>
      rw [readLineFrom_of_nothing hreport, ih hrest, keysOf_cons_of_nothing hreport]
      rfl
    | key k =>
      have hk : k ≠ .enter := fun henter => he.2 (henter ▸ hreport)
      rw [readLineFrom_of_key hreport hk, ih hrest, absorbAll_emit, emit_emit,
        keysOf_cons_of_key hreport]
      rfl

theorem readLine_eq (h : Host) :
    h.readLine = readLineFrom h.events {} (h.leaveDesktop.emit showCursor) := by
  unfold readLine
  simp only [events_emit, events_leaveDesktop]

/-- A line that is ended: what has been typed before is answered, and has been echoed. -/
theorem readLine_of_firstAt (hfirst : FirstAt EndsLine h.events before e rest) :
    let editor : LineEditor := {}
    h.readLine = (.ok (lineAt (editor.pressAll (keysOf before)) e),
      { (h.leaveDesktop.absorbAll (before ++ [e])).emit
          (showCursor ++ editor.echoes (keysOf before) ++ lineEnd) with events := rest }) := by
  intro editor
  rw [readLine_eq, hfirst.split, readLineFrom_append hfirst.none_before,
    readLineFrom_of_endsLine hfirst.here, absorbAll_emit, emit_emit, absorb_emit, emit_emit]
  simp only [absorbAll, List.foldl_append, List.foldl_cons, List.foldl_nil]
  rfl

theorem readLine_of_none (hnone : ∀ x ∈ h.events, ¬ x.EndsLine) :
    let editor : LineEditor := {}
    h.readLine = (.error .inputEnded,
      { (h.leaveDesktop.absorbAll h.events).emit
          (showCursor ++ editor.echoes (keysOf h.events)) with events := [] }) := by
  intro editor
  rw [readLine_eq, ← List.append_nil h.events, readLineFrom_append hnone, readLineFrom,
    absorbAll_emit, emit_emit, List.append_nil]

/-! ### Reading a key -/

/-- The key that an event answers: escape if it is an interrupt. -/
def keyAt (e : HostEvent) : Key := e.reported?.getD .escape

theorem nextKeyFrom_append (hbefore : ∀ x ∈ before, ¬ x.isPress = true) (rest : List HostEvent)
    (h : Host) : nextKeyFrom (before ++ rest) h = nextKeyFrom rest (h.absorbAll before) := by
  induction before generalizing h with
  | nil => rfl
  | cons e before ih =>
    obtain ⟨he, hrest⟩ := List.forall_mem_cons.mp hbefore
    have hreport := keyReport_eq_nothing_iff.mpr (Bool.eq_false_iff.mpr he)
    rw [List.cons_append, nextKeyFrom, hreport]
    exact ih hrest (h.absorb e)

theorem nextKeyFrom_of_isPress (he : e.isPress = true) (rest : List HostEvent) (h : Host) :
    nextKeyFrom (e :: rest) h = (.ok e.reported?, { h.absorb e with events := rest }) := by
  have hreport : e.keyReport ≠ .nothing := by
    rw [Ne, keyReport_eq_nothing_iff, he]
    decide
  rw [nextKeyFrom, reported?]
  cases hcase : e.keyReport with
  | nothing => exact absurd hcase hreport
  | interrupt => rfl
  | key k => rfl

theorem readKey_of_firstAt (hfirst : FirstAt (·.isPress = true) h.events before e rest) :
    h.readKey = (.ok (keyAt e),
      { h.leaveDesktop.absorbAll (before ++ [e]) with events := rest }) := by
  rw [readKey_eq, nextKey, events_leaveDesktop, hfirst.split,
    nextKeyFrom_append hfirst.none_before, nextKeyFrom_of_isPress hfirst.here]
  simp only [absorbAll, List.foldl_append, List.foldl_cons, List.foldl_nil]
  rfl

theorem readKey_of_none (hnone : ∀ x ∈ h.events, ¬ x.isPress = true) :
    h.readKey =
      (.error .inputEnded, { h.leaveDesktop.absorbAll h.events with events := [] }) := by
  rw [readKey_eq, nextKey, events_leaveDesktop, ← List.append_nil h.events,
    nextKeyFrom_append hnone, nextKeyFrom, List.append_nil]
  rfl

/-! ### How far a read goes -/

/-- A read takes events up to the first one of a kind and fails, with all of them taken, if there is
none. The size that it leaves is the one that the last resize among the events taken reports. -/
inductive ReadsUpTo {α : Type} (p : HostEvent → Prop) (h : Host) : Except HostError α × Host → Prop
  | answered {before e a left} (hfirst : FirstAt p h.events before e left.events)
      (hsize : left.size = sizeAfter h.size (before ++ [e])) : ReadsUpTo p h (.ok a, left)
  | failed {left} (hnone : ∀ e ∈ h.events, ¬ p e) (hevents : left.events = [])
      (hsize : left.size = sizeAfter h.size h.events) : ReadsUpTo p h (.error .inputEnded, left)

theorem ReadsUpTo.failed_iff {α : Type} {p : HostEvent → Prop} {r : Except HostError α × Host}
    (hr : ReadsUpTo p h r) : r.1 = .error .inputEnded ↔ ∀ e ∈ h.events, ¬ p e := by
  cases hr with
  | @answered before e a left hfirst hsize =>
    refine iff_of_false (by simp) fun hnone => hnone e ?_ hfirst.here
    rw [hfirst.split]
    simp
  | failed hnone hevents hsize => exact iff_of_true rfl hnone

theorem size_leaveDesktop (h : Host) : h.leaveDesktop.size = h.size := by
  unfold leaveDesktop
  split <;> rfl

/-! ### Reads by what counts -/

/-- What ends a read, what it answers and what it writes, as far as the events that count say. -/
structure ReadKind (α : Type) where
  Ends : HostEvent → Prop
  /-- The answer, by the events before the one that ends the read, and by this one. -/
  answer : List HostEvent → HostEvent → α
  /-- What is written for the events before. -/
  echo : List HostEvent → String
  /-- What is written at the end. -/
  close : String
  isPress : ∀ e, Ends e → e.isPress = true
  answer_presses : ∀ events, answer (presses events) = answer events
  echo_presses : ∀ events, echo (presses events) = echo events

/-- The read is of this kind. -/
structure ReadKind.Reads {α : Type} (kind : ReadKind α) (read : Host → Except HostError α × Host) :
    Prop where
  answered : ∀ {h before e rest}, FirstAt kind.Ends h.events before e rest →
    read h = (.ok (kind.answer before e),
      { (h.leaveDesktop.absorbAll (before ++ [e])).emit (kind.echo before ++ kind.close) with
        events := rest })
  failed : ∀ {h}, (∀ e ∈ h.events, ¬ kind.Ends e) →
    read h = (.error .inputEnded,
      { (h.leaveDesktop.absorbAll h.events).emit (kind.echo h.events) with events := [] })

/-- Reading a line: it is echoed as it is typed. -/
def lineKind : ReadKind String where
  Ends := EndsLine
  answer before e := lineAt (LineEditor.pressAll {} (keysOf before)) e
  echo before := showCursor ++ LineEditor.echoes {} (keysOf before)
  close := lineEnd
  isPress _ := isPress_of_endsLine
  answer_presses events := by rw [keysOf_presses]
  echo_presses events := by rw [keysOf_presses]

/-- Reading a key: nothing is written. -/
def keyKind : ReadKind Key where
  Ends := (·.isPress = true)
  answer _ := keyAt
  echo _ := ""
  close := ""
  isPress _ := id
  answer_presses _ := rfl
  echo_presses _ := rfl

theorem lineKind_reads : lineKind.Reads readLine :=
  ⟨readLine_of_firstAt, readLine_of_none⟩

theorem keyKind_reads : keyKind.Reads readKey where
  answered hfirst := by
    rw [readKey_of_firstAt hfirst]
    simp only [keyKind, String.append_empty, emit_empty]
  failed hnone := by
    rw [readKey_of_none hnone]
    simp only [keyKind, emit_empty]

variable {α : Type} {kind : ReadKind α} {read : Host → Except HostError α × Host}

theorem ReadKind.Reads.readsUpTo (hread : kind.Reads read) (h : Host) :
    ReadsUpTo kind.Ends h (read h) := by
  rcases firstAt_or_none kind.Ends h.events with ⟨before, e, rest, hfirst⟩ | hnone
  · rw [hread.answered hfirst]
    refine .answered hfirst ?_
    rw [← size_leaveDesktop h]
    exact size_absorbAll h.leaveDesktop (before ++ [e])
  · rw [hread.failed hnone]
    refine .failed hnone rfl ?_
    rw [← size_leaveDesktop h]
    exact size_absorbAll h.leaveDesktop h.events

theorem ReadKind.answer_congr (kind : ReadKind α) (hpresses : presses events = presses events') :
    kind.answer events = kind.answer events' := by
  rw [← kind.answer_presses, hpresses, kind.answer_presses]

theorem ReadKind.echo_congr (kind : ReadKind α) (hpresses : presses events = presses events') :
    kind.echo events = kind.echo events' := by
  rw [← kind.echo_presses, hpresses, kind.echo_presses]

/-! ### Two queues -/

/-- Two reads with the same answer that leave hosts which differ at most in their queues and sizes,
with the same events that count in the queues. -/
structure SameRead {α : Type} (r r' : Except HostError α × Host) : Prop where
  answer : r.1 = r'.1
  host : SameButQueue r.2 r'.2
  later : presses r.2.events = presses r'.2.events

theorem presses_concat {before before' : List HostEvent} (h : presses before = presses before')
    (e : HostEvent) : presses (before ++ [e]) = presses (before' ++ [e]) := by
  rw [presses, presses, List.filter_append, List.filter_append]
  exact congrArg (· ++ List.filter isPress [e]) h

theorem ReadKind.Reads.same (hread : kind.Reads read) (hsame : SameButQueue h h')
    (hpresses : presses h.events = presses h'.events) : SameRead (read h) (read h') := by
  rcases firstAt_or_none kind.Ends h.events with ⟨before, e, rest, hfirst⟩ | hnone
  · obtain ⟨before', rest', hfirst', hbefore, hrest⟩ := hfirst.transfer kind.isPress hpresses.symm
    have htaken := hsame.leaveDesktop.absorbAll (presses_concat hbefore.symm e)
    rw [hread.answered hfirst, hread.answered hfirst', kind.answer_congr hbefore,
      kind.echo_congr hbefore]
    exact ⟨rfl, (htaken.emit _).withEvents rest rest', hrest.symm⟩
  · have hnone' : ∀ e ∈ h'.events, ¬ kind.Ends e := by
      rwa [← none_in_presses_iff kind.isPress, ← hpresses, none_in_presses_iff kind.isPress]
    have htaken := hsame.leaveDesktop.absorbAll hpresses
    rw [hread.failed hnone, hread.failed hnone', kind.echo_congr hpresses]
    exact ⟨rfl, (htaken.emit _).withEvents [] [], rfl⟩

/-- **Reads go by the keys that are not let go.** Whatever else is mixed into two queues with the
same such keys, a line that is read from the one is the line that is read from the other, with the
same output and the same such keys left; the same holds of a key. A line is read up to the first
Enter or interrupt and a key up to the first key that is not let go; a read fails iff there is none.
The size of the terminal is then the one of the last resize on the way, if there has been one. -/
theorem reads_go_by_presses :
    (∀ h h' : Host, SameButQueue h h' → presses h.events = presses h'.events →
      SameRead h.readLine h'.readLine ∧ SameRead h.readKey h'.readKey) ∧
    ∀ h : Host, ReadsUpTo EndsLine h h.readLine ∧
      (h.readLine.1 = .error .inputEnded ↔ ∀ e ∈ h.events, ¬ e.EndsLine) ∧
      ReadsUpTo (·.isPress = true) h h.readKey ∧
      (h.readKey.1 = .error .inputEnded ↔ ∀ e ∈ h.events, ¬ e.isPress = true) :=
  ⟨fun _ _ hsame hpresses =>
      ⟨lineKind_reads.same hsame hpresses, keyKind_reads.same hsame hpresses⟩,
    fun h => ⟨lineKind_reads.readsUpTo h, (lineKind_reads.readsUpTo h).failed_iff,
      keyKind_reads.readsUpTo h, (keyKind_reads.readsUpTo h).failed_iff⟩⟩

/-- Two letters and Enter, alone and among all kinds of other events. -/
theorem reads_go_by_presses_mixed :
    let o : HostEvent := .key { code := .char 'o' }
    let k : HostEvent := .key { code := .char 'k' }
    let enter : HostEvent := .key { code := .enter }
    let released : HostEvent := .key { code := .enter, motion := .release }
    let alone : Host := { events := [o, k, enter, o] }
    let mixed : Host := { events := [.tick, o, released, .resize 100 40, .mouse .down 3 4, k,
      .resize 60 20, .other, enter, .resize 10 10, .tick, o] }
    SameButQueue alone mixed ∧ presses alone.events = presses mixed.events ∧
      mixed.readLine.1 = .ok "ok" ∧ SameRead alone.readLine mixed.readLine ∧
      mixed.readLine.2.size = (60, 20) ∧ SameRead alone.readKey mixed.readKey ∧
      presses mixed.readLine.2.events = [o] := by
  intro o k enter released alone mixed
  have hsame : SameButQueue alone mixed := ⟨rfl, rfl, rfl, rfl, rfl⟩
  have hpresses : presses alone.events = presses mixed.events := by decide
  obtain ⟨hline, hkey⟩ := reads_go_by_presses.1 alone mixed hsame hpresses
  exact ⟨hsame, hpresses, by decide, hline, by decide, hkey, by decide⟩

end Host

end ModalConsole
