import Mathlib.Data.List.Count
import Mathlib.Data.List.Induction
import Mathlib.Logic.Function.Basic
import ModalConsole.Power

/-!
# Requests through the clones of a latch

All clones of a latch lead to one slot, and whoever holds one calls when it likes. A call holds the
slot until it is over, so the calls that are made through all handles come one after the other, in
some order.

* `LatchCall`, `PowerLatch.call`: a call, what it answers and the latch that it leaves.
* `PowerLatch.Asked`: what has been requested since the last take. `PowerLatch.Due`: the answer that
  this calls for. `Due.call`: one call keeps what is pending due. `due_pending`: any calls do.
  `after_perm`: without a take their order does not matter.
* `PowerLatch.taken`: what takes answer. `count_taken_le`: not more than has been requested.
* `callsOn`, `latchesAfter`, `takenOn`: calls through handles. `latchesAfter_apply`, `takenOn_eq`: a
  latch sees the calls through its own clones, whichever these are.
* **`takes_answer_requests`**: what takes answer, whoever calls in whatever order.
-/

namespace ModalConsole

/-- A call on a latch. -/
inductive LatchCall where
  | request (action : PowerAction)
  /-- Take the pending request. -/
  | take
  /-- Look at the pending request. -/
  | look
  deriving DecidableEq, Repr

namespace PowerLatch

/-- What a call answers, and the latch that it leaves. -/
def call (latch : PowerLatch) : LatchCall → Option PowerAction × PowerLatch
  | .request action => (none, latch.request action)
  | .take => latch.take
  | .look => (latch.pending, latch)

/-- The latch after some calls. -/
def after (latch : PowerLatch) (calls : List LatchCall) : PowerLatch :=
  calls.foldl (fun latch c => (latch.call c).2) latch

variable {latch : PowerLatch} {calls more : List LatchCall} {c : LatchCall} {a : PowerAction}

theorem after_append (latch : PowerLatch) (calls more : List LatchCall) :
    latch.after (calls ++ more) = (latch.after calls).after more :=
  List.foldl_append

theorem pending_request (latch : PowerLatch) (a : PowerAction) : (latch.request a).pending =
    if latch.pending = some .shutdown then some .shutdown else some a := by
  unfold request
  split_ifs with h
  · exact h
  · rfl

/-! ## What is due -/

/-- The request has been made since the last take. -/
def Asked (calls : List LatchCall) (a : PowerAction) : Prop :=
  ∃ earlier later, calls = earlier ++ .request a :: later ∧ .take ∉ later

/-- What a take has to answer after some calls. -/
inductive Due (calls : List LatchCall) : Option PowerAction → Prop
  | shutdown (hasked : Asked calls .shutdown) : Due calls (some .shutdown)
  | reboot (hasked : Asked calls .reboot) (hnot : ¬ Asked calls .shutdown) :
      Due calls (some .reboot)
  | nothing (hnone : ∀ a, ¬ Asked calls a) : Due calls none

theorem asked_concat : Asked (calls ++ [c]) a ↔ c = .request a ∨ c ≠ .take ∧ Asked calls a := by
  constructor
  · rintro ⟨earlier, later, hcalls, hlater⟩
    rcases List.eq_nil_or_concat later with rfl | ⟨later, d, rfl⟩
    · obtain ⟨-, hc⟩ := List.append_inj' hcalls rfl
      exact Or.inl (List.singleton_inj.mp hc)
    · have hcut : calls ++ [c] = (earlier ++ .request a :: later) ++ [d] := by simpa using hcalls
      obtain ⟨rfl, hc⟩ := List.append_inj' hcut rfl
      obtain rfl := List.singleton_inj.mp hc
      rw [List.concat_eq_append, List.mem_append, List.mem_singleton, not_or] at hlater
      exact Or.inr ⟨Ne.symm hlater.2, earlier, later, rfl, hlater.1⟩
  · rintro (rfl | ⟨hc, earlier, later, rfl, hlater⟩)
    · exact ⟨calls, [], rfl, List.not_mem_nil⟩
    · refine ⟨earlier, later ++ [c], by simp, ?_⟩
      rw [List.mem_append, List.mem_singleton, not_or]
      exact ⟨hlater, Ne.symm hc⟩

/-- Between two takes it counts what is requested, in whatever order. -/
theorem asked_append (h : LatchCall.take ∉ more) :
    Asked (calls ++ more) a ↔ .request a ∈ more ∨ Asked calls a := by
  induction more using List.reverseRecOn with
  | nil => simp
  | append_singleton more c ih =>
    rw [List.mem_append, List.mem_singleton, not_or] at h
    rw [← List.append_assoc, asked_concat, ih h.1, List.mem_append, List.mem_singleton,
      and_iff_right (Ne.symm h.2), eq_comm, or_left_comm, or_assoc]

theorem Due.shutdown_iff {answer : Option PowerAction} (h : Due calls answer) :
    answer = some .shutdown ↔ Asked calls .shutdown := by
  cases h with
  | shutdown hasked => exact iff_of_true rfl hasked
  | reboot hasked hnot => exact iff_of_false (by decide) hnot
  | nothing hnone => exact iff_of_false (by decide) (hnone .shutdown)

theorem Due.reboot_iff {answer : Option PowerAction} (h : Due calls answer) :
    answer = some .reboot ↔ Asked calls .reboot ∧ ¬ Asked calls .shutdown := by
  cases h with
  | shutdown hasked => exact iff_of_false (by decide) fun h => h.2 hasked
  | reboot hasked hnot => exact iff_of_true rfl ⟨hasked, hnot⟩
  | nothing hnone => exact iff_of_false (by decide) fun h => hnone .reboot h.1

/-- The requests since the last take are all that counts. -/
theorem Due.congr {answer : Option PowerAction} (h : Due calls answer)
    (hsame : ∀ a, Asked more a ↔ Asked calls a) : Due more answer := by
  cases h with
  | shutdown hasked => exact .shutdown ((hsame _).mpr hasked)
  | reboot hasked hnot => exact .reboot ((hsame _).mpr hasked) (mt (hsame _).mp hnot)
  | nothing hnone => exact .nothing fun a => mt (hsame a).mp (hnone a)

/-- What has been requested is due, unless a shutdown is. -/
theorem Due.of_asked {answer : Option PowerAction} (h : Due calls answer) (hasked : Asked calls a) :
    answer = some a ∨ answer = some .shutdown := by
  cases h with
  | shutdown => exact Or.inr rfl
  | reboot _ hnot =>
    cases a with
    | shutdown => exact absurd hasked hnot
    | reboot => exact Or.inl rfl
  | nothing hnone => exact absurd hasked (hnone a)

/-- Some calls leave one answer due. -/
theorem Due.unique {answer answer' : Option PowerAction} (h : Due calls answer)
    (h' : Due calls answer') : answer = answer' := by
  cases h with
  | shutdown hasked => exact (h'.shutdown_iff.mpr hasked).symm
  | reboot hasked hnot => exact (h'.reboot_iff.mpr ⟨hasked, hnot⟩).symm
  | nothing hnone =>
    cases h' with
    | shutdown hasked => exact absurd hasked (hnone _)
    | reboot hasked _ => exact absurd hasked (hnone _)
    | nothing => rfl

/-- **A call keeps what is pending due.** -/
theorem Due.call (h : Due calls latch.pending) (c : LatchCall) :
    Due (calls ++ [c]) (latch.call c).2.pending := by
  cases c with
  | take => exact .nothing fun a => by simp [asked_concat]
  | look => exact h.congr fun a => by simp [asked_concat]
  | request a =>
    rw [PowerLatch.call, pending_request]
    split_ifs with hshutdown
    · exact .shutdown (asked_concat.mpr (Or.inr ⟨by simp, h.shutdown_iff.mp hshutdown⟩))
    · have hnew : Asked (calls ++ [.request a]) a := asked_concat.mpr (Or.inl rfl)
      cases a with
      | shutdown => exact .shutdown hnew
      | reboot =>
        refine .reboot hnew ?_
        rw [asked_concat]
        rintro (hother | ⟨-, hasked⟩)
        · cases hother
        · exact hshutdown (h.shutdown_iff.mpr hasked)

/-- What is pending after some calls on a new latch is due. -/
theorem due_pending (calls : List LatchCall) :
    Due calls (after {} calls).pending := by
  induction calls using List.reverseRecOn with
  | nil => exact .nothing fun a ⟨earlier, later, h, _⟩ => by simp at h
  | append_singleton calls c ih =>
    rw [after_append]
    exact ih.call c

/-- Calls without a take leave the same latch in whatever order they are made. -/
theorem after_perm (h : LatchCall.take ∉ more) {more' : List LatchCall} (hperm : more.Perm more')
    (calls : List LatchCall) : after {} (calls ++ more) = after {} (calls ++ more') := by
  have hsame : ∀ a, Asked (calls ++ more') a ↔ Asked (calls ++ more) a := by
    intro a
    rw [asked_append h, asked_append (hperm.mem_iff.not.mp h), hperm.mem_iff]
  have hpending := ((due_pending (calls ++ more)).congr hsame).unique (due_pending _)
  exact congrArg PowerLatch.mk hpending

/-! ## What takes answer -/

/-- The requests that takes answer. -/
def taken : PowerLatch → List LatchCall → List PowerAction
  | _, [] => []
  | latch, c :: calls =>
    (if c = .take then latch.pending.toList else []) ++ (latch.call c).2.taken calls

theorem count_pending_request (latch : PowerLatch) (a b : PowerAction) :
    (latch.request b).pending.toList.count a ≤
      latch.pending.toList.count a + if b = a then 1 else 0 := by
  rw [pending_request]
  split_ifs with hshutdown hb <;> simp_all

/-- Every request that a take answers has been made, or was pending before. -/
theorem count_taken_le (latch : PowerLatch) (calls : List LatchCall) (a : PowerAction) :
    (latch.taken calls).count a ≤ calls.count (.request a) + latch.pending.toList.count a := by
  induction calls generalizing latch with
  | nil => simp [taken]
  | cons c calls ih =>
    have hrest := ih (latch.call c).2
    rw [taken, List.count_append, List.count_cons]
    cases c with
    | take =>
      have hempty : (latch.call .take).2.pending.toList.count a = 0 := rfl
      simp only [if_true]
      omega
    | look =>
      have hkept : (latch.call .look).2 = latch := rfl
      rw [hkept] at hrest ⊢
      simpa using hrest
    | request b =>
      have hone := count_pending_request latch a b
      have hleft : (latch.call (.request b)).2 = latch.request b := rfl
      rw [hleft] at hrest ⊢
      simp only [reduceCtorEq, if_false, List.count_nil, beq_iff_eq, LatchCall.request.injEq]
      omega

end PowerLatch

/-! ## Calls through handles

Handles lead to slots. Two handles are clones of one latch if they lead to the same slot. -/

section Handles

variable {Handle Slot : Type} [DecidableEq Slot] (slotOf : Handle → Slot)

/-- The calls through clones of one latch. -/
def callsOn (slot : Slot) (calls : List (Handle × LatchCall)) : List LatchCall :=
  (calls.filter (slotOf ·.1 = slot)).map (·.2)

/-- What a call through a handle answers. -/
def answerTo (latches : Slot → PowerLatch) (x : Handle × LatchCall) : Option PowerAction :=
  ((latches (slotOf x.1)).call x.2).1

/-- The latches after a call through a handle. -/
def latchesAfterOne (latches : Slot → PowerLatch) (x : Handle × LatchCall) : Slot → PowerLatch :=
  Function.update latches (slotOf x.1) ((latches (slotOf x.1)).call x.2).2

/-- The latches after some calls. -/
def latchesAfter (latches : Slot → PowerLatch) (calls : List (Handle × LatchCall)) :
    Slot → PowerLatch :=
  calls.foldl (latchesAfterOne slotOf) latches

/-- The requests that are answered to takes through clones of one latch. -/
def takenOn (slot : Slot) :
    (Slot → PowerLatch) → List (Handle × LatchCall) → List PowerAction
  | _, [] => []
  | latches, x :: calls =>
    (if slotOf x.1 = slot ∧ x.2 = .take then (answerTo slotOf latches x).toList else []) ++
      takenOn slot (latchesAfterOne slotOf latches x) calls

variable {slotOf} {slot : Slot} {x : Handle × LatchCall}

theorem callsOn_append (slot : Slot) (calls more : List (Handle × LatchCall)) :
    callsOn slotOf slot (calls ++ more) =
      callsOn slotOf slot calls ++ callsOn slotOf slot more := by
  simp [callsOn]

theorem callsOn_perm {calls calls' : List (Handle × LatchCall)} (h : calls.Perm calls')
    (slot : Slot) : (callsOn slotOf slot calls).Perm (callsOn slotOf slot calls') :=
  (h.filter _).map _

theorem mem_callsOn_iff {calls : List (Handle × LatchCall)} {c : LatchCall} :
    c ∈ callsOn slotOf slot calls ↔ ∃ x ∈ calls, slotOf x.1 = slot ∧ x.2 = c := by
  simp [callsOn, and_assoc]

theorem callsOn_cons_self (h : slotOf x.1 = slot) (calls : List (Handle × LatchCall)) :
    callsOn slotOf slot (x :: calls) = x.2 :: callsOn slotOf slot calls := by
  simp [callsOn, h]

theorem callsOn_cons_of_ne (h : slotOf x.1 ≠ slot) (calls : List (Handle × LatchCall)) :
    callsOn slotOf slot (x :: calls) = callsOn slotOf slot calls := by
  simp [callsOn, h]

theorem latchesAfterOne_self (latches : Slot → PowerLatch) (h : slotOf x.1 = slot) :
    latchesAfterOne slotOf latches x slot = ((latches slot).call x.2).2 := by
  simp [latchesAfterOne, ← h]

theorem latchesAfterOne_of_ne (latches : Slot → PowerLatch) (h : slotOf x.1 ≠ slot) :
    latchesAfterOne slotOf latches x slot = latches slot := by
  simp [latchesAfterOne, Function.update_of_ne (Ne.symm h)]

/-- A latch sees the calls through its own clones. -/
theorem latchesAfter_apply (latches : Slot → PowerLatch) (calls : List (Handle × LatchCall))
    (slot : Slot) : latchesAfter slotOf latches calls slot =
      (latches slot).after (callsOn slotOf slot calls) := by
  induction calls generalizing latches with
  | nil => rfl
  | cons x calls ih =>
    refine (ih (latchesAfterOne slotOf latches x)).trans ?_
    by_cases h : slotOf x.1 = slot
    · rw [callsOn_cons_self h, latchesAfterOne_self latches h]
      rfl
    · rw [callsOn_cons_of_ne h, latchesAfterOne_of_ne latches h]

theorem takenOn_eq (latches : Slot → PowerLatch) (calls : List (Handle × LatchCall))
    (slot : Slot) : takenOn slotOf slot latches calls =
      (latches slot).taken (callsOn slotOf slot calls) := by
  induction calls generalizing latches with
  | nil => rfl
  | cons x calls ih =>
    rw [takenOn, ih]
    by_cases h : slotOf x.1 = slot
    · rw [callsOn_cons_self h, latchesAfterOne_self latches h, PowerLatch.taken]
      refine congrArg (· ++ _) ?_
      by_cases htake : x.2 = .take
      · rw [if_pos ⟨h, htake⟩, if_pos htake, answerTo, h, htake]
        rfl
      · rw [if_neg fun both => htake both.2, if_neg htake]
    · rw [callsOn_cons_of_ne h, latchesAfterOne_of_ne latches h, if_neg fun both => h both.1,
        List.nil_append]

/-- **Takes answer requests.** Whatever calls are made through whatever clones of new latches, in
whatever order: a take, and a look as well, answers a shutdown if one has been requested since the
last take through a clone of the same latch, else a reboot if one has been, and else nothing. So
calls without a take may be made in any order, the next take after a request answers this request or
a shutdown, and no request is answered more often than it has been made. -/
theorem takes_answer_requests (slotOf : Handle → Slot) :
    let new : Slot → PowerLatch := fun _ => {}
    (∀ calls x, PowerLatch.Due (callsOn slotOf (slotOf x) calls)
        (answerTo slotOf (latchesAfter slotOf new calls) (x, .take)) ∧
      answerTo slotOf (latchesAfter slotOf new calls) (x, .look) =
        answerTo slotOf (latchesAfter slotOf new calls) (x, .take)) ∧
    (∀ calls more more' : List (Handle × LatchCall), more.Perm more' → (∀ x ∈ more, x.2 ≠ .take) →
      latchesAfter slotOf new (calls ++ more) = latchesAfter slotOf new (calls ++ more')) ∧
    (∀ calls x a between y, slotOf y = slotOf x → .take ∉ callsOn slotOf (slotOf x) between →
      let latches := latchesAfter slotOf new (calls ++ (x, .request a) :: between)
      answerTo slotOf latches (y, .take) = some a ∨
        answerTo slotOf latches (y, .take) = some .shutdown) ∧
    ∀ calls slot a, (takenOn slotOf slot new calls).count a ≤
      (callsOn slotOf slot calls).count (.request a) := by
  intro new
  have htake : ∀ calls y, answerTo slotOf (latchesAfter slotOf new calls) (y, .take) =
      (PowerLatch.after {} (callsOn slotOf (slotOf y) calls)).pending := by
    intro calls y
    exact congrArg PowerLatch.pending (latchesAfter_apply new calls (slotOf y))
  refine ⟨?due, ?order, ?kept, ?once⟩
  case due =>
    intro calls x
    refine ⟨?_, rfl⟩
    rw [htake]
    exact PowerLatch.due_pending _
  case order =>
    intro calls more more' hperm hquiet
    funext slot
    have hnotake : .take ∉ callsOn slotOf slot more := by
      rw [mem_callsOn_iff]
      rintro ⟨x, hx, -, htaken⟩
      exact hquiet x hx htaken
    rw [latchesAfter_apply, latchesAfter_apply, callsOn_append, callsOn_append]
    exact PowerLatch.after_perm hnotake (callsOn_perm hperm slot) _
  case kept =>
    intro calls x a between y hclone hquiet latches
    have hcalls : callsOn slotOf (slotOf y) (calls ++ (x, .request a) :: between) =
        callsOn slotOf (slotOf x) calls ++
          .request a :: callsOn slotOf (slotOf x) between := by
      rw [hclone, callsOn_append, callsOn_cons_self (x := (x, .request a)) rfl]
    have hasked : PowerLatch.Asked
        (callsOn slotOf (slotOf y) (calls ++ (x, .request a) :: between)) a :=
      ⟨_, _, hcalls, hquiet⟩
    rw [htake]
    exact (PowerLatch.due_pending _).of_asked hasked
  case once =>
    intro calls slot a
    rw [takenOn_eq]
    simpa using PowerLatch.count_taken_le {} (callsOn slotOf slot calls) a

/-- A host and a session share a latch; a third handle leads to another one. -/
theorem takes_answer_requests_shared :
    let slotOf : Nat × Nat → Nat := fun handle => handle.1
    let host : Nat × Nat := (0, 0)
    let session : Nat × Nat := (0, 1)
    let stranger : Nat × Nat := (1, 0)
    let between : List ((Nat × Nat) × LatchCall) :=
      [(stranger, .take), (host, .request .reboot), (host, .look)]
    let latches := latchesAfter slotOf (fun _ => {})
      ([(session, .request .reboot)] ++ (session, .request .shutdown) :: between)
    slotOf host = slotOf session ∧ .take ∉ callsOn slotOf (slotOf session) between ∧
      answerTo slotOf latches (host, .take) = some .shutdown ∧
      answerTo slotOf latches (stranger, .take) = none := by
  intro slotOf host session stranger between latches
  have hquiet : .take ∉ callsOn slotOf (slotOf session) between := by decide
  obtain ⟨-, -, hanswered, -⟩ := takes_answer_requests slotOf
  have hshutdown :=
    hanswered [(session, .request .reboot)] session .shutdown between host rfl hquiet
  exact ⟨rfl, hquiet, (or_self_iff.mp hshutdown), by decide⟩

end Handles

end ModalConsole
