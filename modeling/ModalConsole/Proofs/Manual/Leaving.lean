import ModalConsole.Proofs.Manual.Window

/-!
# Leaving a pager

A pager is left in two keys: one that asks to leave, and one that confirms it. What a key means
depends on the mode, so each of the four modes is looked at on its own.

* `Key.isLetter_iff`: the two keys of a letter.
* `Pager.AsksToLeave`: the keys that open the question. `mode_press_eq_leaving_iff`: no other key
  does, in any mode.
* `press_eq_leave_iff`, `press_of_leaving`, `press_of_locked`: who leaves, what the question leaves
  behind, and what a locked pager does.
* `Pager.pressAll`: a sequence of keys. `exists_asked`: an open question is the answer to the last
  one; `pressAll_of_locked`: keys without a `v` do nothing to a locked pager.
* **`leave_takes_two_keys`**: all this for any sequence of keys after the pager is opened.
-/

namespace ModalConsole

open Text

/-! ## Letters -/

theorem Text.toNat_toLower (c : Char) :
    c.toLower.toNat = if 65 ≤ c.toNat ∧ c.toNat ≤ 90 then c.toNat + 32 else c.toNat := by
  unfold Char.toLower
  by_cases h : c.val ≥ 'A'.val ∧ c.val ≤ 'Z'.val
  · have hcapital : 65 ≤ c.toNat ∧ c.toNat ≤ 90 := h
    rw [dif_pos h, if_pos hcapital]
    show (c.val + 32).toNat = c.toNat + 32
    rw [UInt32.toNat_add, Char.toNat_val]
    show (c.toNat + 32) % 4294967296 = c.toNat + 32
    omega
  · rw [dif_neg h, if_neg (show ¬ (65 ≤ c.toNat ∧ c.toNat ≤ 90) from h)]

theorem Text.toNat_toUpper (c : Char) :
    c.toUpper.toNat = if 97 ≤ c.toNat ∧ c.toNat ≤ 122 then c.toNat - 32 else c.toNat := by
  unfold Char.toUpper
  by_cases h : 'a'.val ≤ c.val ∧ c.val ≤ 'z'.val
  · have hsmall : 97 ≤ c.toNat ∧ c.toNat ≤ 122 := h
    rw [dif_pos h, if_pos hsmall]
    -- The difference of a capital and its small form wraps around on words of 32 bits.
    show (c.val + 4294967264).toNat = c.toNat - 32
    rw [UInt32.toNat_add, Char.toNat_val]
    show (c.toNat + 4294967264) % 4294967296 = c.toNat - 32
    omega
  · rw [dif_neg h, if_neg (show ¬ (97 ≤ c.toNat ∧ c.toNat ≤ 122) from h)]

/-- The keys of a letter are its small and its capital form. -/
theorem Key.isLetter_iff {letter : Char} {key : Key} : key.isLetter letter = true ↔
    key = .char letter.toLower ∨ key = .char letter.toUpper := by
  cases key with
  | char c =>
    simp only [isLetter, beq_iff_eq, char.injEq, ← Char.toNat_inj, Text.toNat_toLower,
      Text.toNat_toUpper]
    split_ifs <;> omega
  | up | down | left | right | enter | backspace | escape | other =>
    exact iff_of_false Bool.false_ne_true (by simp)

namespace Pager

variable {p : Pager} {key : Key}

/-! ## One key in each mode -/

theorem press_of_viewing (hmode : p.mode = .viewing) (key : Key) :
    p.press key = (p.viewKey key, .stay) := by
  rw [press, hmode]

theorem press_of_typing {buffer : List Char} (hmode : p.mode = .typing buffer) (key : Key) :
    p.press key = p.typeKey buffer key := by
  rw [press, hmode]

/-- A locked pager does nothing but wait for its letter. -/
theorem press_of_locked (hmode : p.mode = .locked) (key : Key) :
    p.press key = (if key.isLetter 'v' then { p with mode := .viewing } else p, .stay) := by
  rw [press, hmode]

/-- The question is over with the next key. -/
theorem press_of_leaving (hmode : p.mode = .leaving) (key : Key) :
    p.press key = ({ p with mode := .viewing }, if key.isLetter 'y' then .leave else .stay) := by
  rw [press, hmode]

/-- The mode that a key leads to while viewing. -/
theorem mode_viewKey (p : Pager) (key : Key) : (p.viewKey key).mode =
    if key.isLetter 'v' then .locked else if key.isLetter 'c' then .typing []
    else if key.isLetter 'q' then .leaving else p.mode := by
  unfold viewKey
  split
  · rfl
  · exact (apply_ite mode _ _ _).trans (ite_self p.mode)
  · rfl
  · rfl
  · split_ifs <;> rfl

theorem typeKey_ne_leave (p : Pager) (buffer : List Char) (key : Key) :
    (p.typeKey buffer key).2 ≠ .leave := by
  unfold typeKey
  split
  · nofun
  · split_ifs <;> nofun
  all_goals nofun

/-- Only the answer to the question leaves. -/
theorem press_eq_leave_iff : (p.press key).2 = .leave ↔
    p.mode = .leaving ∧ (key = .char 'y' ∨ key = .char 'Y') := by
  have hletter : key.isLetter 'y' = true ↔ key = .char 'y' ∨ key = .char 'Y' := Key.isLetter_iff
  cases hmode : p.mode with
  | viewing => simp [press_of_viewing hmode]
  | typing buffer => simp [press_of_typing hmode, typeKey_ne_leave]
  | locked => simp [press_of_locked hmode]
  | leaving => simp [press_of_leaving hmode, ← hletter]

/-! ## Asking -/

/-- A key asks to leave: `q` while viewing, or the end of a typed command that says so. -/
inductive AsksToLeave (p : Pager) : Key → Prop
  | quit {key : Key} (hmode : p.mode = .viewing) (hkey : key = .char 'q' ∨ key = .char 'Q') :
      AsksToLeave p key
  | exit {buffer : List Char} (hmode : p.mode = .typing buffer)
      (hcommand : trim buffer = "exit".toList) : AsksToLeave p .enter

/-- While a command is typed, only its end can ask to leave. -/
theorem mode_typeKey_eq_leaving_iff {buffer : List Char} (hmode : p.mode = .typing buffer) :
    (p.typeKey buffer key).1.mode = .leaving ↔ key = .enter ∧ trim buffer = "exit".toList := by
  unfold typeKey
  split
  · exact iff_of_false nofun nofun
  · rw [exitCommand]
    split_ifs with hcommand
    · exact iff_of_true rfl ⟨rfl, hcommand⟩
    · exact iff_of_false nofun fun h => hcommand h.2
  · exact iff_of_false nofun nofun
  · exact iff_of_false nofun nofun
  · rename_i henter _ _
    rw [hmode]
    exact iff_of_false nofun fun h => henter h.1

/-- **Only these keys open the question**, in whatever mode. -/
theorem mode_press_eq_leaving_iff : (p.press key).1.mode = .leaving ↔ p.AsksToLeave key := by
  constructor
  · intro h
    cases hmode : p.mode with
    | viewing =>
      rw [press_of_viewing hmode, mode_viewKey] at h
      split_ifs at h with _ _ hquit
      · exact .quit hmode (Key.isLetter_iff.mp hquit)
      · exact absurd (hmode.symm.trans h) nofun
    | typing buffer =>
      rw [press_of_typing hmode, mode_typeKey_eq_leaving_iff hmode] at h
      obtain ⟨rfl, hcommand⟩ := h
      exact .exit hmode hcommand
    | locked =>
      rw [press_of_locked hmode] at h
      split_ifs at h
      exact absurd (hmode.symm.trans h) nofun
    | leaving =>
      rw [press_of_leaving hmode] at h
      cases h
  · intro h
    cases h with
    | quit hmode hkey =>
      rw [press_of_viewing hmode, mode_viewKey]
      rcases hkey with rfl | rfl <;> rfl
    | exit hmode hcommand =>
      rw [press_of_typing hmode]
      exact (mode_typeKey_eq_leaving_iff hmode).mpr ⟨rfl, hcommand⟩

/-! ## Sequences of keys -/

/-- A pager after a sequence of keys. -/
def pressAll (p : Pager) (keys : List Key) : Pager := keys.foldl (fun p key => (p.press key).1) p

theorem pressAll_append (p : Pager) (keys more : List Key) :
    p.pressAll (keys ++ more) = (p.pressAll keys).pressAll more := List.foldl_append

theorem pressAll_concat (p : Pager) (keys : List Key) (key : Key) :
    p.pressAll (keys ++ [key]) = ((p.pressAll keys).press key).1 := by
  simp only [pressAll, List.foldl_append, List.foldl_cons, List.foldl_nil]

/-- An open question is the answer to the last key. -/
theorem exists_asked {keys : List Key} (hstart : p.mode ≠ .leaving)
    (hmode : (p.pressAll keys).mode = .leaving) :
    ∃ earlier asking, keys = earlier ++ [asking] ∧ (p.pressAll earlier).AsksToLeave asking := by
  rcases List.eq_nil_or_concat keys with rfl | ⟨earlier, asking, rfl⟩
  · exact absurd hmode hstart
  · rw [List.concat_eq_append] at hmode ⊢
    rw [pressAll_concat, mode_press_eq_leaving_iff] at hmode
    exact ⟨earlier, asking, rfl, hmode⟩

/-- A key that does not unlock does nothing to a locked pager. -/
theorem press_of_locked_of_ne (hmode : p.mode = .locked)
    (hkey : key ≠ .char 'v' ∧ key ≠ .char 'V') : p.press key = (p, .stay) := by
  have hletter : ¬ key.isLetter 'v' = true := fun h =>
    (Key.isLetter_iff.mp h).elim hkey.1 hkey.2
  rw [press_of_locked hmode, if_neg hletter]

theorem pressAll_of_locked {keys : List Key} (hmode : p.mode = .locked)
    (hkeys : ∀ key ∈ keys, key ≠ .char 'v' ∧ key ≠ .char 'V') : p.pressAll keys = p := by
  induction keys with
  | nil => rfl
  | cons key keys ih =>
    obtain ⟨hkey, hrest⟩ := List.forall_mem_cons.mp hkeys
    rw [pressAll, List.foldl_cons, press_of_locked_of_ne hmode hkey]
    exact ih hrest

/-- **A pager is left in two keys.** Open any pager at any topic, feed it any sequence of keys and
then one more. It is left iff that key is a `y` that answers the question, and the key before it was
the one that opened the question; the question is opened by a `q` while viewing and by the end of a
typed `exit`, and by nothing else. The next key closes it in any case, on the same page and with the
same lines above the window. While the keys are locked, no sequence without a `v` changes anything
or leaves. -/
theorem leave_takes_two_keys (p : Pager) (topic : Option String) (keys : List Key) :
    let opened := p.openAt topic
    let q := opened.pressAll keys
    (∀ key,
      ((q.press key).2 = .leave ↔ q.mode = .leaving ∧ (key = .char 'y' ∨ key = .char 'Y')) ∧
      ((q.press key).1.mode = .leaving ↔ q.AsksToLeave key) ∧
      ((q.press key).2 = .leave → ∃ earlier asking,
        keys = earlier ++ [asking] ∧ (opened.pressAll earlier).AsksToLeave asking) ∧
      (q.mode = .leaving → (q.press key).1 = { q with mode := .viewing })) ∧
    (q.mode = .locked → ∀ more key,
      (∀ k ∈ more ++ [key], k ≠ .char 'v' ∧ k ≠ .char 'V') →
      (q.pressAll more).press key = (q, .stay)) := by
  intro opened q
  have hopened : opened.mode ≠ .leaving := nofun
  refine ⟨fun key => ⟨press_eq_leave_iff, mode_press_eq_leaving_iff, fun h => ?_, fun h => ?_⟩,
    fun hlocked more key hkeys => ?_⟩
  · exact exists_asked hopened (press_eq_leave_iff.mp h).1
  · rw [press_of_leaving h]
  · obtain ⟨hmore, hkey⟩ := List.forall_mem_append.mp hkeys
    rw [pressAll_of_locked hlocked hmore]
    exact press_of_locked_of_ne hlocked (hkey key List.mem_cons_self)

/-- A typed `exit` and a `Y` leave; a locked pager takes no notice of either. -/
theorem leave_takes_two_keys_typed :
    let opened := (ofPages [] 0).openAt none
    let typed : List Key := [.char 'c', .char 'e', .char 'x', .char 'i', .char 't', .enter]
    (opened.pressAll typed).mode = .leaving ∧
      ((opened.pressAll typed).press (.char 'Y')).2 = .leave ∧
      (opened.pressAll [.char 'V']).mode = .locked ∧
      (∀ key ∈ typed, key ≠ .char 'v' ∧ key ≠ .char 'V') ∧
      (((opened.pressAll [.char 'V']).pressAll typed).press (.char 'Y')).2 = .stay := by
  intro opened typed
  have hasked : (opened.pressAll typed).mode = .leaving := by decide
  have hlocked : (opened.pressAll [.char 'V']).mode = .locked := by decide
  have hkeys : ∀ key ∈ typed, key ≠ .char 'v' ∧ key ≠ .char 'V' := by decide
  obtain ⟨hkey, -⟩ := leave_takes_two_keys (ofPages [] 0) none typed
  obtain ⟨-, hstays⟩ := leave_takes_two_keys (ofPages [] 0) none [.char 'V']
  refine ⟨hasked, (hkey (.char 'Y')).1.mpr ⟨hasked, Or.inr rfl⟩, hlocked, hkeys, ?_⟩
  exact congrArg Prod.snd (hstays hlocked typed (.char 'Y') (by decide))

end Pager

end ModalConsole
