import ModalConsole.ProductKey

/-!
# What is drawn

* `RandomWords.draw_lt`: a drawn number is below its bound, whatever the words.
* `IsGenerated`: the keys that some words lead to. `IsGenerated.mem`: they are made of key
  characters and hyphens. `IsGenerated.hasKeyShape`: they have the shape that is recognised.
* `Activation.redeem_eq_activated`, `unlock_eq`, `deactivate_eq_ok`: the key after a request that is
  granted.
-/

namespace ModalConsole

theorem drawFrom_lt {n : Nat} (hn : 0 < n) (drawn : Nat) (words : List UInt64) :
    (drawFrom n drawn words).1 < n := by
  induction words generalizing drawn with
  | nil => exact hn
  | cons word rest ih =>
    unfold drawFrom
    simp only
    split
    · -- the high half of `word * n` is below `n` since `word` is below the size of its range
      exact Nat.div_lt_of_lt_mul (Nat.mul_lt_mul_of_pos_right word.toNat_lt hn)
    · exact ih (drawn + 1)

theorem RandomWords.draw_lt {n : Nat} (hn : 0 < n) (source : RandomWords) :
    (source.draw n).1 < n :=
  drawFrom_lt hn source.drawn source.coming

/-! ## Generated keys -/

/-- Do some random words lead to the key? -/
def IsGenerated (key : String) : Prop := ∃ source, (generateKey source).1 = key

theorem drawKeyChar_mem (source : RandomWords) : (drawKeyChar source).1 ∈ keyAlphabet := by
  have hlt := source.draw_lt (n := keyAlphabet.length) (by decide)
  simp only [drawKeyChar, List.getD_eq_getElem?_getD, List.getElem?_eq_getElem hlt,
    Option.getD_some]
  exact List.getElem_mem hlt

theorem mem_drawKeyChars {n : Nat} {source : RandomWords} {c : Char}
    (h : c ∈ (drawKeyChars n source).1) : c ∈ keyAlphabet := by
  induction n generalizing source with
  | zero => cases h
  | succ n ih =>
    rcases List.mem_cons.mp h with hc | hc
    · rw [hc]
      exact drawKeyChar_mem source
    · exact ih hc

theorem mem_hyphenated {n : Nat} {cs : List Char} {c : Char} (h : c ∈ hyphenated n cs) :
    c = '-' ∨ c ∈ cs := by
  induction n generalizing cs with
  | zero => exact Or.inr h
  | succ n ih =>
    rcases List.mem_append.mp h with h | h
    · exact Or.inr (List.mem_of_mem_take h)
    · rcases List.mem_cons.mp h with h | h
      · exact Or.inl h
      · exact (ih h).imp_right List.mem_of_mem_drop

/-- Generated keys are made of key characters and hyphens. -/
theorem IsGenerated.mem {key : String} (h : IsGenerated key) {c : Char} (hc : c ∈ key.toList) :
    c = '-' ∨ c ∈ keyAlphabet := by
  obtain ⟨source, rfl⟩ := h
  rw [generateKey, String.toList_ofList] at hc
  exact (mem_hyphenated hc).imp_right mem_drawKeyChars

/-! ## The shape of a key -/

theorem isKeyChar_of_mem : ∀ c ∈ keyAlphabet, isKeyChar c = true := by
  have hall : keyAlphabet.all isKeyChar = true := by decide
  exact List.all_eq_true.mp hall

theorem length_drawKeyChars (n : Nat) (source : RandomWords) :
    (drawKeyChars n source).1.length = n := by
  induction n generalizing source with
  | zero => rfl
  | succ n ih => exact congrArg (· + 1) (ih (drawKeyChar source).2)

/-- Full groups of key characters with hyphens put between them are recognised. -/
theorem isKeyGroups_hyphenated {n : Nat} {cs : List Char}
    (hlength : cs.length = (n + 1) * keyGroupSize)
    (hchars : ∀ c ∈ cs, isKeyChar c = true) : isKeyGroups n (hyphenated n cs) = true := by
  induction n generalizing cs with
  | zero =>
    have htake : cs.take keyGroupSize = cs := List.take_of_length_le (by omega)
    have hdrop : cs.drop keyGroupSize = [] := List.drop_of_length_le (by omega)
    unfold hyphenated isKeyGroups
    simp only [htake, hdrop, hlength, Bool.and_true]
    simpa using hchars
  | succ n ih =>
    have hgroup : (cs.take keyGroupSize).length = keyGroupSize := by
      rw [List.length_take, hlength]
      exact Nat.min_eq_left (Nat.le_mul_of_pos_left _ (Nat.succ_pos _))
    have hrest : (cs.drop keyGroupSize).length = (n + 1) * keyGroupSize := by
      rw [List.length_drop, hlength, Nat.succ_mul (n + 1), Nat.add_sub_cancel]
    have htail := ih hrest fun c hc => hchars c (List.mem_of_mem_drop hc)
    unfold hyphenated isKeyGroups
    simp only [List.take_left' hgroup, List.drop_left' hgroup, hgroup, htail, Bool.and_true]
    simpa using fun c hc => hchars c (List.mem_of_mem_take hc)

/-- **Generated keys have the shape of a key.** -/
theorem IsGenerated.hasKeyShape {key : String} (h : IsGenerated key) : hasKeyShape key = true := by
  obtain ⟨source, rfl⟩ := h
  rw [generateKey, ModalConsole.hasKeyShape, String.toList_ofList]
  exact isKeyGroups_hyphenated (length_drawKeyChars _ source)
    fun c hc => isKeyChar_of_mem c (mem_drawKeyChars hc)

/-! ## Requests that are granted -/

namespace Activation

variable {a b : Activation} {typed key : String} {source rest : RandomWords}

theorem redeem_eq_activated (h : a.redeem typed = .ok (.activated key, b)) :
    key ∈ acceptedKeys ∧ b = ⟨some key⟩ := by
  unfold redeem at h
  simp only at h
  split at h
  · cases h
  · split at h
    · rename_i haccepted
      simp only [Except.ok.injEq, Prod.mk.injEq, Redeemed.activated.injEq] at h
      obtain ⟨rfl, rfl⟩ := h
      exact ⟨haccepted, rfl⟩
    · cases h

theorem unlock_eq (h : unlock source = (key, b, rest)) : IsGenerated key ∧ b = ⟨some key⟩ := by
  unfold unlock at h
  rcases hdrawn : generateKey source with ⟨drawn, left⟩
  rw [hdrawn, Prod.mk.injEq, Prod.mk.injEq] at h
  obtain ⟨rfl, rfl, rfl⟩ := h
  exact ⟨⟨source, congrArg (·.1) hdrawn⟩, rfl⟩

theorem deactivate_eq_ok (h : a.deactivate = .ok b) : b = ⟨none⟩ := by
  unfold deactivate at h
  split at h
  · exact (Except.ok.inj h).symm
  · cases h

end Activation

end ModalConsole
