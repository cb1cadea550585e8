import Mathlib.Data.List.Basic
import Mathlib.Tactic.Ring
import ModalConsole.RandomWords

/-!
# The words that are drawn

A source never ends: behind the words of its list there are zeros. A draw takes words up to one that
is accepted, and a zero always is.

* `accepts`, `numberOf`: which words are accepted, and for which number. `exists_accepts`: every
  number below the bound has such a word.
* `RandomWords.next`, `RandomWords.after`: the words to come, and the source behind them.
  `countP_next_le`: the words among them that are not accepted stand on the list.
* `RandomWords.Spends`: the words that are taken until a number of them is accepted, and not one
  more. `Spends.append`: draws one after the other. `Spends.length_le`: how many words they take at
  most.
* **`RandomWords.draw_spends`**: what a draw takes, what it answers and what it leaves.
-/

namespace ModalConsole

/-! ## One word -/

/-- Is the word turned into a number below `n`? -/
def accepts (n : Nat) (w : UInt64) : Bool := w.toNat * n % wordRange ≤ acceptedLow n

/-- The number below `n` that the word stands for. -/
def numberOf (n : Nat) (w : UInt64) : Nat := w.toNat * n / wordRange

theorem accepts_zero (n : Nat) : accepts n 0 = true := by simp [accepts]

theorem le_acceptedLow {n k : Nat} (h : k < n) : k ≤ acceptedLow n := by
  have hpow : n ≤ n * Nat.pow 2 (63 - n.log2) :=
    Nat.le_mul_of_pos_right n (Nat.pow_pos (by decide))
  exact Nat.le_sub_one_of_lt (h.trans_le hpow)

/-- Every number below the bound has a word that is accepted for it. -/
theorem exists_accepts {n i : Nat} (hn : n ≤ wordRange) (hi : i < n) :
    ∃ w, accepts n w = true ∧ numberOf n w = i := by
  have hpos : 0 < n := Nat.zero_lt_of_lt hi
  -- the least word whose product with `n` reaches `i * wordRange`
  obtain ⟨q, hq⟩ : ∃ q, q = (i * wordRange + (n - 1)) / n := ⟨_, rfl⟩
  have hdiv : n * q + (i * wordRange + (n - 1)) % n = i * wordRange + (n - 1) := by
    rw [hq]
    exact Nat.div_add_mod _ n
  have hmod : (i * wordRange + (n - 1)) % n < n := Nat.mod_lt _ hpos
  obtain ⟨low, hlow⟩ : ∃ low, n * q = i * wordRange + low := Nat.exists_eq_add_of_le (by omega)
  have hsmall : low < n := by omega
  have hword : q < wordRange := by
    refine Nat.lt_of_mul_lt_mul_left (a := n) ?_
    calc n * q = i * wordRange + low := hlow
      _ < i * wordRange + wordRange := Nat.add_lt_add_left (hsmall.trans_le hn) _
      _ = (i + 1) * wordRange := (Nat.succ_mul i wordRange).symm
      _ ≤ n * wordRange := Nat.mul_le_mul_right _ hi
  have htoNat : (UInt64.ofNat q).toNat = q := UInt64.toNat_ofNat_of_lt' hword
  have hproduct : q * n = low + wordRange * i := by
    rw [Nat.mul_comm, hlow]
    ring
  refine ⟨UInt64.ofNat q, ?_, ?_⟩
  · rw [accepts, htoNat, hproduct, Nat.add_mul_mod_self_left, Nat.mod_eq_of_lt (hsmall.trans_le hn)]
    exact decide_eq_true (le_acceptedLow hsmall)
  · rw [numberOf, htoNat, hproduct, Nat.add_mul_div_left _ _ (hpos.trans_le hn),
      Nat.div_eq_of_lt (hsmall.trans_le hn), Nat.zero_add]

namespace RandomWords

/-! ## The words to come -/

/-- The next words: those of the list, and zeros behind its end. -/
def next (source : RandomWords) (k : Nat) : List UInt64 :=
  (List.range k).map (source.coming.getD · 0)

/-- The source behind the next words. -/
def after (source : RandomWords) (k : Nat) : RandomWords :=
  ⟨source.coming.drop k, source.drawn + k⟩

variable {source : RandomWords} {n j k : Nat} {taken more : List UInt64}

@[simp] theorem length_next (source : RandomWords) (k : Nat) : (source.next k).length = k := by
  simp [next]

theorem after_after (source : RandomWords) (j k : Nat) :
    (source.after j).after k = source.after (j + k) := by
  simp [after, Nat.add_assoc]

theorem next_add (source : RandomWords) (j k : Nat) :
    source.next (j + k) = source.next j ++ (source.after j).next k := by
  simp [next, after, List.range_add, List.getD_eq_getElem?_getD]

theorem next_succ (source : RandomWords) (k : Nat) :
    source.next (k + 1) = source.coming.headD 0 :: (source.after 1).next k := by
  rw [Nat.add_comm, next_add]
  cases h : source.coming <;> simp [next, h]

/-- The words that are not accepted stand on the list. -/
theorem countP_next_le (source : RandomWords) (n k : Nat) :
    (source.next k).countP (!accepts n ·) ≤ source.coming.length := by
  induction k generalizing source with
  | zero => simp [next]
  | succ k ih =>
    have hrest := ih (source.after 1)
    rw [next_succ, List.countP_cons]
    cases hcoming : source.coming with
    | nil => simpa [after, hcoming, accepts_zero] using hrest
    | cons w rest =>
      have hlength : (source.after 1).coming.length = rest.length := by simp [after, hcoming]
      rw [List.length_cons]
      split <;> omega

/-! ## The words that draws take -/

/-- The source gives these words to draws below `n` that accept `k` of them, and no word behind the
last one of those. -/
structure Spends (source : RandomWords) (n k : Nat) (taken : List UInt64) : Prop where
  next : source.next taken.length = taken
  accepted : (taken.filter (accepts n)).length = k
  last : ∀ w ∈ taken.getLast?, accepts n w = true

theorem spends_nil (source : RandomWords) (n : Nat) : source.Spends n 0 [] :=
  ⟨rfl, rfl, by simp⟩

theorem Spends.append (h : source.Spends n j taken)
    (hmore : (source.after taken.length).Spends n k more) :
    source.Spends n (j + k) (taken ++ more) where
  next := by rw [List.length_append, next_add, h.next, hmore.next]
  accepted := by rw [List.filter_append, List.length_append, h.accepted, hmore.accepted]
  last := by
    intro w hw
    rw [List.getLast?_append, Option.mem_def, Option.or_eq_some_iff] at hw
    rcases hw with hw | ⟨-, hw⟩
    · exact hmore.last w hw
    · exact h.last w hw

/-- All words that are not accepted stand on the list, so there are at most as many of them. -/
theorem Spends.length_le (h : source.Spends n k taken) :
    taken.length ≤ source.coming.length + k := by
  have hcount := List.length_eq_countP_add_countP (accepts n) (l := taken)
  have hrejected := countP_next_le source n taken.length
  rw [h.next] at hrejected
  rw [List.countP_eq_length_filter, h.accepted] at hcount
  simp only [decide_not, Bool.decide_eq_true] at hcount
  omega

/-- A draw takes words that are not accepted, and one that is. -/
theorem drawFrom_eq (n drawn : Nat) (coming : List UInt64) : ∃ rejected w,
    next ⟨coming, drawn⟩ (rejected.length + 1) = rejected ++ [w] ∧
    (∀ r ∈ rejected, accepts n r = false) ∧ accepts n w = true ∧
    drawFrom n drawn coming = (numberOf n w, after ⟨coming, drawn⟩ (rejected.length + 1)) := by
  induction coming generalizing drawn with
  | nil => exact ⟨[], 0, rfl, by simp, accepts_zero n, by simp [drawFrom, numberOf, after]⟩
  | cons w rest ih =>
    by_cases hw : accepts n w = true
    · refine ⟨[], w, rfl, by simp, hw, ?_⟩
      rw [drawFrom, if_pos (of_decide_eq_true hw)]
      rfl
    · obtain ⟨rejected, last, hnext, hrejected, hlast, hdraw⟩ := ih (drawn + 1)
      refine ⟨w :: rejected, last, ?_, ?_, hlast, ?_⟩
      · rw [next_succ]
        exact congrArg (w :: ·) hnext
      · exact List.forall_mem_cons.mpr ⟨Bool.eq_false_iff.mpr hw, hrejected⟩
      · rw [drawFrom, if_neg fun h => hw (decide_eq_true h), hdraw]
        simp only [after, List.length_cons, List.drop_succ_cons, Nat.add_comm, Nat.add_left_comm]

/-- **A draw takes words up to the first one that is accepted**, answers the number for which this
one stands, and leaves the source behind it. -/
theorem draw_spends (source : RandomWords) (n : Nat) : ∃ taken w,
    source.Spends n 1 taken ∧ taken.filter (accepts n) = [w] ∧
    source.draw n = (numberOf n w, source.after taken.length) := by
  obtain ⟨rejected, w, hnext, hrejected, hw, hdraw⟩ := drawFrom_eq n source.drawn source.coming
  have hfilter : (rejected ++ [w]).filter (accepts n) = [w] := by
    rw [List.filter_append, List.filter_eq_nil_iff.mpr fun r hr => by simp [hrejected r hr]]
    simp [hw]
  refine ⟨rejected ++ [w], w, ⟨?_, by rw [hfilter]; rfl, by simp [hw]⟩, hfilter, ?_⟩
  · rw [List.length_append]
    exact hnext
  · rw [List.length_append]
    exact hdraw

end RandomWords

end ModalConsole
