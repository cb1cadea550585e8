import Mathlib.Computability.Language
import ModalConsole.Proofs.ProductKey
import ModalConsole.Proofs.RandomWords

/-!
# The keys that can be generated

A key is drawn character by character and recognised group by group. Both describe the same texts:
five groups of five capital letters or digits with hyphens between them.

* `IsKeyChar`, `keyPattern`: the shape as a language, `[A-Z0-9]{5}(-[A-Z0-9]{5}){4}` for four
  hyphens. `isKeyGroups_iff`: this is what is recognised.
* `mem_keyPattern_iff`: the same as groups that are joined. `hyphenated_flatten`: hyphens put into
  the characters of such groups join them.
* `drawKeyChars_spends`: which words the characters are drawn from. `drawKeyChars_of_accepts`: from
  accepted words all of them, one each; `exists_words`: any characters have such words.
* **`hasKeyShape_iff_generated`**: the keys that are recognised are the ones that can be generated,
  and what is taken to generate one.
-/

namespace ModalConsole

/-! ## The shape -/

/-- A capital letter or a digit. -/
def IsKeyChar (c : Char) : Prop := 'A' ≤ c ∧ c ≤ 'Z' ∨ '0' ≤ c ∧ c ≤ '9'

/-- A full group of them. -/
def IsKeyGroup (group : List Char) : Prop :=
  group.length = keyGroupSize ∧ ∀ c ∈ group, IsKeyChar c

/-- The texts of one such character. -/
def keyClass : Language Char := {s | ∃ c, IsKeyChar c ∧ s = [c]}

/-- A group, followed by a number of times a hyphen and a group. -/
def keyPattern (hyphens : Nat) : Language Char :=
  keyClass ^ keyGroupSize * ({['-']} * keyClass ^ keyGroupSize) ^ hyphens

theorem isKeyChar_iff {c : Char} : isKeyChar c = true ↔ IsKeyChar c := by
  have hupper : c.isUpper = true ↔ 'A' ≤ c ∧ c ≤ 'Z' := decide_eq_true_iff
  have hdigit : c.isDigit = true ↔ '0' ≤ c ∧ c ≤ '9' :=
    Bool.and_eq_true_iff.trans (and_congr decide_eq_true_iff decide_eq_true_iff)
  rw [isKeyChar, Bool.or_eq_true, hupper, hdigit, IsKeyChar]

/-- The alphabet holds these characters and no others. -/
theorem mem_keyAlphabet_iff {c : Char} : c ∈ keyAlphabet ↔ IsKeyChar c := by
  constructor
  · intro h
    exact isKeyChar_iff.mp (isKeyChar_of_mem c h)
  · intro h
    have hsmall : c.toNat < 91 := by
      rcases h with ⟨-, h⟩ | ⟨-, h⟩
      · exact Nat.lt_succ_of_le h
      · exact Nat.lt_of_le_of_lt h (by decide)
    have hall : ∀ n < 91, isKeyChar (Char.ofNat n) = true → Char.ofNat n ∈ keyAlphabet := by
      decide
    rw [← Char.ofNat_toNat c] at h ⊢
    exact hall _ hsmall (isKeyChar_iff.mpr h)

theorem mem_keyClass_pow {n : Nat} {s : List Char} :
    s ∈ keyClass ^ n ↔ s.length = n ∧ ∀ c ∈ s, IsKeyChar c := by
  induction n generalizing s with
  | zero =>
    rw [pow_zero, Language.mem_one, List.length_eq_zero_iff]
    exact ⟨fun h => ⟨h, by simp [h]⟩, fun h => h.1⟩
  | succ n ih =>
    rw [pow_succ', Language.mem_mul]
    constructor
    · rintro ⟨_, ⟨c, hc, rfl⟩, rest, hrest, rfl⟩
      obtain ⟨hlength, hchars⟩ := ih.mp hrest
      exact ⟨congrArg (· + 1) hlength, List.forall_mem_cons.mpr ⟨hc, hchars⟩⟩
    · rintro ⟨hlength, hchars⟩
      cases s with
      | nil => cases hlength
      | cons c rest =>
        obtain ⟨hc, hrest⟩ := List.forall_mem_cons.mp hchars
        exact ⟨[c], ⟨c, hc, rfl⟩, rest, ih.mpr ⟨Nat.succ_inj.mp hlength, hrest⟩, rfl⟩

theorem mem_keyPattern_zero {s : List Char} : s ∈ keyPattern 0 ↔ IsKeyGroup s := by
  rw [keyPattern, pow_zero, mul_one]
  exact mem_keyClass_pow

theorem mem_keyPattern_succ {n : Nat} {s : List Char} : s ∈ keyPattern (n + 1) ↔
    ∃ group rest, IsKeyGroup group ∧ rest ∈ keyPattern n ∧ s = group ++ '-' :: rest := by
  have hsucc : keyPattern (n + 1) = keyClass ^ keyGroupSize * ({['-']} * keyPattern n) := by
    rw [keyPattern, pow_succ', mul_assoc, keyPattern]
  rw [hsucc, Language.mem_mul]
  constructor
  · rintro ⟨group, hgroup, _, ⟨_, rfl, rest, hrest, rfl⟩, rfl⟩
    exact ⟨group, rest, mem_keyClass_pow.mp hgroup, hrest, rfl⟩
  · rintro ⟨group, rest, hgroup, hrest, rfl⟩
    exact ⟨group, mem_keyClass_pow.mpr hgroup, _, ⟨['-'], rfl, rest, hrest, rfl⟩, rfl⟩

/-- **The texts that are recognised are those of the pattern.** -/
theorem isKeyGroups_iff {n : Nat} {s : List Char} : isKeyGroups n s = true ↔ s ∈ keyPattern n := by
  have hgroup : ∀ g : List Char, (g.length == keyGroupSize && g.all isKeyChar) = true ↔
      IsKeyGroup g := by
    simp [IsKeyGroup, isKeyChar_iff]
  induction n generalizing s with
  | zero =>
    rw [mem_keyPattern_zero]
    unfold isKeyGroups
    simp only [Bool.and_eq_true (_ && _), hgroup]
    constructor
    · rintro ⟨hfull, hend⟩
      cases hdrop : s.drop keyGroupSize with
      | nil => rwa [← List.take_append_drop keyGroupSize s, hdrop, List.append_nil]
      | cons c rest => simp [hdrop] at hend
    · intro h
      rw [List.take_of_length_le h.1.le, List.drop_of_length_le h.1.le]
      exact ⟨h, rfl⟩
  | succ n ih =>
    rw [mem_keyPattern_succ]
    unfold isKeyGroups
    simp only [Bool.and_eq_true (_ && _), hgroup]
    constructor
    · rintro ⟨hfull, hrest⟩
      split at hrest
      · contradiction
      · rename_i rest hn hdrop
        obtain rfl := Nat.succ_inj.mp hn
        exact ⟨_, rest, hfull, ih.mp hrest, by rw [← hdrop, List.take_append_drop]⟩
      · contradiction
    · rintro ⟨group, rest, hfull, hrest, rfl⟩
      rw [List.take_left' hfull.1, List.drop_left' hfull.1]
      exact ⟨hfull, ih.mpr hrest⟩

theorem hasKeyShape_iff {key : String} :
    hasKeyShape key = true ↔ key.toList ∈ keyPattern keyHyphens :=
  isKeyGroups_iff

/-! ## Groups -/

theorem mem_keyPattern_iff {n : Nat} {s : List Char} : s ∈ keyPattern n ↔
    ∃ groups : List (List Char), groups.length = n + 1 ∧ (∀ g ∈ groups, IsKeyGroup g) ∧
      s = ['-'].intercalate groups := by
  induction n generalizing s with
  | zero =>
    rw [mem_keyPattern_zero]
    constructor
    · intro h
      exact ⟨[s], rfl, by simpa using h, List.intercalate_singleton.symm⟩
    · rintro ⟨groups, hlength, hgroups, rfl⟩
      obtain ⟨g, rfl⟩ := List.length_eq_one_iff.mp hlength
      rw [List.intercalate_singleton]
      exact hgroups g (List.mem_singleton_self g)
  | succ n ih =>
    rw [mem_keyPattern_succ]
    constructor
    · rintro ⟨group, rest, hgroup, hrest, rfl⟩
      obtain ⟨groups, hlength, hgroups, rfl⟩ := ih.mp hrest
      obtain ⟨g, gs, rfl⟩ := List.exists_cons_of_length_eq_add_one hlength
      refine ⟨group :: g :: gs, congrArg (· + 1) hlength,
        List.forall_mem_cons.mpr ⟨hgroup, hgroups⟩, ?_⟩
      rw [List.intercalate_cons_cons, List.append_assoc, List.singleton_append]
    · rintro ⟨groups, hlength, hgroups, rfl⟩
      obtain ⟨group, rest, rfl⟩ := List.exists_cons_of_length_eq_add_one hlength
      obtain ⟨g, gs, rfl⟩ := List.exists_cons_of_length_eq_add_one (Nat.succ_inj.mp hlength)
      obtain ⟨hgroup, hrest⟩ := List.forall_mem_cons.mp hgroups
      refine ⟨group, ['-'].intercalate (g :: gs), hgroup,
        ih.mpr ⟨g :: gs, Nat.succ_inj.mp hlength, hrest, rfl⟩, ?_⟩
      rw [List.intercalate_cons_cons, List.append_assoc, List.singleton_append]

/-- Hyphens put into the characters of full groups join the groups. -/
theorem hyphenated_flatten {n : Nat} {groups : List (List Char)} (hlength : groups.length = n + 1)
    (hgroups : ∀ g ∈ groups, g.length = keyGroupSize) :
    hyphenated n groups.flatten = ['-'].intercalate groups := by
  induction n generalizing groups with
  | zero =>
    obtain ⟨g, rfl⟩ := List.length_eq_one_iff.mp hlength
    simp [hyphenated]
  | succ n ih =>
    obtain ⟨group, rest, rfl⟩ := List.exists_cons_of_length_eq_add_one hlength
    obtain ⟨g, gs, rfl⟩ := List.exists_cons_of_length_eq_add_one (Nat.succ_inj.mp hlength)
    obtain ⟨hgroup, hrest⟩ := List.forall_mem_cons.mp hgroups
    rw [List.intercalate_cons_cons, List.flatten_cons, hyphenated, List.take_left' hgroup,
      List.drop_left' hgroup, ih (Nat.succ_inj.mp hlength) hrest, List.append_assoc,
      List.singleton_append]

/-- As many characters as there are in a number of groups fall into these groups. -/
theorem exists_groups {n : Nat} {cs : List Char} (hlength : cs.length = n * keyGroupSize) :
    ∃ groups : List (List Char), groups.length = n ∧ (∀ g ∈ groups, g.length = keyGroupSize) ∧
      groups.flatten = cs := by
  induction n generalizing cs with
  | zero =>
    rw [Nat.zero_mul, List.length_eq_zero_iff] at hlength
    exact ⟨[], rfl, by simp, hlength.symm⟩
  | succ n ih =>
    rw [Nat.succ_mul] at hlength
    have hdrop : (cs.drop keyGroupSize).length = n * keyGroupSize := by
      rw [List.length_drop, hlength, Nat.add_sub_cancel]
    obtain ⟨groups, hcount, hgroups, hflatten⟩ := ih hdrop
    refine ⟨cs.take keyGroupSize :: groups, congrArg (· + 1) hcount,
      List.forall_mem_cons.mpr ⟨by simp; omega, hgroups⟩, ?_⟩
    rw [List.flatten_cons, hflatten, List.take_append_drop]

/-! ## Words -/

/-- The character that is drawn with an accepted word. -/
def keyCharOf (w : UInt64) : Char := keyAlphabet.getD (numberOf keyAlphabet.length w) 'A'

/-- What it takes to draw characters, and which ones they are. -/
theorem drawKeyChars_spends (n : Nat) (source : RandomWords) : ∃ taken,
    source.Spends keyAlphabet.length n taken ∧
    drawKeyChars n source =
      ((taken.filter (accepts keyAlphabet.length)).map keyCharOf, source.after taken.length) := by
  induction n generalizing source with
  | zero => exact ⟨[], source.spends_nil _, by simp [drawKeyChars, RandomWords.after]⟩
  | succ n ih =>
    obtain ⟨taken, w, hspends, hfilter, hdraw⟩ := source.draw_spends keyAlphabet.length
    obtain ⟨more, hmore, hrest⟩ := ih (source.after taken.length)
    refine ⟨taken ++ more, ?_, ?_⟩
    · rw [Nat.add_comm]
      exact hspends.append hmore
    · rw [drawKeyChars, drawKeyChar, hdraw]
      simp only [hrest, List.filter_append, hfilter, RandomWords.after_after, List.length_append]
      rfl

/-- Accepted words at the head of the list are all drawn, one for each character. -/
theorem drawKeyChars_of_accepts {words rest : List UInt64} {drawn : Nat}
    (h : ∀ w ∈ words, accepts keyAlphabet.length w = true) :
    (drawKeyChars words.length ⟨words ++ rest, drawn⟩).1 = words.map keyCharOf := by
  induction words generalizing drawn with
  | nil => rfl
  | cons w words ih =>
    obtain ⟨hw, hwords⟩ := List.forall_mem_cons.mp h
    have hdraw : drawFrom keyAlphabet.length drawn (w :: (words ++ rest)) =
        (numberOf keyAlphabet.length w, ⟨words ++ rest, drawn + 1⟩) := by
      rw [drawFrom, if_pos (of_decide_eq_true hw)]
      rfl
    rw [List.length_cons, drawKeyChars, drawKeyChar, RandomWords.draw, List.cons_append, hdraw]
    simp only [ih hwords, List.map_cons]
    rfl

theorem exists_word {c : Char} (hc : IsKeyChar c) :
    ∃ w, accepts keyAlphabet.length w = true ∧ keyCharOf w = c := by
  obtain ⟨i, hi, rfl⟩ := List.getElem_of_mem (mem_keyAlphabet_iff.mpr hc)
  obtain ⟨w, hw, hnumber⟩ := exists_accepts (n := keyAlphabet.length) (by decide) hi
  refine ⟨w, hw, ?_⟩
  rw [keyCharOf, hnumber, List.getD_eq_getElem?_getD, List.getElem?_eq_getElem hi, Option.getD_some]

/-- Any capital letters and digits have words that they are drawn with. -/
theorem exists_words {cs : List Char} (h : ∀ c ∈ cs, IsKeyChar c) : ∃ words : List UInt64,
    (∀ w ∈ words, accepts keyAlphabet.length w = true) ∧ words.map keyCharOf = cs := by
  induction cs with
  | nil => exact ⟨[], by simp, rfl⟩
  | cons c cs ih =>
    obtain ⟨hc, hcs⟩ := List.forall_mem_cons.mp h
    obtain ⟨w, hw, rfl⟩ := exists_word hc
    obtain ⟨words, hwords, rfl⟩ := ih hcs
    exact ⟨w :: words, List.forall_mem_cons.mpr ⟨hw, hwords⟩, rfl⟩

/-! ## Keys -/

/-- Every text of the shape is generated from some words. -/
theorem isGenerated_of_hasKeyShape {key : String} (h : hasKeyShape key = true) :
    IsGenerated key := by
  obtain ⟨groups, hcount, hgroups, hkey⟩ := mem_keyPattern_iff.mp (hasKeyShape_iff.mp h)
  have hchars : ∀ c ∈ groups.flatten, IsKeyChar c := by
    intro c hc
    obtain ⟨g, hg, hcg⟩ := List.mem_flatten.mp hc
    exact (hgroups g hg).2 c hcg
  obtain ⟨words, hwords, hmap⟩ := exists_words hchars
  have hlength : words.length = (keyHyphens + 1) * keyGroupSize := by
    rw [← List.length_map (f := keyCharOf), hmap, List.length_flatten,
      List.map_eq_replicate_iff.mpr fun g hg => (hgroups g hg).1, List.sum_replicate_nat, hcount]
  refine ⟨⟨words ++ [], 0⟩, ?_⟩
  rw [generateKey, ← hlength]
  simp only [drawKeyChars_of_accepts hwords, hmap]
  rw [hyphenated_flatten hcount fun g hg => (hgroups g hg).1, ← hkey, String.ofList_toList]

/-- What it takes to generate a key, and which key this is. -/
theorem generateKey_spends (source : RandomWords) :
    ∃ (taken : List UInt64) (groups : List (List Char)), source.Spends 36 25 taken ∧
      generateKey source =
        (String.ofList (['-'].intercalate groups), source.after taken.length) ∧
      groups.length = 5 ∧ (∀ g ∈ groups, IsKeyGroup g) ∧
      groups.flatten = (taken.filter (accepts 36)).map keyCharOf := by
  obtain ⟨taken, hspends, hdraw⟩ := drawKeyChars_spends ((keyHyphens + 1) * keyGroupSize) source
  obtain ⟨groups, hcount, hgroups, hflatten⟩ :=
    exists_groups (length_drawKeyChars ((keyHyphens + 1) * keyGroupSize) source)
  have hchars : ∀ g ∈ groups, ∀ c ∈ g, IsKeyChar c := fun g hg c hc =>
    mem_keyAlphabet_iff.mp (mem_drawKeyChars (hflatten ▸ List.mem_flatten.mpr ⟨g, hg, hc⟩))
  refine ⟨taken, groups, hspends, ?_, hcount, fun g hg => ⟨hgroups g hg, hchars g hg⟩, ?_⟩
  · rw [generateKey, ← hyphenated_flatten hcount hgroups, hflatten, hdraw]
  · rw [hflatten, hdraw]
    rfl

theorem length_hyphenated (n : Nat) (cs : List Char) :
    (hyphenated n cs).length = cs.length + n := by
  induction n generalizing cs with
  | zero => rfl
  | succ n ih =>
    rw [hyphenated, List.length_append, List.length_cons, ih, List.length_take, List.length_drop]
    omega

theorem length_generateKey (source : RandomWords) : (generateKey source).1.length = 29 := by
  rw [generateKey, String.length_ofList, length_hyphenated, length_drawKeyChars]
  rfl

/-- **A text has the shape of a key iff some random words lead to it.** Whatever the words of a
source, a key is generated after 25 of them have been accepted, and no word behind those is taken;
so at most 25 more than there are on the list. The key consists of five groups of five capital
letters or digits, the characters for which the accepted words stand in their order, with one hyphen
between two groups. -/
theorem hasKeyShape_iff_generated :
    (∀ key : String, (hasKeyShape key = true ↔ key.toList ∈ keyPattern 4) ∧
      (hasKeyShape key = true ↔ ∃ source, (generateKey source).1 = key)) ∧
    ∀ source : RandomWords, ∃ (taken : List UInt64) (groups : List (List Char)),
      source.Spends 36 25 taken ∧ taken.length ≤ source.coming.length + 25 ∧
      (generateKey source).2 = source.after taken.length ∧
      (generateKey source).1 = String.ofList (['-'].intercalate groups) ∧
      (generateKey source).1.length = 29 ∧
      groups.length = 5 ∧ (∀ g ∈ groups, g.length = 5 ∧ ∀ c ∈ g, IsKeyChar c) ∧
      groups.flatten = (taken.filter (accepts 36)).map keyCharOf := by
  refine ⟨fun key => ⟨hasKeyShape_iff, isGenerated_of_hasKeyShape, IsGenerated.hasKeyShape⟩,
    fun source => ?_⟩
  obtain ⟨taken, groups, hspends, hkey, hcount, hgroups, hflatten⟩ := generateKey_spends source
  exact ⟨taken, groups, hspends, hspends.length_le, congrArg (·.2) hkey, congrArg (·.1) hkey,
    length_generateKey source, hcount, hgroups, hflatten⟩

end ModalConsole
