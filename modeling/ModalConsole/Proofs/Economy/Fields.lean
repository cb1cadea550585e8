import Mathlib.Data.List.Induction
import ModalConsole.Proofs.Economy.Record

/-!
# What counts in a record

Reading a record looks each of three keys up on its lines; the last line that has the key counts.
All else may be rewritten without changing what the record stands for.

* `Gives`: a line gives a key a value (`recordField_eq_some_iff`). Blanks around the line, its key
  and its value do not matter for that (`Padded`, `recordField_of_padded`).
* `LastGives`: the value on the last line that gives the key one. `lastOn_eq_some_iff`: reading
  finds it. `lastOn_append`: later lines come first.
* `ofRecord_congr`: records with the same three values stand for the same economy. From this,
  `ofRecord_of_perm`, `ofRecord_of_added`, `ofRecord_of_repeated`, `ofRecord_of_moreReturns` and
  `ofRecord_of_padded`.
* `Stores`: the three values are numbers, those of an economy. `ofRecord_of_stores`,
  `ofRecord_of_missing`: a record stands for that economy if it keeps the rules, else for a new one.
* **`only_last_values_count`**: all of this together.
-/

namespace ModalConsole.Economy

open Text Binary64

/-! ## One line -/

/-- The line gives the key the value: what stands before its first colon is the key and what stands
behind it is the value, both without the blanks around them. -/
def Gives (line : List Char) (key : String) (value : List Char) : Prop :=
  ∃ before after, line = before ++ ':' :: after ∧ ':' ∉ before ∧ trim before = key.toList ∧
    trim after = value

theorem colon_not_mem {s : List Char} (h : ∀ c ∈ s, isBlank c = true) : ':' ∉ s := by
  intro hcolon
  exact absurd (h ':' hcolon) (by decide)

/-- A line is cut at its first colon, whether or not the blanks around it are dropped before. -/
theorem recordField_of_cut {before : List Char} (h : ':' ∉ before) (after : List Char) :
    recordField (before ++ ':' :: after) = some (trim before, trim after) := by
  have hstart : ':' ∉ trimStart before :=
    fun hcolon => h ((List.dropWhile_suffix isBlank).subset hcolon)
  rw [recordField, trim_append_cons (by decide), splitAtFirst_append hstart, Option.map_some]
  simp only [trim_trimStart, trim_trimEnd]

theorem recordField_of_not_mem {line : List Char} (h : ':' ∉ line) : recordField line = none := by
  have htrim : ':' ∉ trim line := fun hcolon => h (mem_of_mem_trim hcolon)
  rw [recordField, splitAtFirst_eq_none_iff.mpr htrim, Option.map_none]

theorem recordField_eq_some_iff {line : List Char} {key : String} {value : List Char} :
    recordField line = some (key.toList, value) ↔ Gives line key value := by
  constructor
  · intro hfield
    have hcolon : ':' ∈ line := by
      by_contra hcolon
      rw [recordField_of_not_mem hcolon] at hfield
      cases hfield
    obtain ⟨before, after, rfl, hbefore⟩ := List.eq_append_cons_of_mem hcolon
    rw [recordField_of_cut hbefore] at hfield
    obtain ⟨hkey, hvalue⟩ := Prod.mk.inj (Option.some.inj hfield)
    exact ⟨before, after, rfl, hbefore, hkey, hvalue⟩
  · rintro ⟨before, after, rfl, hbefore, hkey, hvalue⟩
    rw [recordField_of_cut hbefore, hkey, hvalue]

/-- A line gives one key one value. -/
theorem Gives.unique {line : List Char} {key key' : String} {value value' : List Char}
    (h : Gives line key value) (h' : Gives line key' value') : key = key' ∧ value = value' := by
  rw [← recordField_eq_some_iff] at h h'
  obtain ⟨hkey, hvalue⟩ := Prod.mk.inj (Option.some.inj (h.symm.trans h'))
  exact ⟨String.toList_inj.mp hkey, hvalue⟩

/-- The second line is the first one with blanks put around it, or around its key and its value. -/
inductive Padded : List Char → List Char → Prop
  | line {front back : List Char} (line : List Char) : (∀ c ∈ front, isBlank c = true) →
      (∀ c ∈ back, isBlank c = true) → Padded line (front ++ line ++ back)
  | field {front middle gap back key : List Char} (value : List Char) :
      (∀ c ∈ front, isBlank c = true) → (∀ c ∈ middle, isBlank c = true) →
      (∀ c ∈ gap, isBlank c = true) → (∀ c ∈ back, isBlank c = true) → ':' ∉ key →
      Padded (key ++ ':' :: value) (front ++ key ++ middle ++ ':' :: (gap ++ value ++ back))

theorem recordField_trim (line : List Char) : recordField (trim line) = recordField line := by
  rw [recordField, recordField, (solidEnds_trim line).trim_eq]

theorem recordField_of_padded {line line' : List Char} (h : Padded line line') :
    recordField line' = recordField line := by
  cases h with
  | line _ hfront hback =>
    rw [← recordField_trim, trim_between_blanks hfront hback, recordField_trim]
  | @field front middle gap back key value hfront hmiddle hgap hback hkey =>
    have hpadded : ':' ∉ front ++ key ++ middle := by
      rw [List.mem_append, List.mem_append, not_or, not_or]
      exact ⟨⟨colon_not_mem hfront, hkey⟩, colon_not_mem hmiddle⟩
    rw [recordField_of_cut hpadded, recordField_of_cut hkey, trim_between_blanks hfront hmiddle,
      trim_between_blanks hgap hback]

/-! ## The last line with a key -/

/-- The value on the last of the lines that gives the key one. -/
def LastGives (ls : List (List Char)) (key : String) (value : List Char) : Prop :=
  ∃ earlier line later, ls = earlier ++ line :: later ∧ Gives line key value ∧
    ∀ other ∈ later, ∀ value', ¬ Gives other key value'

/-- The value that a list of lines gives last for a key. -/
def lastOn (ls : List (List Char)) (key : String) : Option (List Char) :=
  lastValue (ls.filterMap recordField) key

theorem lastValue_append (fields more : List (List Char × List Char)) (key : String) :
    lastValue (fields ++ more) key = (lastValue more key).or (lastValue fields key) := by
  rw [lastValue, lastValue, lastValue, List.reverse_append, List.find?_append, Option.map_or]

/-- Later lines come first. -/
theorem lastOn_append (ls ms : List (List Char)) (key : String) :
    lastOn (ls ++ ms) key = (lastOn ms key).or (lastOn ls key) := by
  rw [lastOn, List.filterMap_append, lastValue_append]
  rfl

theorem lastOn_singleton {line : List Char} {key : String} {value : List Char} :
    lastOn [line] key = some value ↔ Gives line key value := by
  rw [← recordField_eq_some_iff, lastOn]
  cases hfield : recordField line with
  | none => simp [lastValue, hfield]
  | some field =>
    obtain ⟨name, text⟩ := field
    by_cases hname : name = key.toList <;> simp [lastValue, hfield, hname]

theorem lastOn_eq_none_iff {ls : List (List Char)} {key : String} :
    lastOn ls key = none ↔ ∀ line ∈ ls, ∀ value, ¬ Gives line key value := by
  induction ls with
  | nil => simp [lastOn, lastValue]
  | cons line ls ih =>
    rw [← List.singleton_append, lastOn_append, Option.or_eq_none_iff, ih, List.forall_mem_append,
      and_comm, List.forall_mem_singleton]
    refine and_congr_left fun _ => ?_
    rw [Option.eq_none_iff_forall_ne_some]
    exact forall_congr' fun value => not_congr lastOn_singleton

theorem LastGives.concat {ls : List (List Char)} {key : String} {value line : List Char}
    (h : LastGives ls key value) (hline : ∀ value', ¬ Gives line key value') :
    LastGives (ls ++ [line]) key value := by
  obtain ⟨earlier, giver, later, rfl, hgives, hlater⟩ := h
  refine ⟨earlier, giver, later ++ [line], by simp, hgives, ?_⟩
  rw [List.forall_mem_append, List.forall_mem_singleton]
  exact ⟨hlater, hline⟩

/-- The last line that gives the key a value counts. -/
theorem lastOn_eq_some_iff {ls : List (List Char)} {key : String} {value : List Char} :
    lastOn ls key = some value ↔ LastGives ls key value := by
  constructor
  · intro hlast
    induction ls using List.reverseRecOn with
    | nil => cases hlast
    | append_singleton ls line ih =>
      rw [lastOn_append, Option.or_eq_some_iff] at hlast
      rcases hlast with hline | ⟨hline, hlast⟩
      · exact ⟨ls, line, [], rfl, lastOn_singleton.mp hline, by simp⟩
      · rw [lastOn_eq_none_iff, List.forall_mem_singleton] at hline
        exact (ih hlast).concat hline
  · rintro ⟨earlier, line, later, rfl, hgives, hlater⟩
    rw [lastOn_append, ← List.singleton_append, lastOn_append, lastOn_eq_none_iff.mpr hlater,
      lastOn_singleton.mpr hgives]
    rfl

/-! ## Lines that do not count -/

theorem lastOn_of_added {earlier added later : List (List Char)} {key : String}
    (h : lastOn added key = none ∨ lastOn later key ≠ none) :
    lastOn (earlier ++ added ++ later) key = lastOn (earlier ++ later) key := by
  rw [lastOn_append, lastOn_append, lastOn_append]
  rcases h with hadded | hlater
  · rw [hadded, Option.none_or]
  · obtain ⟨value, hvalue⟩ := Option.ne_none_iff_exists'.mp hlater
    rw [hvalue, Option.some_or, Option.some_or]

/-- No key of a record stands on both lines. -/
def Apart (line line' : List Char) : Prop :=
  ∀ key ∈ recordKeys, ∀ value value', Gives line key value → ¬ Gives line' key value'

theorem Apart.symm {line line' : List Char} (h : Apart line line') : Apart line' line :=
  fun key hkey value value' hgives hgives' => h key hkey value' value hgives' hgives

/-- Of a key that stands on one line only, this line counts, wherever it stands. -/
theorem lastOn_eq_some_of_apart {ls : List (List Char)} (h : ls.Pairwise Apart) {key : String}
    (hkey : key ∈ recordKeys) {value : List Char} :
    lastOn ls key = some value ↔ ∃ line ∈ ls, Gives line key value := by
  rw [lastOn_eq_some_iff]
  constructor
  · rintro ⟨earlier, line, later, rfl, hgives, -⟩
    exact ⟨line, List.mem_append_right _ List.mem_cons_self, hgives⟩
  · rintro ⟨line, hline, hgives⟩
    obtain ⟨earlier, later, rfl⟩ := List.append_of_mem hline
    have hlater := (List.pairwise_cons.mp (List.pairwise_append.mp h).2.1).1
    exact ⟨earlier, line, later, rfl, hgives,
      fun other hother value' => hlater other hother key hkey value value' hgives⟩

theorem lastOn_perm {ls ls' : List (List Char)} (h : ls.Pairwise Apart) (hperm : ls.Perm ls')
    {key : String} (hkey : key ∈ recordKeys) : lastOn ls' key = lastOn ls key := by
  have h' : ls'.Pairwise Apart := (hperm.pairwise_iff Apart.symm).mp h
  refine Option.ext fun value => ?_
  rw [lastOn_eq_some_of_apart h' hkey, lastOn_eq_some_of_apart h hkey]
  simp only [hperm.mem_iff]

/-! ## Texts -/

theorem ofRecord_congr {text text' : String}
    (h : ∀ key ∈ recordKeys, lastOn (lines text'.toList) key = lastOn (lines text.toList) key) :
    ofRecord text' = ofRecord text := by
  have hnumber : ∀ key ∈ recordKeys, lastNumber (recordFields text') key =
      lastNumber (recordFields text) key := fun key hkey => congrArg (·.bind readChars) (h key hkey)
  have hbalance := hnumber balanceKey (by decide)
  have hbase := hnumber baseKey (by decide)
  have hmultiplier := hnumber multiplierKey (by decide)
  simp only [ofRecord, readRecord, hbalance, hbase, hmultiplier]

/-- Texts whose lines have the same fields stand for the same economy. -/
theorem ofRecord_of_recordFields {text text' : String}
    (h : recordFields text' = recordFields text) : ofRecord text' = ofRecord text :=
  ofRecord_congr fun key _ => congrArg (lastValue · key) h

/-! ## Rewriting a record -/

theorem ofRecord_of_perm {text text' : String} (hapart : (lines text.toList).Pairwise Apart)
    (hperm : (lines text.toList).Perm (lines text'.toList)) : ofRecord text' = ofRecord text :=
  ofRecord_congr fun _ hkey => lastOn_perm hapart hperm hkey

section Added

variable {text text' : String} {earlier later : List (List Char)}
  (hlines : lines text.toList = earlier ++ later)
include hlines

theorem ofRecord_of_added {added : List (List Char)}
    (hlines' : lines text'.toList = earlier ++ added ++ later)
    (hadded : ∀ line ∈ added, ∀ key ∈ recordKeys, ∀ value, ¬ Gives line key value) :
    ofRecord text' = ofRecord text := by
  refine ofRecord_congr fun key hkey => ?_
  have hnone : lastOn added key = none :=
    lastOn_eq_none_iff.mpr fun line hline => hadded line hline key hkey
  rw [hlines, hlines', lastOn_of_added (Or.inl hnone)]

theorem ofRecord_of_repeated {line : List Char}
    (hlines' : lines text'.toList = earlier ++ line :: later) {key : String} {value : List Char}
    (hgives : Gives line key value) (hagain : ∃ other ∈ later, ∃ value', Gives other key value') :
    ofRecord text' = ofRecord text := by
  refine ofRecord_congr fun name _ => ?_
  have hcounts : lastOn [line] name = none ∨ lastOn later name ≠ none := by
    by_cases hname : name = key
    · obtain ⟨other, hother, value', hgives'⟩ := hagain
      refine Or.inr fun hnone => lastOn_eq_none_iff.mp hnone other hother value' ?_
      rw [hname]
      exact hgives'
    · refine Or.inl (lastOn_eq_none_iff.mpr ?_)
      rw [List.forall_mem_singleton]
      exact fun value' hgives' => hname (hgives'.unique hgives).1
  have hsplit : earlier ++ line :: later = earlier ++ [line] ++ later := by simp
  rw [hlines, hlines', hsplit, lastOn_of_added hcounts]

end Added

theorem ofRecord_of_moreReturns {text text' : String}
    (h : MoreReturns text.toList text'.toList) : ofRecord text' = ofRecord text := by
  have htrim : recordField = recordField ∘ trim := by
    funext line
    exact (recordField_trim line).symm
  refine ofRecord_of_recordFields ?_
  rw [recordFields, recordFields, htrim, ← List.filterMap_map, ← List.filterMap_map,
    map_trim_lines h]

theorem filterMap_of_padded {ls ls' : List (List Char)} (h : List.Forall₂ Padded ls ls') :
    ls'.filterMap recordField = ls.filterMap recordField := by
  induction h with
  | nil => rfl
  | cons hline _ ih =>
    rw [List.filterMap_cons, List.filterMap_cons, recordField_of_padded hline, ih]

theorem ofRecord_of_padded {text text' : String}
    (h : List.Forall₂ Padded (lines text.toList) (lines text'.toList)) :
    ofRecord text' = ofRecord text :=
  ofRecord_of_recordFields (filterMap_of_padded h)

/-! ## What a record stands for -/

/-- The last values of the text for the three keys are the numbers of the economy. -/
structure Stores (text : String) (e : Economy) : Prop where
  balance : ∃ value, LastGives (lines text.toList) balanceKey value ∧
    readChars value = some e.balance
  base : ∃ value, LastGives (lines text.toList) baseKey value ∧ readChars value = some e.base
  multiplier : ∃ value, LastGives (lines text.toList) multiplierKey value ∧
    readChars value = some e.multiplier

theorem lastNumber_eq_some_iff {text : String} {key : String} {x : Binary64} :
    lastNumber (recordFields text) key = some x ↔
      ∃ value, LastGives (lines text.toList) key value ∧ readChars value = some x := by
  simp only [← lastOn_eq_some_iff]
  exact Option.bind_eq_some_iff

theorem ofRecord_of_stores {text : String} {e : Economy} (h : Stores text e) :
    ofRecord text = if e.isValid then e else initial := by
  have hbalance := lastNumber_eq_some_iff.mpr h.balance
  have hbase := lastNumber_eq_some_iff.mpr h.base
  have hmultiplier := lastNumber_eq_some_iff.mpr h.multiplier
  simp only [ofRecord, readRecord, hbalance, hbase, hmultiplier]

/-- Without a number for one of the keys, a text stands for a new economy. -/
theorem ofRecord_of_missing {text : String} {key : String} (hkey : key ∈ recordKeys)
    (h : ∀ value, LastGives (lines text.toList) key value → readChars value = none) :
    ofRecord text = initial := by
  have hnone : lastNumber (recordFields text) key = none := by
    refine Option.eq_none_iff_forall_ne_some.mpr fun x hx => ?_
    obtain ⟨value, hlast, hvalue⟩ := lastNumber_eq_some_iff.mp hx
    rw [h value hlast] at hvalue
    cases hvalue
  have hread : readRecord text = none := by
    simp only [recordKeys, List.mem_cons, List.not_mem_nil, or_false] at hkey
    unfold readRecord
    rcases hkey with rfl | rfl | rfl <;> simp [hnone]
  rw [ofRecord, hread]

/-- **Only the last values of the three keys count.** Texts whose last lines with the three keys
give them the same values stand for the same economy. So do a text and another one that has

* its lines in another order, if none of the keys stands on two of them,
* more lines, without a colon or with other keys,
* one more line with a key that a later line has,
* carriage returns before some of its line feeds, or
* blanks around its lines, their keys and their values.

If the three values are numbers, the text stands for the economy with these numbers, provided that
it keeps the rules, and else for a new one; if one is missing or no number, for a new one. -/
theorem only_last_values_count :
    (∀ text text' : String, (∀ key ∈ recordKeys, ∀ value,
        LastGives (lines text.toList) key value ↔ LastGives (lines text'.toList) key value) →
      ofRecord text' = ofRecord text) ∧
    (∀ text text' : String, (lines text.toList).Perm (lines text'.toList) →
      (lines text.toList).Pairwise Apart → ofRecord text' = ofRecord text) ∧
    (∀ (text text' : String) (earlier added later), lines text.toList = earlier ++ later →
      lines text'.toList = earlier ++ added ++ later →
      (∀ line ∈ added, ∀ key ∈ recordKeys, ∀ value, ¬ Gives line key value) →
      ofRecord text' = ofRecord text) ∧
    (∀ (text text' : String) (earlier line later), lines text.toList = earlier ++ later →
      lines text'.toList = earlier ++ line :: later →
      (∃ key value, Gives line key value ∧ ∃ other ∈ later, ∃ value', Gives other key value') →
      ofRecord text' = ofRecord text) ∧
    (∀ text text' : String, MoreReturns text.toList text'.toList →
      ofRecord text' = ofRecord text) ∧
    (∀ text text' : String, List.Forall₂ Padded (lines text.toList) (lines text'.toList) →
      ofRecord text' = ofRecord text) ∧
    (∀ text e, Stores text e →
      ofRecord text = if e.isValid then e else ⟨.ofNat 0, .ofNat 1, .ofNat 1⟩) ∧
    ∀ text, ∀ key ∈ recordKeys,
      (∀ value, LastGives (lines text.toList) key value → readChars value = none) →
      ofRecord text = ⟨.ofNat 0, .ofNat 1, .ofNat 1⟩ := by
  refine ⟨fun text text' h => ?_, fun _ _ hperm hapart => ofRecord_of_perm hapart hperm,
    fun _ _ _ _ _ hlines => ofRecord_of_added hlines,
    fun text text' earlier line later hlines hlines' hagain => ?_,
    fun _ _ => ofRecord_of_moreReturns, fun _ _ => ofRecord_of_padded,
    fun _ _ => ofRecord_of_stores, fun _ _ => ofRecord_of_missing⟩
  · refine ofRecord_congr fun key hkey => Option.ext fun value => ?_
    rw [lastOn_eq_some_iff, lastOn_eq_some_iff, h key hkey value]
  · obtain ⟨key, value, hgives, hother⟩ := hagain
    exact ofRecord_of_repeated hlines hlines' hgives hother

/-- A record with foreign lines, blanks and a repeated key, the first time with a colon in its
value. -/
theorem only_last_values_count_repeated :
    let text := "note\r\nCoins:5:\n GetCoinsMulti :3\r\nGetCoinsValue:\t2\n\nCoins : 7 "
    let e : Economy := ⟨.ofNat 7, .ofNat 2, .ofNat 3⟩
    Stores text e ∧ ofRecord text = e := by
  intro text e
  have hstores : Stores text e :=
    { balance := ⟨['7'], lastOn_eq_some_iff.mp (by decide +kernel), by decide +kernel⟩
      base := ⟨['2'], lastOn_eq_some_iff.mp (by decide +kernel), by decide +kernel⟩
      multiplier := ⟨['3'], lastOn_eq_some_iff.mp (by decide +kernel), by decide +kernel⟩ }
  obtain ⟨-, -, -, -, -, -, hstored, -⟩ := only_last_values_count
  exact ⟨hstores, (hstored text e hstores).trans (if_pos (by decide +kernel))⟩

end ModalConsole.Economy
