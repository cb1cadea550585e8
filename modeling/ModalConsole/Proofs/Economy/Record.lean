import ModalConsole.Economy.Record
import ModalConsole.Proofs.Binary64.Decimal
import ModalConsole.Proofs.Text.Lines

/-!
# Records read back

* `readRecord_record`: the three numbers of every record read back exactly, also those of an
  economy that breaks the rules.
* `ofRecord_record`: so a record stands for its economy if that keeps the rules, and else for a new
  one. `isValid_ofRecord`: no text stands for an economy that breaks them.
* **`record_round_trip`**: the two together, and reading is done after one round.
-/

namespace ModalConsole

open Text Binary64

namespace Economy

/-! ## The lines of a record -/

/-- The line of a record for a key. -/
def recordLine (key : String) (x : Binary64) : List Char := key.toList ++ ':' :: x.shortestChars

/-- The keys of a record. -/
def recordKeys : List String := [balanceKey, baseKey, multiplierKey]

theorem toList_record (e : Economy) :
    e.record.toList = recordLine balanceKey e.balance ++ '\n' ::
      (recordLine baseKey e.base ++ '\n' :: recordLine multiplierKey e.multiplier) := by
  simp [record, recordLine, shortest]

/-- The characters of keys and numbers are no blanks and no colons. -/
theorem solid_of_mem_recordKeys :
    ∀ key ∈ recordKeys, ∀ c ∈ key.toList, isBlank c = false ∧ c ≠ ':' := by
  have hkeys : ∀ key ∈ recordKeys, key.toList.any (fun c => isBlank c || c == ':') = false := by
    decide
  intro key hkey c hc
  simpa using List.any_eq_false.mp (hkeys key hkey) c hc

theorem isBlank_of_mem_shortestChars {x : Binary64} {c : Char} (h : c ∈ x.shortestChars) :
    isBlank c = false :=
  isBlank_of_isNumberChar (isNumberChar_of_mem_shortestChars x c h)

variable {key : String} (hkey : key ∈ recordKeys) (x : Binary64)
include hkey

theorem isBlank_of_mem_recordLine : ∀ c ∈ recordLine key x, isBlank c = false := by
  intro c hc
  rcases List.mem_append.mp hc with hc | hc
  · exact (solid_of_mem_recordKeys key hkey c hc).1
  · rcases List.mem_cons.mp hc with rfl | hc
    · decide
    · exact isBlank_of_mem_shortestChars hc

theorem not_mem_recordLine {c : Char} (hc : isBlank c = true) : c ∉ recordLine key x := by
  intro hmem
  rw [isBlank_of_mem_recordLine hkey x c hmem] at hc
  cases hc

theorem recordField_recordLine :
    recordField (recordLine key x) = some (key.toList, x.shortestChars) := by
  have hsolid := solid_of_mem_recordKeys key hkey
  have htrimKey : trim key.toList = key.toList := trim_of_solid fun c hc => (hsolid c hc).1
  have htrimValue : trim x.shortestChars = x.shortestChars :=
    trim_of_solid fun c hc => isBlank_of_mem_shortestChars hc
  rw [recordField, trim_of_solid (isBlank_of_mem_recordLine hkey x), recordLine,
    splitAtFirst_append fun hcolon => (hsolid _ hcolon).2 rfl]
  simp only [Option.map_some, htrimKey, htrimValue]

omit hkey

theorem recordFields_record (e : Economy) :
    recordFields e.record = [(balanceKey.toList, e.balance.shortestChars),
      (baseKey.toList, e.base.shortestChars),
      (multiplierKey.toList, e.multiplier.shortestChars)] := by
  have hbalance : balanceKey ∈ recordKeys := by decide
  have hbase : baseKey ∈ recordKeys := by decide
  have hmultiplier : multiplierKey ∈ recordKeys := by decide
  have hplain : ∀ {key}, key ∈ recordKeys → ∀ x, '\n' ∉ recordLine key x :=
    fun hkey x => not_mem_recordLine hkey x (by decide)
  have hreturn : ∀ {key}, key ∈ recordKeys → ∀ x,
      dropReturn (recordLine key x) = recordLine key x :=
    fun hkey x => dropReturn_of_not_mem (not_mem_recordLine hkey x (by decide))
  rw [recordFields, toList_record, lines_append (hplain hbalance _), lines_append (hplain hbase _),
    lines_of_not_mem (hplain hmultiplier _) (by simp [recordLine]), hreturn hbalance, hreturn hbase]
  simp only [List.filterMap_cons, recordField_recordLine hbalance, recordField_recordLine hbase,
    recordField_recordLine hmultiplier, List.filterMap_nil]

/-! ## Reading -/

theorem readRecord_record (e : Economy) : readRecord e.record = some e := by
  have hvalue : ∀ key x, lastValue (recordFields e.record) key = some (shortestChars x) →
      lastNumber (recordFields e.record) key = some x := by
    intro key x hlast
    rw [lastNumber, hlast, Option.bind_some, readChars_shortestChars]
  have hbalance := hvalue balanceKey e.balance (by rw [recordFields_record]; rfl)
  have hbase := hvalue baseKey e.base (by rw [recordFields_record]; rfl)
  have hmultiplier := hvalue multiplierKey e.multiplier (by rw [recordFields_record]; rfl)
  simp only [readRecord, hbalance, hbase, hmultiplier]

theorem ofRecord_record (e : Economy) :
    ofRecord e.record = if e.isValid then e else initial := by
  simp only [ofRecord, readRecord_record]

theorem isValid_initial : initial.isValid = true := by
  decide +kernel

theorem isValid_ofRecord (text : String) : (ofRecord text).isValid = true := by
  unfold ofRecord
  split
  · split_ifs with hvalid
    · exact hvalid
    · exact isValid_initial
  · exact isValid_initial

theorem isValid_iff {e : Economy} : e.isValid = true ↔
    e.balance.isFinite = true ∧ e.base.isFinite = true ∧ e.multiplier.isFinite = true ∧
      zero.le e.balance = true ∧ one.le e.base = true ∧ one.le e.multiplier = true := by
  simp only [isValid, Bool.and_eq_true, and_assoc]

/-- **Records read back.** The record of an economy stands for it, bit for bit, if all its numbers
are finite, the balance is not negative and the base and the multiplier are at least one; else it
stands for a new economy. Every text stands for an economy that keeps these rules, and so for one
whose record stands for it. -/
theorem record_round_trip :
    (∀ e : Economy, ofRecord e.record = if e.isValid then e else ⟨.ofNat 0, .ofNat 1, .ofNat 1⟩) ∧
    (∀ e : Economy, e.isValid = true ↔
      e.balance.isFinite = true ∧ e.base.isFinite = true ∧ e.multiplier.isFinite = true ∧
        zero.le e.balance = true ∧ one.le e.base = true ∧ one.le e.multiplier = true) ∧
    ∀ text, (ofRecord text).isValid = true ∧ ofRecord (ofRecord text).record = ofRecord text := by
  refine ⟨ofRecord_record, fun e => isValid_iff, fun text => ?_⟩
  have hvalid := isValid_ofRecord text
  refine ⟨hvalid, ?_⟩
  rw [ofRecord_record, if_pos hvalid]

end Economy

end ModalConsole
