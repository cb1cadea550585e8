import ModalConsole.Proofs.Storage.Disk
import ModalConsole.Storage.Store

/-!
# What is written into a store can be read

* `write_memory`: a store in memory refuses nothing and stays one.
* **`read_of_write`**: a text whose writing is not refused is read under its path.
  `read_of_refused`: a refused one brings no other text to light there.
-/

namespace ModalConsole.Store

variable {store store' : Store} {path content : String}

theorem write_memory (files : List (String × String)) (path content : String) :
    (memory files).write path content = (memory (withFile files path content), none) := rfl

theorem fileIn_withFile (files : List (String × String)) (path content : String) :
    fileIn (withFile files path content) path = some content := by
  simp [fileIn, withFile]

theorem fileIn_withFile_of_ne {other : String} (h : other ≠ path)
    (files : List (String × String)) (content : String) :
    fileIn (withFile files path content) other = fileIn files other := by
  rw [fileIn, withFile, List.find?_cons_of_neg (by simpa using Ne.symm h), find?_filter_key h,
    ← fileIn]

theorem readFrom_of_writeInto {root name : String} {disk disk' : Disk}
    (h : writeInto root disk name content = (disk', none)) :
    readFrom root disk' name = .ok (some content) := by
  unfold writeInto at h
  split at h
  · simp at h
  · split at h
    · simp at h
    · rename_i written hwritten
      obtain rfl : written = disk' := (Prod.mk.inj h).1
      rw [readFrom, Disk.read?_of_write? hwritten]

/-- **What has been written is read.** -/
theorem read_of_write (h : store.write path content = (store', none)) :
    store'.read path = .ok (some content) := by
  cases store with
  | memory files =>
    obtain rfl := (Prod.mk.inj h).1
    exact congrArg Except.ok (fileIn_withFile files path content)
  | directory root disk =>
    simp only [write] at h
    split_ifs at h with hname
    · simp at h
    · rcases hwrite : writeInto root disk (fileName path) content with ⟨disk', refusal⟩
      rw [hwrite, Prod.mk.injEq] at h
      obtain ⟨rfl, rfl⟩ := h
      rw [read, if_neg hname, readFrom_of_writeInto hwrite]
  | outOfOrder reason => simp [write] at h

theorem readFrom_of_refused {root name : String} {disk disk' : Disk} {refusal : StoreError}
    (h : writeInto root disk name content = (disk', some refusal)) :
    disk' = disk ∨ ∀ text, readFrom root disk' name ≠ .ok (some text) := by
  unfold writeInto at h
  split at h
  · exact Or.inl (Prod.mk.inj h).1.symm
  · split at h
    · rename_i made _ _ hrefused
      obtain rfl : made = disk' := (Prod.mk.inj h).1
      right
      intro text
      rcases Disk.read?_of_write?_eq_none hrefused with hread | hread
      · simp [readFrom, hread]
      · simp [readFrom, hread]
    · simp at h

/-- **What has been refused is not read.** The directory of the store may have been made, but there
is no text under the path that was not there before. -/
theorem read_of_refused {refusal : StoreError}
    (h : store.write path content = (store', some refusal)) :
    store'.read path = store.read path ∨ ∀ text, store'.read path ≠ .ok (some text) := by
  cases store with
  | memory files => simp [write] at h
  | directory root disk =>
    simp only [write] at h
    split_ifs at h with hname
    · exact Or.inl (congrArg (·.read path) (Prod.mk.inj h).1.symm)
    · rcases hwrite : writeInto root disk (fileName path) content with ⟨disk', result⟩
      rw [hwrite, Prod.mk.injEq] at h
      obtain ⟨rfl, rfl⟩ := h
      simp only [read, if_neg hname]
      exact (readFrom_of_refused hwrite).imp_left fun hsame => by rw [hsame]
  | outOfOrder reason => exact Or.inl (congrArg (·.read path) (Prod.mk.inj h).1.symm)

end ModalConsole.Store
