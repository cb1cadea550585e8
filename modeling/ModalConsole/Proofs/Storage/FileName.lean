import Mathlib.Data.List.DropRight
import Mathlib.Data.String.Basic
import ModalConsole.Storage.Store

/-!
# File names lead one step down

What `fileName` leaves of a path, whatever stands in the path, is the name of a file in the
directory of the store, and no way out of it.

* `isNameChar_of_mem_fileName`, `head_fileName`: it has name characters only, and the first one is
  no dot. `pathSteps_of_nameChars`: such a name is one step down.
* **`fileName_fileName`**: a file name stays as it is.
* **`pathSteps_joinPath_fileName`**: behind the path of a directory it leads one step further down.
-/

namespace ModalConsole

/-! ## The parts of a path -/

theorem pathParts_eq (path : String) : pathParts path =
    ((path.toList.splitOnP (· == '/')).map String.ofList).filter (· != "") := by
  rw [pathParts, String.splitToList_of_valid]

theorem pathParts_empty : pathParts "" = [] := by
  simp [pathParts_eq]

theorem pathParts_append (path more : String) :
    pathParts (path ++ "/" ++ more) = pathParts path ++ pathParts more := by
  have hlist : (path ++ "/" ++ more).toList = path.toList ++ '/' :: more.toList := by simp
  rw [pathParts_eq, hlist, List.splitOnP_append_cons _ _ (by rfl), List.map_append,
    List.filter_append, ← pathParts_eq, ← pathParts_eq]

theorem pathParts_of_not_mem {path : String} (h : '/' ∉ path.toList) (hne : path ≠ "") :
    pathParts path = [path] := by
  have hsingle : path.toList.splitOnP (· == '/') = [path.toList] := by
    refine List.splitOnP_eq_singleton fun c hc => ?_
    rw [beq_eq_false_iff_ne]
    rintro rfl
    exact h hc
  simp [pathParts_eq, hsingle, hne]

/-- A separator at the end of a path changes nothing. -/
theorem pathParts_of_getLast {path : String} (h : path.toList.getLast? = some '/') (more : String) :
    pathParts (path ++ more) = pathParts path ++ pathParts more := by
  obtain ⟨before, hbefore⟩ := List.getLast?_eq_some_iff.mp h
  obtain rfl : path = String.ofList before ++ "/" := String.toList_inj.mp (by simp [hbefore])
  have hend : pathParts (String.ofList before ++ "/") = pathParts (String.ofList before) := by
    simpa [pathParts_empty] using pathParts_append (String.ofList before) ""
  rw [pathParts_append, hend]

theorem pathParts_joinPath (path : String) {name : String} (h : isAbsolutePath name = false) :
    pathParts (joinPath path name) = pathParts path ++ pathParts name := by
  unfold joinPath
  rw [if_neg (by simp [h])]
  split_ifs with hend
  · rw [Bool.or_eq_true, String.isEmpty_iff, beq_iff_eq] at hend
    rcases hend with rfl | hend
    · simp [pathParts_empty]
    · exact pathParts_of_getLast hend name
  · exact pathParts_append path name

/-! ## File names -/

theorem afterSeparators_of_none {s : List Char} (h : ∀ c ∈ s, isSeparator c = false) :
    afterSeparators s = s := by
  cases s with
  | nil => rfl
  | cons c rest =>
    rw [List.forall_mem_cons] at h
    have hrest : rest.any isSeparator = false :=
      List.any_eq_false.mpr fun d hd => by simp [h.2 d hd]
    rw [afterSeparators, hrest, h.1]
    rfl

theorem isSeparator_of_isNameChar {c : Char} (h : isNameChar c = true) : isSeparator c = false := by
  by_contra hseparator
  simp only [isSeparator, Bool.not_eq_false, Bool.or_eq_true, beq_iff_eq] at hseparator
  rcases hseparator with (rfl | rfl) | rfl <;> exact absurd h (by decide)

theorem toList_fileName (path : String) : (fileName path).toList =
    ((afterSeparators path.toList).filter isNameChar).dropWhile (· == '.') :=
  String.toList_ofList

/-- A file name has name characters only. -/
theorem isNameChar_of_mem_fileName {path : String} {c : Char} (h : c ∈ (fileName path).toList) :
    isNameChar c = true := by
  rw [toList_fileName] at h
  exact (List.mem_filter.mp ((List.dropWhile_suffix _).mem h)).2

/-- A file name does not start with a dot. -/
theorem head_fileName (path : String) : (fileName path).toList.head? ≠ some '.' := by
  intro h
  rw [toList_fileName] at h
  have hfirst :=
    List.head?_dropWhile_not (· == '.') ((afterSeparators path.toList).filter isNameChar)
  rw [h] at hfirst
  cases hfirst

/-- **A file name stays as it is.** -/
theorem fileName_fileName (path : String) : fileName (fileName path) = fileName path := by
  have hchars : ∀ c ∈ (fileName path).toList, isNameChar c = true :=
    fun c => isNameChar_of_mem_fileName
  have hdots : (fileName path).toList.dropWhile (· == '.') = (fileName path).toList := by
    rw [toList_fileName, List.dropWhile_idempotent]
  rw [fileName, afterSeparators_of_none fun c hc => isSeparator_of_isNameChar (hchars c hc),
    List.filter_eq_self.mpr hchars, hdots, String.ofList_toList]

/-! ## File names on a disk -/

theorem not_mem_fileName {c : Char} (h : isNameChar c = false) (path : String) :
    c ∉ (fileName path).toList := by
  intro hc
  rw [isNameChar_of_mem_fileName hc] at h
  cases h

theorem isAbsolutePath_fileName (path : String) : isAbsolutePath (fileName path) = false := by
  rw [isAbsolutePath, beq_eq_false_iff_ne]
  intro h
  exact not_mem_fileName (by decide) path (List.mem_of_head? h)

theorem pathSteps_fileName {path : String} (h : fileName path ≠ "") :
    pathSteps (fileName path) = [.down (fileName path)] := by
  have hdots : ∀ rest : List Char, (fileName path).toList ≠ '.' :: rest := by
    intro rest hrest
    exact head_fileName path (by rw [hrest]; rfl)
  have hdot : fileName path ≠ "." := fun hpath => hdots [] (by rw [hpath]; rfl)
  have hdotdot : fileName path ≠ ".." := fun hpath => hdots ['.'] (by rw [hpath]; rfl)
  rw [pathSteps, pathParts_of_not_mem (not_mem_fileName (by decide) path) h]
  simp [PathStep.ofPart?, hdot, hdotdot]

/-- **Behind the path of a directory, a file name leads one step further down.** -/
theorem pathSteps_joinPath_fileName (root : String) {path : String} (h : fileName path ≠ "") :
    pathSteps (joinPath root (fileName path)) = pathSteps root ++ [.down (fileName path)] := by
  rw [pathSteps, pathParts_joinPath root (isAbsolutePath_fileName path), List.filterMap_append,
    ← pathSteps, ← pathSteps, pathSteps_fileName h]

theorem mem_joinPath {path name : String} {c : Char} (h : c ∈ (joinPath path name).toList) :
    c ∈ path.toList ∨ c = '/' ∨ c ∈ name.toList := by
  unfold joinPath at h
  split_ifs at h
  · exact Or.inr (Or.inr h)
  · rw [String.toList_append, List.mem_append] at h
    exact h.imp_right Or.inr
  · simpa [or_assoc] using h

/-- A path to a directory stays usable with a file name behind it, unless it becomes too long. -/
theorem isUsablePath_joinPath_fileName {root path : String} (hroot : isUsablePath root = true)
    (hshort : (joinPath root (fileName path)).utf8ByteSize ≤ longestPath) :
    isUsablePath (joinPath root (fileName path)) = true := by
  simp only [isUsablePath, Bool.and_eq_true, decide_eq_true_eq, Bool.not_eq_true',
    List.any_eq_false, beq_iff_eq] at hroot ⊢
  refine ⟨hshort, fun c hc hzero => ?_⟩
  rcases mem_joinPath hc with hc | rfl | hc
  · exact hroot.2 c hc hzero
  · exact absurd hzero (by decide)
  · have hnul : c = Char.ofNat 0 := Char.toNat_inj.mp hzero
    exact not_mem_fileName (by decide) path (hnul ▸ hc)

end ModalConsole
