import Mathlib.Data.List.Induction
import ModalConsole.Storage.Disk

/-!
# What stands on a disk after writing and making directories

Where a path leads depends on the directories of a disk alone (`follow?_congr`, `placeIn?_congr`).
A text takes no place of a directory, so writing it leaves all paths as they are.

* **`read?_of_write?`**: what has been written under a name is read under it.
* `directoryAt?_makeDirectories`: a directory that has been made is there.
  `makeDirectories_of_directoryAt?`: where it is there already, nothing is made.
* `grows_makeDirectories`: what stands on a disk stays when directories are made.
  **`attemptDirectories_again`**: an attempt to make them leaves a disk on which a second one
  changes nothing and fails if the first one did.
* `read?_makeDirectories`: on a tree, a directory that is made below others is empty.
-/

namespace ModalConsole

/-- Taking out what is kept under one key leaves what is kept under another. -/
theorem find?_filter_key {α β : Type} [BEq α] [LawfulBEq α] {key other : α} (h : other ≠ key)
    (l : List (α × β)) : (l.filter (·.1 != key)).find? (·.1 == other) = l.find? (·.1 == other) := by
  have hkept : (fun x : α × β => decide (x.1 != key ∧ x.1 == other)) = fun x => x.1 == other := by
    funext x
    by_cases hx : x.1 = other
    · simp [hx, h]
    · simp [beq_false_of_ne hx]
  rw [List.find?_filter, hkept]

namespace Disk

variable {d d' : Disk}

/-! ## Putting an entry -/

/-- A place without a directory is not the top. -/
theorem ne_nil_of_find? {place : Place} (h : d.find? place ≠ some .directory) : place ≠ [] := by
  rintro rfl
  exact h rfl

theorem find?_put_self (d : Disk) {place : Place} (h : place ≠ []) (entry : Entry) :
    (d.put place entry).find? place = some entry := by
  simp [find?, put, h]

theorem find?_put_of_ne (d : Disk) {place other : Place} (h : other ≠ place) (entry : Entry) :
    (d.put place entry).find? other = d.find? other := by
  unfold find? put
  split_ifs with htop
  · rfl
  · rw [List.find?_cons_of_neg (by simpa using Ne.symm h), find?_filter_key h]

/-- Directories stay where they are when a text is put somewhere else. -/
theorem hasDirectory_put_text {place : Place} (h : d.hasDirectory place = false)
    (content : String) (other : Place) :
    (d.put place (.text content)).hasDirectory other = d.hasDirectory other := by
  by_cases hother : other = place
  · subst hother
    have htop : other ≠ [] := ne_nil_of_find? (beq_eq_false_iff_ne.mp h)
    rw [h, hasDirectory, find?_put_self d htop]
    rfl
  · rw [hasDirectory, find?_put_of_ne d hother]
    rfl

/-! ## Paths and directories -/

theorem follow?_congr (h : ∀ place, d'.hasDirectory place = d.hasDirectory place) (start : Place)
    (steps : List PathStep) : d'.follow? start steps = d.follow? start steps := by
  induction steps generalizing start with
  | nil => rfl
  | cons step rest ih =>
    cases step with
    | up => simp only [follow?, h, ih]
    | down name => simp only [follow?, placeBelow?, h, ih]

theorem directoryAt?_congr (h : ∀ place, d'.hasDirectory place = d.hasDirectory place)
    (path : String) : d'.directoryAt? path = d.directoryAt? path := by
  have hdirectory : d'.hasDirectory = d.hasDirectory := funext h
  simp only [directoryAt?, follow?_congr h, hdirectory]

theorem placeIn?_congr (h : ∀ place, d'.hasDirectory place = d.hasDirectory place)
    (directory name : String) : d'.placeIn? directory name = d.placeIn? directory name := by
  simp only [placeIn?, directoryAt?_congr h, placeBelow?, h]

theorem write?_eq_some {directory name content : String} :
    d.write? directory name content = some d' ↔ ∃ place, d.placeIn? directory name = some place ∧
      d.hasDirectory place = false ∧ d' = d.put place (.text content) := by
  unfold write?
  cases d.placeIn? directory name with
  | none => simp
  | some place =>
    cases hplace : d.hasDirectory place with
    | true => simp [hplace]
    | false => simpa [hplace] using eq_comm

/-- **What has been written can be read.** -/
theorem read?_of_write? {directory name content : String}
    (h : d.write? directory name content = some d') :
    d'.read? directory name = some (.text content) := by
  obtain ⟨place, hplace, hfree, rfl⟩ := write?_eq_some.mp h
  have htop : place ≠ [] := ne_nil_of_find? (beq_eq_false_iff_ne.mp hfree)
  rw [read?, placeIn?_congr (hasDirectory_put_text hfree content), hplace]
  exact find?_put_self d htop _

/-- Where nothing can be written, there is no file. -/
theorem read?_of_write?_eq_none {directory name content : String}
    (h : d.write? directory name content = none) :
    d.read? directory name = none ∨ d.read? directory name = some .directory := by
  unfold write? at h
  unfold read?
  cases hplace : d.placeIn? directory name with
  | none => exact Or.inl rfl
  | some place =>
    rw [hplace] at h
    cases hdirectory : d.hasDirectory place with
    | true => exact Or.inr (beq_iff_eq.mp hdirectory)
    | false => simp [hdirectory] at h

/-! ## Making directories -/

/-- Outside of some places, what stands on the first disk stands on the second one, where only
directories were added. -/
def ChangesOnly (places : Place → Prop) (d d' : Disk) : Prop :=
  ∀ place, places place ∨ d'.find? place = d.find? place ∨
    d.find? place = none ∧ d'.find? place = some .directory

/-- What stands on the first disk stands on the second one, where only directories were added. -/
def Grows (d made : Disk) : Prop := d.ChangesOnly (fun _ => False) made

variable {made : Disk} {place start : Place} {places : Place → Prop} {steps : List PathStep}
  {root : String}

theorem ChangesOnly.refl (places : Place → Prop) (d : Disk) : d.ChangesOnly places d :=
  fun _ => Or.inr (Or.inl rfl)

theorem ChangesOnly.mono {more : Place → Prop} (h : d.ChangesOnly places d')
    (hmore : ∀ place, places place → more place) : d.ChangesOnly more d' :=
  fun place => (h place).imp_left (hmore place)

theorem ChangesOnly.trans (h : d.ChangesOnly places d') (h' : d'.ChangesOnly places made) :
    d.ChangesOnly places made := by
  intro place
  rcases h' place with hplace | hsame | ⟨hfree, hnew⟩
  · exact Or.inl hplace
  · rw [hsame]
    exact h place
  · rcases h place with hplace | hbefore | ⟨-, htaken⟩
    · exact Or.inl hplace
    · exact Or.inr (Or.inr ⟨hbefore ▸ hfree, hnew⟩)
    · rw [htaken] at hfree
      cases hfree

theorem changesOnly_put (d : Disk) (place : Place) (entry : Entry) :
    d.ChangesOnly (· = place) (d.put place entry) := by
  intro other
  by_cases hother : other = place
  · exact Or.inl hother
  · exact Or.inr (Or.inl (find?_put_of_ne d hother entry))

theorem Grows.changesOnly (h : d.Grows made) (places : Place → Prop) : d.ChangesOnly places made :=
  ChangesOnly.mono h fun _ => False.elim

theorem Grows.refl (d : Disk) : d.Grows d := ChangesOnly.refl _ d

theorem Grows.trans (h : d.Grows d') (h' : d'.Grows made) : d.Grows made := ChangesOnly.trans h h'

theorem Grows.find?_eq_some (h : d.Grows made) {entry : Entry} (hd : d.find? place = some entry) :
    made.find? place = some entry := by
  rcases h place with hplace | hsame | ⟨hfree, -⟩
  · exact hplace.elim
  · rw [hsame, hd]
  · rw [hd] at hfree
    cases hfree

theorem Grows.hasDirectory (h : d.Grows made) (hd : d.hasDirectory place = true) :
    made.hasDirectory place = true := by
  simp only [Disk.hasDirectory, beq_iff_eq] at hd ⊢
  exact h.find?_eq_some hd

theorem makeDirectory_eq_some (h : d.makeDirectory place = some made) :
    d.Grows made ∧ made.hasDirectory place = true := by
  unfold makeDirectory at h
  split at h
  · rename_i hfree
    obtain rfl := Option.some.inj h
    have hother : d.find? place ≠ some .directory := by simp [hfree]
    have htop : place ≠ [] := ne_nil_of_find? hother
    refine ⟨fun other => ?_, by simp [hasDirectory, find?_put_self d htop]⟩
    by_cases hother : other = place
    · rw [hother]
      exact Or.inr (Or.inr ⟨hfree, find?_put_self d htop _⟩)
    · exact Or.inr (Or.inl (find?_put_of_ne d hother _))
  · rename_i hthere
    obtain rfl := Option.some.inj h
    exact ⟨.refl d, by simp [hasDirectory, hthere]⟩
  · cases h

/-- There are directories on the whole way to a place, itself included. -/
def Leads (d : Disk) (place : Place) : Prop :=
  ∀ before, before <+: place → d.hasDirectory before = true

theorem leads_nil (d : Disk) : d.Leads [] := by
  intro before hbefore
  rw [List.prefix_nil.mp hbefore]
  rfl

theorem Leads.self (h : d.Leads place) : d.hasDirectory place = true := h place (List.prefix_refl _)

theorem Leads.dropLast (h : d.Leads place) : d.Leads place.dropLast :=
  fun before hbefore => h before (hbefore.trans (List.dropLast_prefix place))

theorem Leads.concat {name : String} (h : d.Leads place)
    (hname : d.hasDirectory (place ++ [name]) = true) : d.Leads (place ++ [name]) := by
  intro before hbefore
  rcases List.prefix_concat_iff.mp hbefore with rfl | hbefore
  · exact hname
  · exact h before hbefore

theorem Leads.grows (h : d.Leads place) (hgrows : d.Grows made) : made.Leads place :=
  fun before hbefore => hgrows.hasDirectory (h before hbefore)

theorem placeBelow?_eq_some {name : String} : d.placeBelow? start name = some place ↔
    d.hasDirectory start = true ∧ name.utf8ByteSize ≤ longestName ∧ place = start ++ [name] := by
  unfold placeBelow?
  split_ifs with h
  · rw [Bool.and_eq_true, decide_eq_true_eq] at h
    simp [h, eq_comm]
  · rw [Bool.and_eq_true, decide_eq_true_eq] at h
    simp only [false_iff]
    tauto

/-- Steps along which directories have been made lead to one, on a disk that has only grown. -/
theorem makeAlong_eq_some (hstart : d.Leads start) (h : d.makeAlong start steps = some made) :
    d.Grows made ∧ ∃ place, made.follow? start steps = some place ∧ made.Leads place := by
  induction steps generalizing d start with
  | nil =>
    obtain rfl := Option.some.inj h
    exact ⟨.refl d, start, rfl, hstart⟩
  | cons step rest ih =>
    cases step with
    | up =>
      obtain ⟨hgrows, place, hfollow, hplace⟩ := ih hstart.dropLast h
      refine ⟨hgrows, place, ?_, hplace⟩
      rw [follow?, if_pos (hgrows.hasDirectory hstart.self), hfollow]
    | down name =>
      simp only [makeAlong, Option.bind_eq_bind, Option.bind_eq_some_iff] at h
      obtain ⟨below, hbelow, between, hbetween, hrest⟩ := h
      obtain ⟨-, hname, rfl⟩ := placeBelow?_eq_some.mp hbelow
      obtain ⟨hfirst, hdirectory⟩ := makeDirectory_eq_some hbetween
      obtain ⟨hgrows, place, hfollow, hplace⟩ :=
        ih ((hstart.grows hfirst).concat hdirectory) hrest
      refine ⟨hfirst.trans hgrows, place, ?_, hplace⟩
      have hthere := (hstart.grows (hfirst.trans hgrows)).self
      rw [follow?, placeBelow?_eq_some.mpr ⟨hthere, hname, rfl⟩, Option.bind_some, hfollow]

/-- Steps that lead to a directory start from one. -/
theorem hasDirectory_of_follow? (h : d.follow? start steps = some place)
    (hplace : d.hasDirectory place = true) : d.hasDirectory start = true := by
  cases steps with
  | nil =>
    obtain rfl := Option.some.inj h
    exact hplace
  | cons step rest =>
    cases step with
    | up =>
      rw [follow?] at h
      by_contra hstart
      rw [if_neg hstart] at h
      cases h
    | down name =>
      obtain ⟨below, hbelow, -⟩ := Option.bind_eq_some_iff.mp h
      exact (placeBelow?_eq_some.mp hbelow).1

/-- Along steps that lead to a directory, nothing is left to be made. -/
theorem makeAlong_of_follow? (h : d.follow? start steps = some place)
    (hplace : d.hasDirectory place = true) : d.makeAlong start steps = some d := by
  induction steps generalizing start with
  | nil => rfl
  | cons step rest ih =>
    have hstart := hasDirectory_of_follow? h hplace
    cases step with
    | up =>
      rw [follow?, if_pos hstart] at h
      exact ih h
    | down name =>
      obtain ⟨below, hbelow, hrest⟩ := Option.bind_eq_some_iff.mp h
      have hdirectory : d.find? below = some .directory := by
        simpa [hasDirectory] using hasDirectory_of_follow? hrest hplace
      have hmade : d.makeDirectory below = some d := by rw [makeDirectory, hdirectory]
      simp only [makeAlong, hbelow, hmade, Option.bind_eq_bind, Option.bind_some]
      exact ih hrest

theorem directoryAt?_eq_some {path : String} : d.directoryAt? path = some place ↔
    isUsablePath path = true ∧ d.follow? [] (pathSteps path) = some place ∧
      d.hasDirectory place = true := by
  unfold directoryAt?
  split_ifs with h
  · simp [h, Option.filter_eq_some_iff]
  · simp [h]

/-- Whatever is made for a path is made along steps, and the path then names a directory. -/
theorem makeDirectories_eq_some (h : d.makeDirectories root = some made) :
    (∃ steps, d.makeAlong [] steps = some made) ∧ ∃ place, made.directoryAt? root = some place := by
  unfold makeDirectories at h
  split_ifs at h with husable hdot
  · obtain ⟨halong, hthere⟩ := Option.filter_eq_some_iff.mp h
    exact ⟨⟨_, halong⟩, Option.isSome_iff_exists.mp hthere⟩
  · obtain ⟨-, place, hfollow, hplace⟩ := makeAlong_eq_some (leads_nil d) h
    exact ⟨⟨_, h⟩, place, directoryAt?_eq_some.mpr ⟨by simpa using husable, hfollow, hplace.self⟩⟩

/-- **A directory that has been made is there.** -/
theorem directoryAt?_makeDirectories (h : d.makeDirectories root = some made) :
    ∃ place, made.directoryAt? root = some place := (makeDirectories_eq_some h).2

/-- **What stands on a disk stays when directories are made.** -/
theorem grows_makeDirectories (h : d.makeDirectories root = some made) : d.Grows made := by
  obtain ⟨⟨steps, halong⟩, -⟩ := makeDirectories_eq_some h
  exact (makeAlong_eq_some (leads_nil d) halong).1

/-- Where the directory is there already, nothing is made. -/
theorem makeDirectories_of_directoryAt? (h : d.directoryAt? root = some place) :
    d.makeDirectories root = some d := by
  obtain ⟨husable, hfollow, hplace⟩ := directoryAt?_eq_some.mp h
  simp [makeDirectories, husable, h, makeAlong_of_follow? hfollow hplace]

/-! ## Attempts that fail -/

/-- What an attempt leaves has only grown, and a second attempt stops where the first one did. -/
theorem attemptAlong_spec (steps : List PathStep) (hstart : d.Leads start) :
    d.Grows (d.attemptAlong start steps) ∧
      (d.attemptAlong start steps).attemptAlong start steps = d.attemptAlong start steps ∧
      (d.makeAlong start steps = none →
        (d.attemptAlong start steps).makeAlong start steps = none) := by
  induction steps generalizing d start with
  | nil => exact ⟨.refl d, rfl, id⟩
  | cons step rest ih =>
    cases step with
    | up => exact ih hstart.dropLast
    | down name =>
      cases hbelow : d.placeBelow? start name with
      | none =>
        have hsame : d.attemptAlong start (.down name :: rest) = d := by
          simp only [attemptAlong, hbelow]
        simp only [hsame, and_self, imp_self, Grows.refl]
      | some place =>
        cases hmake : d.makeDirectory place with
        | none =>
          have hsame : d.attemptAlong start (.down name :: rest) = d := by
            simp only [attemptAlong, hbelow, hmake]
          simp only [hsame, and_self, imp_self, Grows.refl]
        | some between =>
          obtain ⟨-, hname, rfl⟩ := placeBelow?_eq_some.mp hbelow
          obtain ⟨hfirst, hdirectory⟩ := makeDirectory_eq_some hmake
          obtain ⟨hgrows, hagain, hnone⟩ := ih ((hstart.grows hfirst).concat hdirectory)
          have hsame : d.attemptAlong start (.down name :: rest) =
              between.attemptAlong (start ++ [name]) rest := by
            simp only [attemptAlong, hbelow, hmake]
          rw [hsame]
          generalize between.attemptAlong (start ++ [name]) rest = after at hgrows hagain hnone
          -- on what is left, the first directory is there already
          have hthere : after.placeBelow? start name = some (start ++ [name]) :=
            placeBelow?_eq_some.mpr ⟨(hstart.grows (hfirst.trans hgrows)).self, hname, rfl⟩
          have hkept : after.makeDirectory (start ++ [name]) = some after := by
            have hfind := beq_iff_eq.mp (hgrows.hasDirectory hdirectory)
            rw [makeDirectory, hfind]
          refine ⟨hfirst.trans hgrows, ?_, fun h => ?_⟩
          · simp only [attemptAlong, hthere, hkept, hagain]
          · simp only [makeAlong, hbelow, hmake, hthere, hkept, Option.bind_eq_bind,
              Option.bind_some] at h ⊢
            exact hnone h

theorem grows_attemptDirectories (d : Disk) (root : String) :
    d.Grows (d.attemptDirectories root) := by
  unfold attemptDirectories
  split_ifs
  · exact .refl d
  · exact (attemptAlong_spec _ (leads_nil d)).1
  · exact (attemptAlong_spec _ (leads_nil d)).1

/-- Below what is no directory stands nothing. -/
def IsTree (d : Disk) : Prop :=
  ∀ place name, d.find? (place ++ [name]) ≠ none → d.hasDirectory place = true

theorem IsTree.leads (htree : d.IsTree) (h : d.hasDirectory place = true) : d.Leads place := by
  induction place using List.reverseRecOn with
  | nil => exact leads_nil d
  | append_singleton place name ih =>
    have hthere : d.find? (place ++ [name]) ≠ none := by
      simp [beq_iff_eq.mp h]
    exact (ih (htree place name hthere)).concat h

/-- Steps that only lead down lead the same way wherever the directories on it are. -/
theorem follow?_of_leads (hdown : PathStep.up ∉ steps) (h : d'.follow? start steps = some place) :
    start <+: place ∧ (d.Leads place → d.follow? start steps = some place) := by
  induction steps generalizing start with
  | nil => exact ⟨Option.some.inj h ▸ List.prefix_refl start, fun _ => h⟩
  | cons step rest ih =>
    rw [List.mem_cons, not_or] at hdown
    cases step with
    | up => exact absurd rfl hdown.1
    | down name =>
      obtain ⟨below, hbelow, hrest⟩ := Option.bind_eq_some_iff.mp h
      obtain ⟨-, hname, rfl⟩ := placeBelow?_eq_some.mp hbelow
      obtain ⟨hway, hfollow⟩ := ih hdown.2 hrest
      have hstart : start <+: place := (List.prefix_append start [name]).trans hway
      refine ⟨hstart, fun hplace => ?_⟩
      rw [follow?, placeBelow?_eq_some.mpr ⟨hplace start hstart, hname, rfl⟩, Option.bind_some,
        hfollow hplace]

theorem placeIn?_eq_some {name : String} : d.placeIn? root name = some place ↔
    isUsablePath (joinPath root name) = true ∧ ∃ directory, d.directoryAt? root = some directory ∧
      name.utf8ByteSize ≤ longestName ∧ place = directory ++ [name] := by
  unfold placeIn?
  split_ifs with h
  · simp only [Option.bind_eq_some_iff, placeBelow?_eq_some, h, true_and]
    constructor
    · rintro ⟨directory, hdirectory, -, hname, rfl⟩
      exact ⟨directory, hdirectory, hname, rfl⟩
    · rintro ⟨directory, hdirectory, hname, rfl⟩
      exact ⟨directory, hdirectory, (directoryAt?_eq_some.mp hdirectory).2.2, hname, rfl⟩
  · simp [h]

/-- **On a tree, a directory that is made below others is empty**: no file comes to light in it. A
path that leads back up can name a full one that could not be reached before. -/
theorem read?_makeDirectories {name : String} (htree : d.IsTree)
    (hdown : PathStep.up ∉ pathSteps root) (h : d.makeDirectories root = some made)
    (hfile : made.read? root name ≠ some .directory) :
    made.read? root name = d.read? root name := by
  cases hroot : d.directoryAt? root with
  | some place =>
    rw [makeDirectories_of_directoryAt? hroot] at h
    rw [Option.some.inj h]
  | none =>
    have hbefore : d.read? root name = none := by
      simp [read?, placeIn?, hroot]
    rw [hbefore, Option.eq_none_iff_forall_ne_some]
    intro entry hentry
    obtain ⟨place, hplace, hfind⟩ := Option.bind_eq_some_iff.mp hentry
    obtain ⟨-, directory, hdirectory, -, rfl⟩ := placeIn?_eq_some.mp hplace
    rcases grows_makeDirectories h (directory ++ [name]) with hplace | hsame | ⟨-, hnew⟩
    · exact hplace.elim
    · -- what stands there has stood there before, so the way to it was there as well
      have hleads : d.Leads directory := by
        refine htree.leads (htree directory name ?_)
        simp [← hsame, hfind]
      obtain ⟨husable, hfollow, -⟩ := directoryAt?_eq_some.mp hdirectory
      have hthere := (follow?_of_leads hdown hfollow).2 hleads
      rw [directoryAt?_eq_some.mpr ⟨husable, hthere, hleads.self⟩] at hroot
      cases hroot
    · rw [hentry] at hfile
      rw [hfind] at hnew
      exact hfile hnew

end Disk

end ModalConsole
