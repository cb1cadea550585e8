import ModalConsole.Proofs.Command.Line
import ModalConsole.Proofs.Command.Table
import ModalConsole.Session.Shell

/-!
# Which line runs which command

* **`runs_iff`**: a command line runs a command of the shell iff its head is one of the names of
  the command and the identity has the privilege that it takes. `runs_power_iff`: the commands that
  ask the power supply for something take root.
* `commandOf_eq_some_iff`, `commandOf_eq_none_iff`: which lines are command lines at all.
  `commandOf_head_iff`: with which head.
  `Session.Types`: a session reads a command line.
-/

namespace ModalConsole

open Text

theorem Identity.rank_le_root (i : Identity) : i.rank ≤ root.rank := by
  cases i <;> decide

theorem Identity.root_rank_le_iff {i : Identity} : root.rank ≤ i.rank ↔ i = root := by
  cases i <;> decide

namespace Builtin

/-- What a command asks the power supply for. -/
def power : Builtin → Option PowerAction
  | shutdown => some .shutdown
  | reboot => some .reboot
  | _ => none

/-- The least identity that may run a command: only the power supply takes root. -/
def privilege (b : Builtin) : Identity := if b.power.isSome then .root else .nobody

/-- The names that a command goes by. -/
def names (b : Builtin) : List String := (specs.filter (·.action = b)).flatMap CommandSpec.names

/-- The names are lower-cased, and no name leads to two commands. -/
theorem specs_named : ∀ spec ∈ specs, spec.names.map lowered = spec.names ∧
    spec.privilege = spec.action.privilege ∧
    ∀ name ∈ spec.names, (specs.reverse.find? (·.isCalled name)).map (·.action) =
      some spec.action := by
  decide +kernel

theorem mem_names_iff {b : Builtin} {name : String} :
    name ∈ b.names ↔ ∃ spec ∈ specs, spec.action = b ∧ name ∈ spec.names := by
  simp only [names, List.mem_flatMap, List.mem_filter, decide_eq_true_eq, and_assoc]

end Builtin

/-- Does the line run the command, typed by the identity? -/
def CommandLine.Runs (line : CommandLine) (current : Identity) (b : Builtin) : Prop :=
  ∃ spec, Builtin.table.resolve line current = .ok spec ∧ spec.action = b

namespace CommandLine

variable {typed : String} {line : CommandLine} {current : Identity} {b : Builtin}

theorem resolve_eq_ok_iff {spec : CommandSpec Builtin} (h : parse typed = some line) :
    Builtin.table.resolve line current = .ok spec ↔
      Builtin.specs.reverse.find? (·.isCalled line.head) = some spec ∧
        spec.privilege.rank ≤ current.rank := by
  unfold CommandTable.resolve Builtin.table
  rw [CommandTable.lookup_ofList, lowered_trimmed_head h]
  cases Builtin.specs.reverse.find? (·.isCalled line.head) with
  | none => simp
  | some found =>
    simp only [Option.some.injEq]
    split
    · simp only [reduceCtorEq, false_iff, not_and]
      rintro rfl
      omega
    · simp only [Except.ok.injEq, iff_self_and]
      rintro rfl
      omega

/-- **The head of a line and the identity decide which command it runs.** -/
theorem runs_iff (h : parse typed = some line) :
    line.Runs current b ↔ line.head ∈ b.names ∧ b.privilege.rank ≤ current.rank := by
  rw [Builtin.mem_names_iff]
  constructor
  · rintro ⟨spec, hspec, rfl⟩
    obtain ⟨hfind, hrank⟩ := (resolve_eq_ok_iff h).mp hspec
    have hmem : spec ∈ Builtin.specs := List.mem_reverse.mp (List.mem_of_find?_eq_some hfind)
    obtain ⟨hlower, hprivilege, -⟩ := Builtin.specs_named spec hmem
    have hcalled := List.find?_some hfind
    rw [CommandSpec.isCalled, hlower, List.contains_iff_mem] at hcalled
    exact ⟨⟨spec, hmem, rfl, hcalled⟩, hprivilege ▸ hrank⟩
  · rintro ⟨⟨spec, hmem, rfl, hname⟩, hrank⟩
    obtain ⟨-, -, hfind⟩ := Builtin.specs_named spec hmem
    obtain ⟨found, hfound, haction⟩ := Option.map_eq_some_iff.mp (hfind line.head hname)
    refine ⟨found, (resolve_eq_ok_iff h).mpr ⟨hfound, ?_⟩, haction⟩
    have hmem' := List.mem_reverse.mp (List.mem_of_find?_eq_some hfound)
    rwa [(Builtin.specs_named found hmem').2.1, haction]

theorem Runs.unique {b' : Builtin} (h : line.Runs current b) (h' : line.Runs current b') :
    b = b' := by
  obtain ⟨spec, hspec, rfl⟩ := h
  obtain ⟨spec', hspec', rfl⟩ := h'
  rw [hspec] at hspec'
  rw [Except.ok.inj hspec']

/-- Root may run every command. -/
theorem Runs.root (hparse : parse typed = some line) (h : line.Runs current b) :
    line.Runs .root b := by
  rw [runs_iff hparse] at h ⊢
  exact ⟨h.1, Identity.rank_le_root _⟩

/-- **Only root runs the commands that ask the power supply for something.** -/
theorem runs_power_iff {action : PowerAction} (h : parse typed = some line)
    (hpower : b.power = some action) :
    line.Runs current b ↔ line.head ∈ b.names ∧ current = .root := by
  have hprivilege : b.privilege = .root := by
    unfold Builtin.privilege
    rw [hpower]
    rfl
  rw [runs_iff h, hprivilege, Identity.root_rank_le_iff]

end CommandLine

namespace Session

/-! ## Typed lines -/

/-- Does the answer to a read, in the given mode, have the session run the command line? -/
def Types (s : Session) (mode : Mode) (answer : Option Input) (line : CommandLine) : Prop :=
  s.mode = mode ∧ ∃ typed, answer = some (.line typed) ∧ commandOf typed = some line

theorem commandOf_eq_some_iff {typed : String} {line : CommandLine} :
    commandOf typed = some line ↔
      typed.toList.head? ≠ some ' ' ∧ CommandLine.parse typed = some line := by
  unfold commandOf
  split
  · simp [*]
  · simp [*]

theorem commandOf_eq_none_iff {typed : String} :
    commandOf typed = none ↔
      typed.toList.head? = some ' ' ∨ ∀ c ∈ typed.toList, isBlank c = true := by
  unfold commandOf
  rw [← CommandLine.parse_eq_none_iff]
  split
  · simp [*]
  · simp [*]

section Head

variable {typed : String} {line : CommandLine} {current : Identity} {b : Builtin}

theorem head_of_runs (hline : commandOf typed = some line) (h : line.Runs current b) :
    line.head ∈ b.names :=
  ((CommandLine.runs_iff (commandOf_eq_some_iff.mp hline).2).mp h).1

theorem head_eq_of_runs {name : String} (hline : commandOf typed = some line)
    (h : line.Runs current b) (hnames : b.names = [name]) : line.head = name := by
  have hhead := head_of_runs hline h
  rwa [hnames, List.mem_singleton] at hhead

end Head

/-- The head of a command line is the first word, lower-cased, of a line that begins with no
space. -/
theorem commandOf_head_iff {typed head : String} :
    (∃ line, commandOf typed = some line ∧ line.head = head) ↔
      typed.toList.head? ≠ some ' ' ∧
        ∃ word rest, words typed.toList = word :: rest ∧ String.ofList (lower word) = head := by
  constructor
  · rintro ⟨line, hline, rfl⟩
    obtain ⟨hspace, hparse⟩ := commandOf_eq_some_iff.mp hline
    obtain ⟨word, hword, hhead⟩ := Option.map_eq_some_iff.mp (CommandLine.head_of_parse hparse)
    obtain ⟨rest, hrest⟩ := List.head?_eq_some_iff.mp hword
    exact ⟨hspace, word, rest, hrest, hhead⟩
  · rintro ⟨hspace, word, rest, hwords, rfl⟩
    rcases hparse : CommandLine.parse typed with _ | line
    · rw [CommandLine.parse_eq_none_iff, ← words_eq_nil_iff, hwords] at hparse
      cases hparse
    · refine ⟨line, commandOf_eq_some_iff.mpr ⟨hspace, hparse⟩, ?_⟩
      have hhead := CommandLine.head_of_parse hparse
      rw [hwords] at hhead
      exact (Option.some.inj hhead).symm

end Session

end ModalConsole
