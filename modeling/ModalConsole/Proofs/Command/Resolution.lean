import ModalConsole.Proofs.Command.Line
import ModalConsole.Proofs.Command.Table

/-!
# What a table answers

A head asks for the last registered command that goes by it. The answer to a line depends on its
first word alone, lower-cased, on the commands and on who asks.

* `LastCalled`: the last command of a list that goes by a name. `lookup_eq_some_iff`,
  `lookup_eq_none_iff`: looking up finds it, or there is none.
* `Answers`: the answer to a name under an identity. `exists_answer`: what a line is answered.
* `Shares`: a command goes by two names, and no later one by just one of them. Such names get the
  same answer (`lookup_congr_of_shares`, `Answers.of_shares`).
* **`answers_by_last_registered`**: all of this, and that positions in the index are in range.
* **`names_lead_apart`**: an alias that a later command takes, and others that heads miss.
-/

namespace ModalConsole.CommandTable

open Text CommandLine

variable {α : Type}

/-! ## Looking up -/

/-- The command is the last of the list that goes by the name. -/
def LastCalled (specs : List (CommandSpec α)) (key : String) (spec : CommandSpec α) : Prop :=
  ∃ earlier later, specs = earlier ++ spec :: later ∧ spec.isCalled key = true ∧
    ∀ other ∈ later, other.isCalled key = false

theorem find?_reverse_eq_some_iff {specs : List (CommandSpec α)} {key : String}
    {spec : CommandSpec α} :
    specs.reverse.find? (·.isCalled key) = some spec ↔ LastCalled specs key spec := by
  rw [List.find?_eq_some_iff_append]
  constructor
  · rintro ⟨hspec, later, earlier, hspecs, hlater⟩
    refine ⟨earlier.reverse, later.reverse, ?_, hspec, fun other hother => ?_⟩
    · rw [← List.reverse_reverse specs, hspecs]
      simp
    · simpa using hlater other (List.mem_reverse.mp hother)
  · rintro ⟨earlier, later, rfl, hspec, hlater⟩
    refine ⟨hspec, later.reverse, earlier.reverse, by simp, fun other hother => ?_⟩
    simpa using hlater other (List.mem_reverse.mp hother)

/-- No two commands are the last that goes by a name. -/
theorem LastCalled.unique {specs : List (CommandSpec α)} {key : String} {spec spec' : CommandSpec α}
    (h : LastCalled specs key spec) (h' : LastCalled specs key spec') : spec = spec' := by
  rw [← find?_reverse_eq_some_iff] at h h'
  exact Option.some.inj (h.symm.trans h')

variable (specs : List (CommandSpec α))

theorem lookup_eq_some_iff (head : String) (spec : CommandSpec α) :
    (ofList specs).lookup head = some spec ↔
      LastCalled specs (lowered (trimmed head)) spec := by
  rw [lookup_ofList, find?_reverse_eq_some_iff]

theorem lookup_eq_none_iff (head : String) :
    (ofList specs).lookup head = none ↔
      ∀ spec ∈ specs, spec.isCalled (lowered (trimmed head)) = false := by
  rw [lookup_ofList, List.find?_eq_none]
  simp

/-! ## Answers -/

/-- The answer to a name under an identity: the last command that goes by the name if the identity
has its privilege, else what it takes, or that there is no such command. -/
inductive Answers (key : String) (identity : Identity) :
    Except CommandError (CommandSpec α) → Prop
  | granted {spec} : LastCalled specs key spec → spec.privilege.rank ≤ identity.rank →
      Answers key identity (.ok spec)
  | denied {spec} : LastCalled specs key spec → identity.rank < spec.privilege.rank →
      Answers key identity (.error (.permissionDenied spec.name spec.privilege))
  | unknown : (∀ spec ∈ specs, spec.isCalled key = false) →
      Answers key identity (.error (.unknown key))

variable {specs}

theorem LastCalled.not_forall {key : String} {spec : CommandSpec α}
    (h : LastCalled specs key spec) : ¬ ∀ spec ∈ specs, spec.isCalled key = false := by
  obtain ⟨earlier, later, rfl, hspec, -⟩ := h
  intro hnone
  rw [hnone spec (List.mem_append_right _ List.mem_cons_self)] at hspec
  cases hspec

theorem Answers.unique {key : String} {identity : Identity}
    {answer answer' : Except CommandError (CommandSpec α)} (h : Answers specs key identity answer)
    (h' : Answers specs key identity answer') : answer = answer' := by
  cases h with
  | granted hlast hrank =>
    cases h' with
    | granted hlast' _ => rw [hlast.unique hlast']
    | denied hlast' hrank' =>
      obtain rfl := hlast.unique hlast'
      exact absurd hrank (Nat.not_le_of_lt hrank')
    | unknown hnone => exact absurd hnone hlast.not_forall
  | denied hlast hrank =>
    cases h' with
    | granted hlast' hrank' =>
      obtain rfl := hlast.unique hlast'
      exact absurd hrank' (Nat.not_le_of_lt hrank)
    | denied hlast' _ => rw [hlast.unique hlast']
    | unknown hnone => exact absurd hnone hlast.not_forall
  | unknown hnone =>
    cases h' with
    | granted hlast' _ => exact absurd hnone hlast'.not_forall
    | denied hlast' _ => exact absurd hnone hlast'.not_forall
    | unknown _ => rfl

variable (specs) in
theorem answers_resolve {line : CommandLine} (hhead : lowered (trimmed line.head) = line.head)
    (identity : Identity) :
    Answers specs line.head identity ((ofList specs).resolve line identity) := by
  unfold resolve
  cases hlookup : (ofList specs).lookup line.head with
  | none =>
    rw [lookup_eq_none_iff, hhead] at hlookup
    exact .unknown hlookup
  | some spec =>
    rw [lookup_eq_some_iff, hhead] at hlookup
    by_cases hrank : identity.rank < spec.privilege.rank
    · simp only [if_pos hrank]
      exact .denied hlookup hrank
    · simp only [if_neg hrank]
      exact .granted hlookup (Nat.le_of_not_lt hrank)

/-- What a table answers to a typed line; a line without a word gets no answer. -/
def answer? (table : CommandTable α) (typed : String) (identity : Identity) :
    Option (Except CommandError (CommandSpec α)) :=
  (parse typed).map (table.resolve · identity)

theorem exists_parse {typed : String} {word : List Char}
    (h : (words typed.toList).head? = some word) :
    ∃ line, parse typed = some line ∧ line.head = String.ofList (lower word) ∧
      lowered (trimmed line.head) = line.head := by
  cases hparse : parse typed with
  | none =>
    rw [parse_eq_none_iff, ← words_eq_nil_iff] at hparse
    rw [hparse] at h
    cases h
  | some line =>
    have hhead := head_of_parse hparse
    rw [h] at hhead
    exact ⟨line, rfl, (Option.some.inj hhead).symm, lowered_trimmed_head hparse⟩

variable (specs) in
/-- A line with a word gets the one answer to its first word, lower-cased. -/
theorem exists_answer {typed : String} {word : List Char}
    (h : (words typed.toList).head? = some word) (identity : Identity) :
    ∃ answer, (ofList specs).answer? typed identity = some answer ∧
      ∀ other, Answers specs (String.ofList (lower word)) identity other ↔ other = answer := by
  obtain ⟨line, hparse, hhead, hsettled⟩ := exists_parse h
  have hanswers := answers_resolve specs hsettled identity
  rw [hhead] at hanswers
  refine ⟨(ofList specs).resolve line identity, by rw [answer?, hparse, Option.map_some],
    fun other => ⟨fun hother => hother.unique hanswers, ?_⟩⟩
  rintro rfl
  exact hanswers

/-- Lines get the same answer if what answers the first word of one answers that of the other. -/
theorem answer?_congr {typed typed' : String} {word word' : List Char} {identity : Identity}
    (hword : (words typed.toList).head? = some word)
    (hword' : (words typed'.toList).head? = some word')
    (h : ∀ answer, Answers specs (String.ofList (lower word)) identity answer →
      Answers specs (String.ofList (lower word')) identity answer) :
    (ofList specs).answer? typed identity = (ofList specs).answer? typed' identity := by
  obtain ⟨answer, hanswer, hunique⟩ := exists_answer specs hword identity
  obtain ⟨answer', hanswer', hunique'⟩ := exists_answer specs hword' identity
  have hsame : answer = answer' := (hunique' answer).mp (h answer ((hunique answer).mpr rfl))
  rw [hanswer, hanswer', hsame]

/-! ## Names of one command -/

/-- A command goes by both names, and every later one by both or by neither. -/
def Shares (specs : List (CommandSpec α)) (key key' : String) : Prop :=
  ∃ earlier spec later, specs = earlier ++ spec :: later ∧ spec.isCalled key = true ∧
    spec.isCalled key' = true ∧ ∀ other ∈ later, other.isCalled key = other.isCalled key'

/-- The last command that goes by one of the names is the last that goes by the other. -/
theorem LastCalled.of_shares {key key' : String} (h : Shares specs key key')
    {last : CommandSpec α} (hlast : LastCalled specs key last) : LastCalled specs key' last := by
  obtain ⟨earlier, spec, later, rfl, hkey, hkey', hlater⟩ := h
  rw [← find?_reverse_eq_some_iff] at hlast ⊢
  have hsame : later.reverse.find? (·.isCalled key) = later.reverse.find? (·.isCalled key') := by
    rw [← List.head?_filter, ← List.head?_filter,
      List.filter_congr fun other hother => hlater other (List.mem_reverse.mp hother)]
  have hscan : (earlier ++ spec :: later).reverse = later.reverse ++ spec :: earlier.reverse := by
    simp
  rw [hscan, List.find?_append, List.find?_cons, hkey, hsame] at hlast
  rw [hscan, List.find?_append, List.find?_cons, hkey']
  exact hlast

theorem Shares.exists_lastCalled {key key' : String} (h : Shares specs key key') :
    ∃ last, LastCalled specs key last := by
  obtain ⟨earlier, spec, later, hspecs, hkey, -, -⟩ := h
  have hsome : (specs.reverse.find? (·.isCalled key)).isSome = true := by
    rw [List.find?_isSome]
    exact ⟨spec, by simp [hspecs], hkey⟩
  obtain ⟨last, hlast⟩ := Option.isSome_iff_exists.mp hsome
  exact ⟨last, find?_reverse_eq_some_iff.mp hlast⟩

theorem lookup_congr_of_shares {head head' : String}
    (h : Shares specs (lowered (trimmed head)) (lowered (trimmed head'))) :
    (ofList specs).lookup head = (ofList specs).lookup head' := by
  obtain ⟨last, hlast⟩ := h.exists_lastCalled
  rw [(lookup_eq_some_iff specs head last).mpr hlast,
    (lookup_eq_some_iff specs head' last).mpr (hlast.of_shares h)]

/-- Names that share a command share its answer: it is known by both of them. -/
theorem Answers.of_shares {key key' : String} (h : Shares specs key key') {identity : Identity}
    {answer : Except CommandError (CommandSpec α)} (hanswer : Answers specs key identity answer) :
    Answers specs key' identity answer := by
  cases hanswer with
  | granted hlast hrank => exact .granted (hlast.of_shares h) hrank
  | denied hlast hrank => exact .denied (hlast.of_shares h) hrank
  | unknown hnone =>
    obtain ⟨last, hlast⟩ := h.exists_lastCalled
    exact absurd hnone hlast.not_forall

/-- **The last registered command answers.** For every sequence of registrations, the index has
positions of the table only, and looking a head up finds the last command one of whose names,
lower-cased, is the head, trimmed and lower-cased; or nothing, if no command goes by it. Every line
with a word is answered by that command if the identity has its privilege, by a refusal with the
command's own name and privilege if not, and as unknown if there is no such command. So heads that
agree when they are lower-cased get the same answer, and so do two heads that name one command,
unless a later command goes by one of them and not by the other. -/
theorem answers_by_last_registered (specs : List (CommandSpec α)) :
    (∀ key i, (ofList specs).index.lookup key = some i → i < (ofList specs).specs.length) ∧
    (∀ head spec, (ofList specs).lookup head = some spec ↔
      LastCalled specs (lowered (trimmed head)) spec) ∧
    (∀ head, (ofList specs).lookup head = none ↔
      ∀ spec ∈ specs, spec.isCalled (lowered (trimmed head)) = false) ∧
    (∀ typed word, (words typed.toList).head? = some word → ∀ identity, ∃ answer,
      (ofList specs).answer? typed identity = some answer ∧
        ∀ other, Answers specs (String.ofList (lower word)) identity other ↔ other = answer) ∧
    (∀ head head', lowered (trimmed head) = lowered (trimmed head') →
      (ofList specs).lookup head = (ofList specs).lookup head') ∧
    (∀ typed typed' word word', (words typed.toList).head? = some word →
      (words typed'.toList).head? = some word' → lower word = lower word' → ∀ identity,
        (ofList specs).answer? typed identity = (ofList specs).answer? typed' identity) ∧
    (∀ head head', Shares specs (lowered (trimmed head)) (lowered (trimmed head')) →
      (ofList specs).lookup head = (ofList specs).lookup head') ∧
    ∀ typed typed' word word', (words typed.toList).head? = some word →
      (words typed'.toList).head? = some word' →
      Shares specs (String.ofList (lower word)) (String.ofList (lower word')) → ∀ identity,
        (ofList specs).answer? typed identity = (ofList specs).answer? typed' identity := by
  refine ⟨(indexed_foldl specs empty indexed_empty).1.bound, lookup_eq_some_iff specs,
    lookup_eq_none_iff specs, fun _ _ => exists_answer specs, fun head head' hkey => ?_,
    fun typed typed' word word' hword hword' hkey identity => ?_,
    fun _ _ => lookup_congr_of_shares, fun typed typed' word word' hword hword' h identity => ?_⟩
  · rw [lookup_ofList, lookup_ofList, hkey]
  · refine answer?_congr hword hword' fun answer hanswer => ?_
    rwa [← hkey]
  · exact answer?_congr hword hword' fun answer hanswer => hanswer.of_shares h

/-- The first command is hidden by an alias of the second, whose name and privilege the refusal
gives. -/
theorem answers_by_last_registered_denied :
    let specs : List (CommandSpec Nat) := [{ name := "halt", action := 0 },
      { name := "Stop", aliases := ["HALT"], privilege := .root, action := 1 }]
    (words "Halt now".toList).head? = some "Halt".toList ∧
      (ofList specs).answer? "Halt now" .user = some (.error (.permissionDenied "Stop" .root)) := by
  intro specs
  have hword : (words "Halt now".toList).head? = some "Halt".toList := by decide +kernel
  obtain ⟨-, -, -, hanswer, -⟩ := answers_by_last_registered specs
  obtain ⟨answer, hline, hunique⟩ := hanswer "Halt now" _ hword .user
  have hlast : LastCalled specs (String.ofList (lower "Halt".toList))
      { name := "Stop", aliases := ["HALT"], privilege := .root, action := 1 } :=
    ⟨[{ name := "halt", action := 0 }], [], rfl, by decide +kernel, by simp⟩
  refine ⟨hword, hline.trans (congrArg some ?_)⟩
  exact ((hunique _).mp (.denied hlast (by decide))).symm

/-- **Names of one command that lead apart.** An alias that a later command takes leads to that one,
and an alias with a blank in front leads nowhere, since heads are trimmed. An alias in capitals is
found by its lower-case form, which ends in a final sigma, and not by the same letters without
one. -/
theorem names_lead_apart :
    let halt : CommandSpec Nat :=
      { name := "halt", aliases := ["stop", " end", "ΤΕΛΟΣ"], action := 0 }
    let table := ofList [halt, { name := "stop", action := 1 }]
    (table.lookup halt.name).map (·.action) = some 0 ∧
      "stop" ∈ halt.aliases ∧ (table.lookup "stop").map (·.action) = some 1 ∧
      " end" ∈ halt.aliases ∧ (table.lookup " end").map (·.action) = none ∧
      "ΤΕΛΟΣ" ∈ halt.aliases ∧ (table.lookup "ΤΕΛΟΣ").map (·.action) = some 0 ∧
      (table.lookup "τελοσ").map (·.action) = none := by
  decide +kernel

end ModalConsole.CommandTable
