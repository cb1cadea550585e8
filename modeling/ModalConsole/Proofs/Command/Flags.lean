import ModalConsole.Proofs.Command.Layout

/-!
# Words of dashes

A word is a flag by its first three characters, and the name of the flag is what follows all of its
leading dashes. The two rules part on words of dashes alone: one or two dashes are an argument,
three or more are a flag, and nothing is left to name it.

* `isFlag_of_onlyDashes`, `flagName_eq_nil_iff`: both rules on such words.
* **`flags_named_but_for_dashes`**: no flag begins with a dash, and those without a name are the
  words of three dashes or more.
* **`three_dashes_are_a_flag`**: such a word is no argument.
-/

namespace ModalConsole.CommandLine

open Text

/-- Does the word consist of dashes? -/
def onlyDashes (word : List Char) : Bool := word.all (· == '-')

theorem onlyDashes_iff (word : List Char) :
    onlyDashes word = true ↔ word = List.replicate word.length '-' := by
  simp [onlyDashes, List.eq_replicate_iff]

/-- Words of dashes are flags from three dashes on. -/
theorem isFlag_of_onlyDashes {word : List Char} (h : onlyDashes word = true) :
    isFlag word = decide (3 ≤ word.length) := by
  rw [onlyDashes_iff] at h
  rw [h, List.length_replicate]
  match word.length with
  | 0 | 1 | 2 => rfl
  | n + 3 => simp [List.replicate_succ, isFlag]

theorem flagName_eq_nil_iff (word : List Char) :
    flagName word = [] ↔ onlyDashes word = true := by
  have hdrop : word.dropWhile (· == '-') = [] ↔ onlyDashes word = true := by
    rw [List.dropWhile_eq_nil_iff, onlyDashes, List.all_eq_true]
  rw [← hdrop, flagName]
  constructor
  · intro hlower
    by_contra hne
    exact lowerFrom_ne_nil hne [] hlower
  · intro hnil
    rw [hnil]
    rfl

/-- The name of a flag begins with no dash. -/
theorem head?_flagName_ne_dash (word : List Char) : (flagName word).head? ≠ some '-' := by
  refine head?_lower_ne_dash fun hdash => ?_
  have hnot := List.head?_dropWhile_not (· == '-') word
  rw [hdash] at hnot
  cases hnot

/-! ## On a command line -/

/-- The arguments that consist of dashes are the words of one or two. -/
theorem filter_onlyDashes_args (word tail : List Char) :
    (ofParts word tail).args.filter (onlyDashes ·.toList) =
      ((words tail).filter fun word =>
        onlyDashes word && decide (word.length ≤ 2)).map String.ofList := by
  rw [ofParts, List.filter_map, List.filter_filter]
  refine congrArg (List.map String.ofList) (List.filter_congr fun word _ => ?_)
  simp only [Function.comp, String.toList_ofList]
  by_cases hdashes : onlyDashes word = true
  · rw [hdashes, isFlag_of_onlyDashes hdashes, Bool.true_and, Bool.true_and, ← decide_not]
    exact decide_eq_decide.mpr (by omega)
  · rw [Bool.not_eq_true] at hdashes
    rw [hdashes, Bool.false_and, Bool.false_and]

/-- The flags without a name are the words of three dashes or more. -/
theorem count_nameless_flags (word tail : List Char) :
    (ofParts word tail).flags.count "" =
      (words tail).countP (fun word => onlyDashes word && decide (3 ≤ word.length)) := by
  rw [ofParts, List.count, List.countP_map, List.countP_filter]
  refine List.countP_congr fun word _ => ?_
  have hname : (String.ofList (flagName word) == "") = onlyDashes word := by
    rw [Bool.eq_iff_iff, ← flagName_eq_nil_iff, beq_iff_eq, ← String.ofList_nil]
    exact String.ofList_inj
  simp only [Function.comp, hname]
  by_cases hdashes : onlyDashes word = true
  · rw [hdashes, isFlag_of_onlyDashes hdashes]
  · rw [Bool.not_eq_true] at hdashes
    rw [hdashes, Bool.false_and, Bool.false_and]

/-- **Flags are named but for words of dashes.** On every command line no flag begins with a dash.
Of the words behind the head that consist of dashes, those of one or two dashes are arguments, in
their order, and those of three or more are flags: they are the flags without a name. So all flags
have a name iff no word behind the head consists of three dashes or more. -/
theorem flags_named_but_for_dashes (typed : String) (line : CommandLine)
    (h : parse typed = some line) :
    (∀ flag ∈ line.flags, flag.toList.head? ≠ some '-') ∧
    line.args.filter (onlyDashes ·.toList) =
      ((words typed.toList).tail.filter fun word =>
        onlyDashes word && decide (word.length ≤ 2)).map String.ofList ∧
    line.flags.count "" =
      (words typed.toList).tail.countP (fun word => onlyDashes word && decide (3 ≤ word.length)) ∧
    ((∀ flag ∈ line.flags, flag ≠ "") ↔
      ∀ word ∈ (words typed.toList).tail, onlyDashes word = true → word.length ≤ 2) := by
  obtain ⟨l, rfl⟩ := parseChars_eq_some_iff.mp h
  have hcount := count_nameless_flags l.word l.tail
  rw [l.words_eq, List.tail_cons]
  refine ⟨?_, filter_onlyDashes_args l.word l.tail, hcount, ?_⟩
  · intro flag hflag
    obtain ⟨word, -, rfl⟩ := List.mem_map.mp hflag
    rw [String.toList_ofList]
    exact head?_flagName_ne_dash word
  · have hnamed : (∀ flag ∈ (ofParts l.word l.tail).flags, flag ≠ "") ↔
        (ofParts l.word l.tail).flags.count "" = 0 := by
      rw [List.count_eq_zero]
      exact ⟨fun hne hmem => hne "" hmem rfl, fun hmem flag hflag hempty => hmem (hempty ▸ hflag)⟩
    rw [hnamed, hcount, List.countP_eq_zero]
    refine forall₂_congr fun word _ => ?_
    simp only [Bool.and_eq_true, decide_eq_true_eq, not_and, not_le]
    exact imp_congr_right fun _ => Nat.lt_succ_iff

/-- Words of one to five dashes behind a head that is one itself. -/
theorem flags_named_but_for_dashes_five :
    let line : CommandLine :=
      ⟨"---", ["-", "--"], ["", "loud", "", ""], "- -- --- ---LOUD ---- -----"⟩
    parse "--- - -- --- ---LOUD ---- -----" = some line ∧
      line.args.filter (onlyDashes ·.toList) = ["-", "--"] ∧ line.flags.count "" = 3 := by
  intro line
  have hread : parse "--- - -- --- ---LOUD ---- -----" = some line := by decide +kernel
  obtain ⟨-, hargs, hcount, -⟩ := flags_named_but_for_dashes _ line hread
  exact ⟨hread, hargs.trans (by decide), hcount.trans (by decide)⟩

/-- **Three dashes are a flag.** They are lost as an argument, and the flag has no name. -/
theorem three_dashes_are_a_flag :
    let line : CommandLine := ⟨"echo", [], [""], "---"⟩
    parse "echo ---" = some line ∧ words "echo ---".toList = ["echo".toList, "---".toList] ∧
      onlyDashes "---".toList = true ∧ "---" ∉ line.args ∧ "" ∈ line.flags := by
  decide

end ModalConsole.CommandLine
