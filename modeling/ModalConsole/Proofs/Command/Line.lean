import ModalConsole.Command.Line
import ModalConsole.Proofs.Text.LetterCase
import ModalConsole.Proofs.Text.Words

/-!
# The heads of command lines

* `parse_eq_none_iff`: only a line of blanks is no command line.
* `head_of_parse`: the head of a command line is its first word, lower-cased.
* **`lowered_trimmed_head`**: a head is already in the form in which names are compared.
-/

namespace ModalConsole.CommandLine

open Text

theorem parse_eq_some {typed : String} {line : CommandLine} (h : parse typed = some line) :
    ∃ word tail, (words typed.toList).head? = some word ∧ line = ofParts word tail ∧
      ∀ c ∈ word, isBlank c = false := by
  unfold parse parseChars at h
  simp only at h
  split at h
  · exact absurd h (by simp)
  · rename_i hword
    refine ⟨_, _, ?_, (Option.some.inj h).symm, fun c hc => ?_⟩
    · rw [words_head?]
      exact if_neg hword
    · simpa using List.mem_takeWhile_imp hc

theorem parse_eq_none_iff (typed : String) :
    parse typed = none ↔ ∀ c ∈ typed.toList, isBlank c = true := by
  rw [← words_eq_nil_iff, ← List.head?_eq_none_iff, words_head?]
  unfold parse parseChars
  simp

/-- The head of a command line is its first word, lower-cased. -/
theorem head_of_parse {typed : String} {line : CommandLine} (h : parse typed = some line) :
    (words typed.toList).head?.map (fun word => String.ofList (lower word)) = some line.head := by
  obtain ⟨word, tail, hword, rfl, -⟩ := parse_eq_some h
  rw [hword]
  rfl

/-- A head has no blanks, and lower-casing it again does not change it. -/
theorem lowered_trimmed_head {typed : String} {line : CommandLine} (h : parse typed = some line) :
    lowered (trimmed line.head) = line.head := by
  obtain ⟨word, tail, -, rfl, hsolid⟩ := parse_eq_some h
  have hlower : ∀ c ∈ lower word, isBlank c = false := fun _ => isBlank_of_mem_lower hsolid
  simp only [lowered, trimmed, ofParts, String.toList_ofList, trim_of_solid hlower, lower_lower]

end ModalConsole.CommandLine
