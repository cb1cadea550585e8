import ModalConsole.Proofs.Command.Line

/-!
# How a command line is laid out

A text that is not blank is, in this order: blanks, its first word, blanks, a tail and line ends.
The tail neither begins with a blank nor ends with a line end, so there is one way only to read it.

* `Layout`: a text laid out like that. `exists_layout`: every text with a character that is not
  blank is. `Layout.words_eq`: its words are the first word and those of the tail.
* `parseChars_eq_some_iff`: reading a text takes the layout apart, and `Layout.again` is the layout
  of the head, a blank and the tail.
* `Interleaves`: the words behind the head are dealt out to the arguments and the flags in order.
* **`parse_follows_layout`**: what a line is read as, and that reading it again changes nothing.
-/

namespace ModalConsole.CommandLine

open Text

theorem isBlank_of_isLineEnd {c : Char} (h : isLineEnd c = true) : isBlank c = true := by
  simp only [isLineEnd, Bool.or_eq_true, beq_iff_eq] at h
  rcases h with rfl | rfl <;> decide

/-! ## Layouts -/

/-- A text that consists of blanks, its first word, blanks, a tail and line ends. -/
structure Layout (text : List Char) where
  before : List Char
  word : List Char
  gap : List Char
  tail : List Char
  ends : List Char
  text_eq : text = before ++ (word ++ (gap ++ (tail ++ ends)))
  blank_before : ∀ c ∈ before, isBlank c = true
  word_ne_nil : word ≠ []
  solid_word : ∀ c ∈ word, isBlank c = false
  blank_gap : ∀ c ∈ gap, isBlank c = true
  gap_ne_nil : tail ≠ [] → gap ≠ []
  head_tail : ∀ c, tail.head? = some c → isBlank c = false
  last_tail : ∀ c, tail.getLast? = some c → isLineEnd c = false
  lineEnd_ends : ∀ c ∈ ends, isLineEnd c = true

namespace Layout

variable {text : List Char} (l : Layout text)

theorem blank_ends : ∀ c ∈ l.ends, isBlank c = true :=
  fun c hc => isBlank_of_isLineEnd (l.lineEnd_ends c hc)

/-- The first word ends at a blank or with the text. -/
theorem head_rest : ∀ c, (l.gap ++ (l.tail ++ l.ends)).head? = some c → isBlank c = true := by
  intro c hc
  by_cases hgap : l.gap = []
  · have htail : l.tail = [] := by
      by_contra htail
      exact l.gap_ne_nil htail hgap
    rw [hgap, htail] at hc
    exact l.blank_ends c (List.mem_of_head? hc)
  · rw [List.head?_append, List.head?_eq_some_head hgap, Option.some_or] at hc
    exact l.blank_gap c (Option.some.inj hc ▸ List.head_mem hgap)

theorem head_word_append (rest : List Char) :
    ∀ c, (l.word ++ rest).head? = some c → isBlank c = false := by
  intro c hc
  rw [List.head?_append, List.head?_eq_some_head l.word_ne_nil, Option.some_or] at hc
  exact l.solid_word c (Option.some.inj hc ▸ List.head_mem l.word_ne_nil)

theorem trimStart_text : trimStart text = l.word ++ (l.gap ++ (l.tail ++ l.ends)) :=
  calc trimStart text
    _ = trimStart (l.before ++ (l.word ++ (l.gap ++ (l.tail ++ l.ends)))) :=
      congrArg trimStart l.text_eq
    _ = trimStart (l.word ++ (l.gap ++ (l.tail ++ l.ends))) :=
      trimStart_append_of_blank l.blank_before _
    _ = l.word ++ (l.gap ++ (l.tail ++ l.ends)) := trimStart_of_head? (l.head_word_append _)

/-- Trimming what follows the first word leaves the tail. -/
theorem tailOf_rest : tailOf (l.gap ++ (l.tail ++ l.ends)) = l.tail := by
  rw [tailOf, trimStart_append_of_blank l.blank_gap]
  cases htail : l.tail with
  | nil =>
    have hends : trimStart l.ends = [] := List.dropWhile_eq_nil_iff.mpr l.blank_ends
    rw [List.nil_append, hends]
    rfl
  | cons c rest =>
    have hstart : trimStart (c :: rest ++ l.ends) = c :: rest ++ l.ends :=
      trimStart_of_head? fun d hd => l.head_tail d (by rw [htail]; exact hd)
    rw [hstart, dropEndWhile_append l.lineEnd_ends]
    exact dropEndWhile_of_getLast? fun d hd => l.last_tail d (by rw [htail]; exact hd)

/-- The words of the text are the first word and the words of the tail. -/
theorem words_eq : words text = l.word :: words l.tail := by
  rw [← words_trimStart, l.trimStart_text,
    words_append_of_solid l.solid_word l.head_rest l.word_ne_nil, ← words_trimStart,
    trimStart_append_of_blank l.blank_gap, words_trimStart, words_append_blanks _ l.blank_ends]

theorem parseChars_eq : parseChars text = some (ofParts l.word l.tail) := by
  have htake := takeWhile_solid_append l.solid_word l.head_rest
  have hdrop := dropWhile_solid_append l.solid_word l.head_rest
  have hword : l.word.isEmpty = false := by
    rw [List.isEmpty_eq_false_iff]
    exact l.word_ne_nil
  simp only [parseChars, l.trimStart_text, htake, hdrop, l.tailOf_rest, hword, Bool.false_eq_true,
    if_false]

/-- The layout of the head, a blank and the tail. -/
def again : Layout (lower l.word ++ ' ' :: l.tail) where
  before := []
  word := lower l.word
  gap := [' ']
  tail := l.tail
  ends := []
  text_eq := by rw [List.append_nil]; rfl
  blank_before := by simp
  word_ne_nil := lowerFrom_ne_nil l.word_ne_nil []
  solid_word := fun _ => isBlank_of_mem_lower l.solid_word
  blank_gap := List.forall_mem_singleton.mpr (by decide)
  gap_ne_nil := fun _ => List.cons_ne_nil _ _
  head_tail := l.head_tail
  last_tail := l.last_tail
  lineEnd_ends := by simp

theorem parseChars_again :
    parseChars (lower l.word ++ ' ' :: l.tail) = some (ofParts l.word l.tail) := by
  rw [l.again.parseChars_eq]
  simp only [again, ofParts, lower_lower]

end Layout

/-- A text that is not blank has a layout. -/
theorem exists_layout {text : List Char} (h : ¬ ∀ c ∈ text, isBlank c = true) :
    Nonempty (Layout text) := by
  let word := (trimStart text).takeWhile (!isBlank ·)
  let rest := (trimStart text).dropWhile (!isBlank ·)
  obtain ⟨ends, hends, hlineEnd⟩ := exists_eq_dropEndWhile_append isLineEnd (trimStart rest)
  have htail : trimStart rest = tailOf rest ++ ends := hends
  have hrest : rest.takeWhile isBlank ++ trimStart rest = rest := List.takeWhile_append_dropWhile
  have htext : text.takeWhile isBlank ++ (word ++ rest) = text := by
    rw [List.takeWhile_append_dropWhile]
    exact List.takeWhile_append_dropWhile
  have hword : word ≠ [] := by
    intro hnil
    have hnone : (words text).head? = none := by
      rw [words_head?]
      exact if_pos (List.isEmpty_iff.mpr hnil)
    exact h ((words_eq_nil_iff text).mp (List.head?_eq_none_iff.mp hnone))
  have hgap : tailOf rest ≠ [] → rest.takeWhile isBlank ≠ [] := by
    -- Without a blank behind the word, the word is all there is.
    intro hne hnil
    have hblank := List.head?_dropWhile_not (!isBlank ·) (trimStart text)
    cases hcons : rest with
    | nil =>
      rw [hcons] at hne
      exact hne rfl
    | cons c more =>
      rw [show (trimStart text).dropWhile (!isBlank ·) = c :: more from hcons] at hblank
      rw [hcons, List.takeWhile_cons_of_pos (by simpa using hblank)] at hnil
      cases hnil
  have hhead : ∀ c, (tailOf rest).head? = some c → isBlank c = false := by
    intro c hc
    have hstart : (trimStart rest).head? = some c := by
      rw [htail, List.head?_append, hc, Option.some_or]
    exact solid_of_head?_trimStart hstart
  exact ⟨{
    before := text.takeWhile isBlank
    word := word
    gap := rest.takeWhile isBlank
    tail := tailOf rest
    ends := ends
    text_eq := by rw [← htail, hrest, htext]
    blank_before := fun c hc => List.mem_takeWhile_imp hc
    word_ne_nil := hword
    solid_word := fun c hc => by simpa using List.mem_takeWhile_imp hc
    blank_gap := fun c hc => List.mem_takeWhile_imp hc
    gap_ne_nil := hgap
    head_tail := hhead
    last_tail := fun c hc => not_of_getLast?_dropEndWhile hc
    lineEnd_ends := hlineEnd }⟩

/-- What a text is read as: its layout, taken apart. -/
theorem parseChars_eq_some_iff {text : List Char} {line : CommandLine} :
    parseChars text = some line ↔ ∃ l : Layout text, line = ofParts l.word l.tail := by
  constructor
  · intro h
    have hsolid : ¬ ∀ c ∈ text, isBlank c = true := by
      intro hblank
      have hstart : trimStart text = [] := List.dropWhile_eq_nil_iff.mpr hblank
      simp [parseChars, hstart] at h
    obtain ⟨l⟩ := exists_layout hsolid
    rw [l.parseChars_eq] at h
    exact ⟨l, (Option.some.inj h).symm⟩
  · rintro ⟨l, rfl⟩
    exact l.parseChars_eq

/-! ## Arguments and flags -/

/-- The words, in their order, are the arguments, as they stand, and the flags, each of which goes
by its name. -/
inductive Interleaves : List (List Char) → List String → List String → Prop
  | nil : Interleaves [] [] []
  | arg {word words args flags} : isFlag word = false → Interleaves words args flags →
      Interleaves (word :: words) (String.ofList word :: args) flags
  | flag {word words args flags} : isFlag word = true → Interleaves words args flags →
      Interleaves (word :: words) args (String.ofList (flagName word) :: flags)

theorem interleaves_filter (ws : List (List Char)) :
    Interleaves ws ((ws.filter (!isFlag ·)).map String.ofList)
      ((ws.filter isFlag).map (String.ofList <| flagName ·)) := by
  induction ws with
  | nil => exact .nil
  | cons word ws ih =>
    by_cases hflag : isFlag word = true
    · rw [List.filter_cons_of_neg (by simp [hflag]), List.filter_cons_of_pos hflag]
      exact .flag hflag ih
    · rw [List.filter_cons_of_pos (by simp [hflag]), List.filter_cons_of_neg hflag]
      exact .arg (by simpa using hflag) ih

/-- The words leave no choice. -/
theorem Interleaves.unique {ws : List (List Char)} {args flags args' flags' : List String}
    (h : Interleaves ws args flags) (h' : Interleaves ws args' flags') :
    args = args' ∧ flags = flags' := by
  induction h generalizing args' flags' with
  | nil =>
    cases h'
    exact ⟨rfl, rfl⟩
  | arg hword _ ih =>
    cases h' with
    | arg _ h' =>
      obtain ⟨rfl, rfl⟩ := ih h'
      exact ⟨rfl, rfl⟩
    | flag hword' _ =>
      rw [hword] at hword'
      cases hword'
  | flag hword _ ih =>
    cases h' with
    | arg hword' _ =>
      rw [hword] at hword'
      cases hword'
    | flag _ h' =>
      obtain ⟨rfl, rfl⟩ := ih h'
      exact ⟨rfl, rfl⟩

theorem interleaves_ofParts (word tail : List Char) :
    Interleaves (words tail) (ofParts word tail).args (ofParts word tail).flags :=
  interleaves_filter (words tail)

/-- **What a line is read as.** A line is no command line iff it consists of blanks. Else it is
blanks, a word, blanks, a tail that neither begins with a blank nor ends with a line end, and line
ends; its head is the word, lower-cased, its tail is that tail, and its arguments and flags are the
words behind the first one, in their order, none lost and none repeated. It is read as nothing else,
and the head, a blank and the tail are read as the same command line again. -/
theorem parse_follows_layout (typed : String) :
    (parse typed = none ↔ ∀ c ∈ typed.toList, isBlank c = true) ∧
    (∀ line, parse typed = some line ↔ ∃ (l : Layout typed.toList) (others : List (List Char)),
      line.head = String.ofList (lower l.word) ∧ line.tail = String.ofList l.tail ∧
        words typed.toList = l.word :: others ∧ Interleaves others line.args line.flags) ∧
    ∀ line, parse typed = some line → parse (line.head ++ " " ++ line.tail) = some line := by
  refine ⟨parse_eq_none_iff typed, fun line => ⟨fun h => ?_, ?_⟩, fun line h => ?_⟩
  · obtain ⟨l, rfl⟩ := parseChars_eq_some_iff.mp h
    exact ⟨l, words l.tail, rfl, rfl, l.words_eq, interleaves_ofParts l.word l.tail⟩
  · rintro ⟨l, others, hhead, htail, hwords, hothers⟩
    obtain rfl : words l.tail = others := (List.cons.inj (l.words_eq.symm.trans hwords)).2
    obtain ⟨hargs, hflags⟩ := hothers.unique (interleaves_ofParts l.word l.tail)
    refine parseChars_eq_some_iff.mpr ⟨l, ?_⟩
    cases line
    simp only at hhead htail hargs hflags
    rw [hhead, htail, hargs, hflags]
    rfl
  · obtain ⟨l, rfl⟩ := parseChars_eq_some_iff.mp h
    have htext : (String.ofList (lower l.word) ++ " " ++ String.ofList l.tail).toList =
        lower l.word ++ ' ' :: l.tail := by
      simp
    rw [parse, ofParts, htext]
    exact l.parseChars_again

/-- A line with every part: the tail keeps its inner blanks and the blank before the line end. -/
theorem parse_follows_layout_echo :
    let line : CommandLine := ⟨"echo", ["Hi", "--", "you"], ["loud"], "Hi  -- --LOUD you "⟩
    parse "\t ECHO  Hi  -- --LOUD you \r\n" = some line ∧
      parse (line.head ++ " " ++ line.tail) = some line := by
  intro line
  have hread : parse "\t ECHO  Hi  -- --LOUD you \r\n" = some line := by decide +kernel
  exact ⟨hread, (parse_follows_layout _).2.2 line hread⟩

end ModalConsole.CommandLine
