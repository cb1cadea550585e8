import Mathlib.Data.List.GetD
import Mathlib.Data.List.Infix
import Mathlib.Logic.Function.Basic
import ModalConsole.Proofs.Host.Presses

/-!
# What stands on the line that is typed

A line editor keeps its buffer to itself and writes echoes to the screen. On a line where a
character fills one cell and backspace goes back by one, the echoes keep what is shown equal to the
buffer.

* `ScreenLine.put`, `ScreenLine.print`: what characters do to a line of the screen.
* `ScreenLine.withText`: the line with a text behind its cursor. `put_withText`, `erase_withText`:
  one more character, and one less.
* `LineEditor.Stroke.print`, `print_echoes`: the echoes of keys lead from one buffer to the next.
* `LineEditor.Stroke.cursor_print`, `cursor_print_echoes`: the cursor never leaves the line to the
  left.
* **`shown_line_is_read`**: what stands on the screen, at each moment, and what a read answers.
-/

namespace ModalConsole

/-! ## A line of the screen -/

/-- A line of a screen that ends on neither side: the characters on its cells, and the cell of the
cursor. -/
@[ext]
structure ScreenLine where
  cells : Int → Char
  cursor : Int

namespace ScreenLine

/-- The character that goes back by one cell. -/
def backspace : Char := '\x08'

/-- The cursor goes back by one cell. -/
def back (line : ScreenLine) : ScreenLine := { line with cursor := line.cursor - 1 }

/-- A character fills the cell of the cursor, which moves on to the next one. -/
def fill (line : ScreenLine) (c : Char) : ScreenLine :=
  ⟨Function.update line.cells line.cursor c, line.cursor + 1⟩

/-- A character comes to the screen. -/
def put (line : ScreenLine) (c : Char) : ScreenLine :=
  if c = backspace then line.back else line.fill c

/-- One character after the other. -/
def print (line : ScreenLine) (text : List Char) : ScreenLine := text.foldl put line

/-- The characters from a cell up to the cursor. -/
def textFrom (line : ScreenLine) (start : Int) : List Char :=
  (List.range (line.cursor - start).toNat).map fun i : Nat => line.cells (start + i)

/-- The line with a text from its cursor on, blanks behind the text, and the cursor there. -/
def withText (line : ScreenLine) (text : List Char) : ScreenLine where
  cells i := if i < line.cursor then line.cells i else text.getD (i - line.cursor).toNat ' '
  cursor := line.cursor + text.length

variable {line : ScreenLine} {text : List Char} {c : Char}

theorem print_append (line : ScreenLine) (s t : List Char) :
    line.print (s ++ t) = (line.print s).print t :=
  List.foldl_append

theorem withText_cells_left {i : Int} (hi : i < line.cursor) (text : List Char) :
    (line.withText text).cells i = line.cells i :=
  if_pos hi

theorem withText_cells_add (line : ScreenLine) (text : List Char) (k : Nat) :
    (line.withText text).cells (line.cursor + k) = text.getD k ' ' := by
  have hright : ¬ line.cursor + k < line.cursor := by omega
  have hplace : (line.cursor + k - line.cursor).toNat = k := by omega
  simp only [withText, if_neg hright, hplace]

theorem withText_cells_right {i : Int} (hi : (line.withText text).cursor ≤ i) :
    (line.withText text).cells i = ' ' := by
  obtain ⟨k, rfl⟩ := Int.le.dest hi
  have hplace : (line.withText text).cursor + k = line.cursor + (text.length + k : Nat) := by
    simp only [withText]
    omega
  rw [hplace, withText_cells_add, List.getD_eq_default _ _ (Nat.le_add_right _ _)]

/-- A line has a text on it if its cells and its cursor say so. -/
theorem eq_withText {shown : ScreenLine} (hleft : ∀ i < line.cursor, shown.cells i = line.cells i)
    (hright : ∀ k : Nat, shown.cells (line.cursor + k) = text.getD k ' ')
    (hcursor : shown.cursor = line.cursor + text.length) : shown = line.withText text := by
  refine ScreenLine.ext ?_ hcursor
  funext i
  by_cases hi : i < line.cursor
  · rw [hleft i hi, withText_cells_left hi]
  · obtain ⟨k, rfl⟩ := Int.le.dest (Int.not_lt.mp hi)
    rw [hright k, withText_cells_add]

theorem withText_nil (hblank : ∀ i, line.cursor ≤ i → line.cells i = ' ') :
    line.withText [] = line :=
  (eq_withText (fun _ _ => rfl) (fun k => hblank _ (by omega)) (by simp)).symm

theorem getD_concat (text : List Char) (c : Char) (k : Nat) :
    (text ++ [c]).getD k ' ' = if k = text.length then c else text.getD k ' ' := by
  rw [List.getD_eq_getElem?_getD, List.getD_eq_getElem?_getD, List.getElem?_append]
  split_ifs with hlt heq heq
  · omega
  · rfl
  · simp [heq]
  · rw [List.getElem?_eq_none (by simp; omega), List.getElem?_eq_none (by omega)]

theorem fill_cells_of_ne {i : Int} (hi : i ≠ line.cursor) (c : Char) :
    (line.fill c).cells i = line.cells i := by
  simp [fill, hi]

theorem fill_cells_cursor (line : ScreenLine) (c : Char) :
    (line.fill c).cells line.cursor = c := by
  simp [fill]

/-- One more character. -/
theorem put_withText (hc : c ≠ backspace) :
    (line.withText text).put c = line.withText (text ++ [c]) := by
  have hend : (line.withText text).cursor = line.cursor + text.length := rfl
  rw [put, if_neg hc]
  apply eq_withText
  case hleft =>
    intro i hi
    rw [fill_cells_of_ne (by omega), withText_cells_left hi]
  case hright =>
    intro k
    rw [getD_concat]
    split_ifs with hk
    · rw [hk, ← hend, fill_cells_cursor]
    · rw [fill_cells_of_ne (by omega), withText_cells_add]
  case hcursor =>
    simp only [fill, hend, List.length_append, List.length_singleton]
    omega

/-- One character less. -/
theorem erase_withText (line : ScreenLine) (text : List Char) (c : Char) :
    (line.withText (text ++ [c])).print LineEditor.erasure.toList = line.withText text := by
  have herase : (line.withText (text ++ [c])).print LineEditor.erasure.toList =
    ((line.withText (text ++ [c])).back.fill ' ').back := rfl
  have hend : (line.withText (text ++ [c])).back.cursor = line.cursor + text.length := by
    simp only [back, withText, List.length_append, List.length_singleton]
    omega
  rw [herase]
  apply eq_withText
  case hleft =>
    intro i hi
    rw [back, fill_cells_of_ne (by omega), back, withText_cells_left hi]
  case hright =>
    intro k
    by_cases hk : k = text.length
    · rw [back, hk, ← hend, fill_cells_cursor, List.getD_eq_default _ _ (Nat.le_refl _)]
    · rw [back, fill_cells_of_ne (by omega), back, withText_cells_add, getD_concat, if_neg hk]
  case hcursor =>
    simp only [back, fill] at hend ⊢
    omega

theorem le_cursor_withText (line : ScreenLine) (text : List Char) :
    line.cursor ≤ (line.withText text).cursor :=
  Int.le_add_of_nonneg_right (Int.natCast_nonneg _)

theorem textFrom_withText (line : ScreenLine) (text : List Char) :
    (line.withText text).textFrom line.cursor = text := by
  have hlength : ((line.withText text).cursor - line.cursor).toNat = text.length := by
    simp only [withText]
    omega
  rw [textFrom, hlength]
  refine List.ext_getElem (by simp) fun k _ hk => ?_
  rw [List.getElem_map, List.getElem_range, withText_cells_add, List.getD_eq_getElem _ _ hk]

end ScreenLine

/-! ## Echoes -/

namespace LineEditor

open ScreenLine

variable {editor editor' : LineEditor} {k : Key} {keys : List Key} {text : String} {p : List Char}

/-- The echo of a key leads from the one buffer to the other. -/
theorem Stroke.print (h : Stroke editor k editor' text) (hk : k ≠ .char backspace)
    (line : ScreenLine) :
    (line.withText editor.buffer).print text.toList = line.withText editor'.buffer := by
  cases h with
  | adds buffer c =>
    have hc : c ≠ backspace := fun hc => hk (congrArg Key.char hc)
    rw [String.toList_singleton]
    exact put_withText hc
  | erases buffer c => exact erase_withText line buffer c
  | nothing => rfl

/-- While the echo of a key is printed, the cursor stays behind the start of the text. -/
theorem Stroke.cursor_print (h : Stroke editor k editor' text) (hk : k ≠ .char backspace)
    (hp : p <+: text.toList) (line : ScreenLine) :
    line.cursor ≤ ((line.withText editor.buffer).print p).cursor := by
  have hall : line.cursor ≤ ((line.withText editor.buffer).print text.toList).cursor := by
    rw [h.print hk]
    exact le_cursor_withText line _
  cases h with
  | adds buffer c =>
    rw [String.toList_singleton] at hp hall
    rcases List.prefix_cons_iff.mp hp with rfl | ⟨rest, rfl, hrest⟩
    · exact le_cursor_withText line _
    · rw [List.prefix_nil.mp hrest]
      exact hall
  | erases buffer c =>
    -- back over the character that is erased, and never further
    have hend : (line.withText (buffer ++ [c])).cursor = line.cursor + buffer.length + 1 := by
      simp [withText, Int.add_assoc]
    have hmem : p ∈ [backspace, ' ', backspace].inits := (List.mem_inits _ _).mpr hp
    have hprefixes : p = [] ∨ p = [backspace] ∨ p = [backspace, ' '] ∨
      p = [backspace, ' ', backspace] := by simpa using hmem
    rcases hprefixes with rfl | rfl | rfl | rfl
    · exact le_cursor_withText line _
    · change line.cursor ≤ (line.withText (buffer ++ [c])).cursor - 1
      omega
    · change line.cursor ≤ (line.withText (buffer ++ [c])).cursor - 1 + 1
      omega
    · exact hall
  | nothing =>
    rw [List.prefix_nil.mp hp]
    exact le_cursor_withText line _

theorem print_echoes (hkeys : ∀ k ∈ keys, k ≠ .enter ∧ k ≠ .char backspace)
    (editor : LineEditor) (line : ScreenLine) :
    (line.withText editor.buffer).print (editor.echoes keys).toList =
      line.withText (editor.pressAll keys).buffer := by
  induction keys generalizing editor with
  | nil => rfl
  | cons k keys ih =>
    obtain ⟨⟨henter, hbackspace⟩, hrest⟩ := List.forall_mem_cons.mp hkeys
    rw [echoes, String.toList_append, print_append,
      (editor.stroke_press henter).print hbackspace, ih hrest]
    rfl

theorem cursor_print_echoes (hkeys : ∀ k ∈ keys, k ≠ .enter ∧ k ≠ .char backspace)
    (editor : LineEditor) (line : ScreenLine) (hp : p <+: (editor.echoes keys).toList) :
    line.cursor ≤ ((line.withText editor.buffer).print p).cursor := by
  induction keys generalizing editor p with
  | nil =>
    rw [List.prefix_nil.mp hp]
    exact le_cursor_withText line _
  | cons k keys ih =>
    obtain ⟨⟨henter, hbackspace⟩, hrest⟩ := List.forall_mem_cons.mp hkeys
    have hstroke := editor.stroke_press henter
    obtain ⟨more, hmore⟩ := hp
    rw [echoes, String.toList_append] at hmore
    rcases List.append_eq_append_iff.mp hmore with ⟨l, hecho, -⟩ | ⟨l, rfl, hl⟩
    · exact hstroke.cursor_print hbackspace ⟨l, hecho.symm⟩ line
    · rw [print_append, hstroke.print hbackspace]
      exact ih hrest _ ⟨more, hl.symm⟩

open HostEvent Host in
/-- **The line that is read is the one on the screen.** Whatever is typed and erased on a line that
is blank from the cursor on, with characters that all fill one cell, none of them going back: what
the echoes leave between the start of the line and the cursor is the buffer of the editor, with
blanks behind it and nothing changed before it, and the cursor has at no time been left of the
start. Enter answers this line, an interrupt an empty one, and both leave an empty buffer. So a host
that reads events with these keys up to the end of the line answers what its echoes have left on the
screen. -/
theorem shown_line_is_read {line : ScreenLine}
    (hblank : ∀ i, line.cursor ≤ i → line.cells i = ' ')
    {keys : List Key} (hkeys : ∀ k ∈ keys, k ≠ .enter ∧ k ≠ .char backspace) :
    let fresh : LineEditor := {}
    let editor := fresh.pressAll keys
    let echoed := (fresh.echoes keys).toList
    let shown := line.print echoed
    shown.textFrom line.cursor = editor.buffer ∧
    (∀ i, shown.cursor ≤ i → shown.cells i = ' ') ∧
    (∀ i < line.cursor, shown.cells i = line.cells i) ∧
    (∀ p, p <+: echoed → line.cursor ≤ (line.print p).cursor) ∧
    editor.feed (some .enter) = ({}, .done (String.ofList (shown.textFrom line.cursor))) ∧
    editor.feed none = ({}, .done "") ∧
    ∀ (h : Host) (before : List HostEvent) (e : HostEvent) (rest : List HostEvent),
      FirstAt EndsLine h.events before e rest → keysOf before = keys →
      h.readLine.1 = .ok (if e.keyReport = .interrupt then ""
        else String.ofList (shown.textFrom line.cursor)) ∧
      h.readLine.2.output = h.leaveDesktop.output ++
        (showCursor ++ String.ofList echoed ++ lineEnd) := by
  intro fresh editor echoed shown
  have hstart : line.withText fresh.buffer = line := withText_nil hblank
  have hshown : shown = line.withText editor.buffer := by
    rw [← print_echoes hkeys fresh line, hstart]
  have htext : shown.textFrom line.cursor = editor.buffer := by
    rw [hshown, textFrom_withText]
  refine ⟨htext, ?behind, ?ahead, ?cursor, ?enter, rfl, ?read⟩
  case behind =>
    intro i hi
    rw [hshown] at hi ⊢
    exact withText_cells_right hi
  case ahead =>
    intro i hi
    rw [hshown, withText_cells_left hi]
  case cursor =>
    intro p hp
    have hcursor := cursor_print_echoes hkeys fresh line hp
    rwa [hstart] at hcursor
  case enter =>
    rw [htext]
    rfl
  case read =>
    intro h before e rest hfirst htyped
    rw [readLine_of_firstAt hfirst, htyped, htext, String.ofList_toList]
    exact ⟨rfl, congrArg (· ++ _) (output_absorbAll h.leaveDesktop (before ++ [e]))⟩

/-- A prompt, letters and erasures, one of them too many, and an arrow. -/
theorem shown_line_is_read_erased :
    let prompt : ScreenLine := ⟨fun i => if i = 0 then '>' else ' ', 2⟩
    let keys : List Key := [.char 'n', .backspace, .backspace, .char 'o', .left, .char 'k']
    let fresh : LineEditor := {}
    let shown := prompt.print (fresh.echoes keys).toList
    (∀ i, prompt.cursor ≤ i → prompt.cells i = ' ') ∧
      (∀ k ∈ keys, k ≠ .enter ∧ k ≠ .char backspace) ∧
      shown.textFrom 2 = ['o', 'k'] ∧ shown.cells 0 = '>' ∧
      (fresh.pressAll keys).feed (some .enter) = ({}, .done "ok") := by
  intro prompt keys fresh shown
  have hblank : ∀ i, prompt.cursor ≤ i → prompt.cells i = ' ' := by
    intro i hi
    have hpositive : i ≠ 0 := by
      rintro rfl
      exact absurd hi (by decide)
    exact if_neg hpositive
  have hkeys : ∀ k ∈ keys, k ≠ .enter ∧ k ≠ .char backspace := by decide
  obtain ⟨htext, -, hbefore, -, henter, -⟩ := shown_line_is_read hblank hkeys
  exact ⟨hblank, hkeys, htext, hbefore 0 (by decide), henter.trans (by rw [htext]; rfl)⟩

end LineEditor

end ModalConsole
