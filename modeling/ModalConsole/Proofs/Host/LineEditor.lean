import Mathlib.Data.List.Basic
import ModalConsole.Host.LineEditor

/-!
# Typing a line

* `LineEditor.press`, `LineEditor.pressAll`: the editor after a key, and after some keys.
* `LineEditor.echo`, `LineEditor.echoes`: what it writes to the screen for them.
* `LineEditor.Stroke`: a key adds a character to the buffer, takes the last one from it or does
  nothing. `stroke_press`: every key but Enter does one of these.
-/

namespace ModalConsole.LineEditor

/-- The editor after a key. -/
def press (editor : LineEditor) (k : Key) : LineEditor := (editor.feed (some k)).1

/-- The editor after some keys. -/
def pressAll (editor : LineEditor) (keys : List Key) : LineEditor := keys.foldl press editor

/-- What the editor writes to the screen for a key. -/
def echo (editor : LineEditor) (k : Key) : String :=
  match (editor.feed (some k)).2 with
  | .echo text => text
  | _ => ""

/-- What the editor writes to the screen for some keys. -/
def echoes : LineEditor → List Key → String
  | _, [] => ""
  | editor, k :: keys => editor.echo k ++ (editor.press k).echoes keys

/-- What a key does to the editor, and what is written for it. -/
inductive Stroke : LineEditor → Key → LineEditor → String → Prop
  /-- A character is added. -/
  | adds (buffer c) : Stroke ⟨buffer⟩ (.char c) ⟨buffer ++ [c]⟩ (String.singleton c)
  /-- The last character is taken. -/
  | erases (buffer c) : Stroke ⟨buffer ++ [c]⟩ .backspace ⟨buffer⟩ erasure
  | nothing (editor k) : Stroke editor k editor ""

/-- Every key but Enter edits the line, or does nothing. -/
theorem stroke_press (editor : LineEditor) {k : Key} (hk : k ≠ .enter) :
    Stroke editor k (editor.press k) (editor.echo k) := by
  cases k with
  | enter => contradiction
  | char c => exact .adds editor.buffer c
  | backspace =>
    obtain ⟨buffer⟩ := editor
    rcases List.eq_nil_or_concat buffer with rfl | ⟨buffer, c, rfl⟩
    · exact .nothing _ _
    · simpa [press, echo, feed] using Stroke.erases buffer c
  | up | down | left | right | escape | other => exact .nothing _ _

theorem feed_ne_done (editor : LineEditor) {k : Key} (hk : k ≠ .enter) (line : String) :
    (editor.feed (some k)).2 ≠ .done line := by
  cases k with
  | enter => contradiction
  | backspace =>
    simp only [feed]
    split <;> simp
  | _ => simp [feed]

end ModalConsole.LineEditor
