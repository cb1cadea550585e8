import ModalConsole.Input

/-!
# The line editor

Typed characters gather in a buffer and are echoed. Backspace takes the last one back, on the screen
as well. Enter hands the buffer over and empties it; an interrupt drops it and hands over an empty
line. Model of `LineEditor` and of its `feed`.
-/

namespace ModalConsole

/-- The characters of the line so far. -/
structure LineEditor where
  buffer : List Char := []
  deriving DecidableEq, Repr

/-- What a key leads to. -/
inductive LineEdit where
  | pending
  /-- A text to write to the screen. -/
  | echo (text : String)
  /-- The finished line. -/
  | done (line : String)
  deriving DecidableEq, Repr

namespace LineEditor

/-- The text that erases the character left of the cursor. -/
def erasure : String := "\x08 \x08"

/-- Feeds one key, or an interrupt. -/
def feed (e : LineEditor) : Option Key → LineEditor × LineEdit
  | none => ({}, .done "")
  | some .enter => ({}, .done (String.ofList e.buffer))
  | some .backspace =>
    if e.buffer.isEmpty then (e, .pending) else (⟨e.buffer.dropLast⟩, .echo erasure)
  | some (.char c) => (⟨e.buffer ++ [c]⟩, .echo (String.singleton c))
  | some _ => (e, .pending)

end LineEditor

end ModalConsole
