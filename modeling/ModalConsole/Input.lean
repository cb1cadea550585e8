/-!
# Input: keys, pointer frames and typed lines

What a terminal can hand to a session. Model of `Key` and `PointerSample`.

* A session asks for one of three kinds of input: a line, a key or a pointer frame.
* A pointer frame is the position and button of the pointer, with the last key of the frame.
-/

namespace ModalConsole

/-- A keystroke. -/
inductive Key where
  | up
  | down
  | left
  | right
  | enter
  | backspace
  | escape
  | char (c : Char)
  /-- Any key that has no meaning to a session. -/
  | other
  deriving DecidableEq, Repr

/-- Is the key the given ASCII letter, in either case? -/
def Key.isLetter (letter : Char) : Key → Bool
  | .char c => c.toLower == letter.toLower
  | _ => false

/-- One frame of the pointer. -/
structure PointerFrame where
  x : Int
  y : Int
  /-- Is the primary button held? -/
  pressed : Bool
  /-- A key pressed during the frame. -/
  key : Option Key
  deriving DecidableEq, Repr

/-- The pointer at the origin, with nothing pressed. -/
def PointerFrame.resting : PointerFrame := ⟨0, 0, false, none⟩

/-- A kind of input that a session can ask for. -/
inductive InputKind where
  | line
  | key
  | pointer
  deriving DecidableEq, Repr

/-- A piece of input. -/
inductive Input where
  | line (text : String)
  | key (key : Key)
  | pointer (frame : PointerFrame)
  deriving DecidableEq, Repr

/-- The kind of a piece of input. -/
def Input.kind : Input → InputKind
  | .line _ => .line
  | .key _ => .key
  | .pointer _ => .pointer

end ModalConsole
