import ModalConsole.Terminal.Basic
import ModalConsole.Text.Quoted

/-!
# Scripts: terminals without a screen

A script hands out prepared input in order and keeps a record of what it was told. Model of
`ScriptedConsole`.

* Each read takes the first item, also when it is of the wrong kind; a key stands in for a
  pointer frame at the origin. A read without items fails.
* A line that is read appears in the transcript, followed by a line feed.
-/

namespace ModalConsole

open Text

/-- Why a read from a script fails. -/
inductive ScriptError where
  | exhausted
  /-- The first item was of another kind. -/
  | mismatch (expected : InputKind) (found : Input)
  deriving DecidableEq, Repr

/-! ## How items are shown -/

/-- The name of a key in a message. -/
def Key.shown : Key → String
  | .up => "Up"
  | .down => "Down"
  | .left => "Left"
  | .right => "Right"
  | .enter => "Enter"
  | .backspace => "Backspace"
  | .escape => "Esc"
  | .char c => "Char(" ++ quotedChar c ++ ")"
  | .other => "Other"

/-- A pointer frame in a message. -/
def PointerFrame.shown (p : PointerFrame) : String :=
  "PointerSample \x7b x: " ++ integerString p.x ++ ", y: " ++ integerString p.y
    ++ ", pressed: " ++ (if p.pressed then "true" else "false")
    ++ ", key: " ++ (match p.key with | none => "None" | some k => "Some(" ++ k.shown ++ ")")
    ++ " \x7d"

/-- An item of a script in a message. -/
def Input.shown : Input → String
  | .line s => "Line(" ++ quoted s ++ ")"
  | .key k => "Key(" ++ k.shown ++ ")"
  | .pointer p => "Pointer(" ++ p.shown ++ ")"

/-- The name of a kind of input in a message. -/
def InputKind.shown : InputKind → String
  | .line => "a line"
  | .key => "a key"
  | .pointer => "a pointer frame"

/-- The words that report a failed read. -/
def ScriptError.message : ScriptError → String
  | .exhausted => "script exhausted"
  | .mismatch expected found => "script expected " ++ expected.shown ++ ", found " ++ found.shown

/-! ## Scripts -/

/-- Prepared input and the record of what was done. -/
structure Script where
  items : List Input := []
  /-- What was written and read so far. -/
  transcript : String := ""
  /-- How often the screen was emptied. -/
  clears : Nat := 0
  /-- The milliseconds of all pauses. -/
  paused : Nat := 0
  foreground : Option Color := none
  background : Option Color := none
  /-- The pictures shown so far. -/
  scenes : List Scene := []
  deriving DecidableEq, Repr

namespace Script

/-- Adds an item at the end. -/
def push (s : Script) (item : Input) : Script := { s with items := s.items ++ [item] }

/-- Carries out an effect. -/
def perform (s : Script) : Effect → Script
  | .text content => { s with transcript := s.transcript ++ content }
  | .clear => { s with clears := s.clears + 1 }
  | .foreground color => { s with foreground := some color }
  | .background color => { s with background := some color }
  | .pause ms => { s with paused := s.paused + ms }
  | .randomPause _ ms => { s with paused := s.paused + ms }
  | .present scene => { s with scenes := s.scenes ++ [scene] }

/-- An item as an answer to a read, if it is of the right kind. -/
def answer? : InputKind → Input → Option Input
  | .line, .line text => some (.line text)
  | .key, .key key => some (.key key)
  | .pointer, .pointer frame => some (.pointer frame)
  | .pointer, .key key => some (.pointer { PointerFrame.resting with key := some key })
  | _, _ => none

/-- What the transcript shows of an answer. -/
def echo : Input → String
  | .line text => text ++ "\n"
  | _ => ""

/-- Reads one item. -/
def read (kind : InputKind) (s : Script) : Except ScriptError Input × Script :=
  match s.items with
  | [] => (.error .exhausted, s)
  | item :: rest =>
    let taken := { s with items := rest }
    match answer? kind item with
    | some answer => (.ok answer, { taken with transcript := s.transcript ++ echo answer })
    | none => (.error (.mismatch kind item), taken)

/-- The transcript, and the script without it. -/
def takeTranscript (s : Script) : String × Script := (s.transcript, { s with transcript := "" })

/-- Scripts as terminals. -/
def terminal : Terminal Script ScriptError where
  perform := perform
  read := read

end Script

end ModalConsole
