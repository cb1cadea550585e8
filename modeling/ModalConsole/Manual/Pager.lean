import ModalConsole.Input
import ModalConsole.Text.Blank
import ModalConsole.Text.LetterCase

/-!
# The pager of the manual

Pages of lines, seen through a window of a fixed number of rows, and a keyboard with four modes.
Model of `Pager` with `open`, `handle_key` and `render`.

* While viewing, the arrows scroll and turn pages; the first and the last page are neighbours.
* `v` locks and unlocks the keys, `c` starts the entry of a command, `q` asks to leave.
* The only command is `exit`, which asks to leave as well. After the question, `y` leaves and
  any other key goes back to viewing.
-/

namespace ModalConsole

open Text

/-- A page of the manual. -/
structure Page where
  /-- The topics that lead to the page. -/
  topics : List String
  lines : List String
  deriving DecidableEq, Repr

/-- What the next key of a pager means. -/
inductive PagerMode where
  | viewing
  /-- A command is typed; the characters so far. -/
  | typing (buffer : List Char)
  | locked
  /-- The question whether to leave is open. -/
  | leaving
  deriving DecidableEq, Repr

/-- What a key asks the owner of a pager to do. -/
inductive PagerEvent where
  | stay
  | leave
  /-- Stay and show a line under the page. -/
  | notice (text : String)
  deriving DecidableEq, Repr

/-- Pages, and the part of them that is on screen. -/
structure Pager where
  pages : List Page
  /-- The page on screen. -/
  page : Nat
  /-- The first line on screen. -/
  scroll : Nat
  /-- The rows of the window. -/
  visible : Nat
  mode : PagerMode
  deriving DecidableEq, Repr

namespace Pager

/-- The rows of the window unless the settings give another number. -/
def defaultVisible : Nat := 23

/-- A pager on the first page. Without pages it shows a blank one; a window has at least one
row. -/
def ofPages (pages : List Page) (visible : Nat) : Pager :=
  ⟨if pages.isEmpty then [⟨[], []⟩] else pages, 0, 0, max visible 1, .viewing⟩

/-- The lines of the page on screen. -/
def pageLines (p : Pager) : List String := (p.pages[p.page]?.map Page.lines).getD []

/-- The farthest that the page on screen can be scrolled. -/
def maxScroll (p : Pager) : Nat := p.pageLines.length - p.visible

/-- The first page that a topic leads to; case and blanks around the topic do not count. -/
def pageFor (p : Pager) (topic : String) : Option Nat :=
  p.pages.findIdx? fun page => page.topics.contains (lowered (trimmed topic))

/-- Does the topic lead to a page? -/
def hasTopic (p : Pager) (topic : String) : Bool := (p.pageFor topic).isSome

/-- Opens the pager at a topic; without one, or with one that leads nowhere, at the first
page. -/
def openAt (p : Pager) (topic : Option String) : Pager :=
  { p with page := (topic.bind p.pageFor).getD 0, scroll := 0, mode := .viewing }

/-! ## The screen -/

/-- The line under the page that shows the mode, if it has one. -/
def modeLine : PagerMode → Option String
  | .viewing => none
  | .typing buffer => some ("Command: " ++ String.ofList buffer)
  | .locked => some "Keybinds locked. Press V to unlock."
  | .leaving => some "Are you sure you want to quit? (y/n)"

/-- The lines of the window. -/
def body (p : Pager) : List String := (p.pageLines.drop p.scroll).take p.visible

/-- The lines on screen: those of the window, then that of the mode. -/
def render (p : Pager) : List String := p.body ++ (modeLine p.mode).toList

/-! ## Keys -/

/-- The page `step` pages on, the first following the last. -/
def turn (p : Pager) (step : Int) : Pager :=
  { p with page := ((p.page + step) % p.pages.length).toNat, scroll := 0 }

/-- A key while viewing. -/
def viewKey (p : Pager) (key : Key) : Pager :=
  match key with
  | .up => { p with scroll := p.scroll - 1 }
  | .down => if p.scroll < p.maxScroll then { p with scroll := p.scroll + 1 } else p
  | .left => p.turn (-1)
  | .right => p.turn 1
  | key =>
    if key.isLetter 'v' then { p with mode := .locked }
    else if key.isLetter 'c' then { p with mode := .typing [] }
    else if key.isLetter 'q' then { p with mode := .leaving }
    else p

/-- The command that asks to leave. -/
def exitCommand : List Char := "exit".toList

/-- A key while a command is typed. -/
def typeKey (p : Pager) (buffer : List Char) : Key → Pager × PagerEvent
  | .escape => ({ p with mode := .viewing }, .stay)
  | .enter =>
    if trim buffer = exitCommand then ({ p with mode := .leaving }, .stay)
    else ({ p with mode := .typing [] }, .notice "Unknown command.")
  | .backspace => ({ p with mode := .typing buffer.dropLast }, .stay)
  | .char c => ({ p with mode := .typing (buffer ++ [c]) }, .stay)
  | _ => (p, .stay)

/-- Feeds one key to a pager. -/
def press (p : Pager) (key : Key) : Pager × PagerEvent :=
  match p.mode with
  | .viewing => (p.viewKey key, .stay)
  | .typing buffer => p.typeKey buffer key
  | .locked => (if key.isLetter 'v' then { p with mode := .viewing } else p, .stay)
  | .leaving => ({ p with mode := .viewing }, if key.isLetter 'y' then .leave else .stay)

end Pager

end ModalConsole
