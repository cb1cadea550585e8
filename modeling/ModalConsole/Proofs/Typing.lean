import ModalConsole.Proofs.Host.LineEditor
import ModalConsole.Proofs.Manual.Leaving

/-!
# What is typed

A text is typed at two places: into the line editor of a host, and as a command into the pager of
the manual, where the arrows stand for something else as long as no command is typed. Each of them
keeps a buffer of its own. Both are compared here with a stack, which knows nothing of either.

* `Key.onStack`, `stacked`: keys as operations on a stack of characters. `typed`: the text that they
  leave.
* `foldl_of_stacked`: whatever follows the stack through each of some keys follows it through all.
* `LineEditor.press_of_stack`, `Pager.press_of_stack`: both editors follow it through every key that
  does not end the entry.
* **`editors_hold_typed`**: both hold the same text after any keys, and Enter submits it.
-/

namespace ModalConsole

open Text

/-! ## Keys on a stack -/

/-- What a key does to a stack of characters: a character is pushed, and backspace pops one if there
is any. -/
def Key.onStack : Key → List Char → List Char
  | .char c, stack => c :: stack
  | .backspace, _ :: below => below
  | _, stack => stack

/-- A stack after some keys. -/
def stacked (stack : List Char) (keys : List Key) : List Char :=
  keys.foldl (fun stack k => k.onStack stack) stack

/-- The text that keys leave of what they type: the characters of the stack, the lowest one
first. -/
def typed (keys : List Key) : List Char := (stacked [] keys).reverse

variable {keys : List Key} {k : Key}

/-- Whatever follows the stack through each of some keys follows it through all of them. -/
theorem foldl_of_stacked {State : Type} {step : State → Key → State} (holding : List Char → State)
    (hstep : ∀ stack, ∀ k ∈ keys, step (holding stack) k = holding (k.onStack stack))
    (stack : List Char) : keys.foldl step (holding stack) = holding (stacked stack keys) := by
  induction keys generalizing stack with
  | nil => rfl
  | cons k keys ih =>
    have hfirst := hstep stack k List.mem_cons_self
    have hrest : ∀ stack, ∀ k ∈ keys, step (holding stack) k = holding (k.onStack stack) :=
      fun stack k hk => hstep stack k (List.mem_cons_of_mem _ hk)
    rw [List.foldl_cons, hfirst, ih hrest]
    rfl

/-! ## The line editor -/

namespace LineEditor

/-- The line editor follows the stack through every key but Enter. -/
theorem press_of_stack (hk : k ≠ .enter) (stack : List Char) :
    LineEditor.press ⟨stack.reverse⟩ k = ⟨(k.onStack stack).reverse⟩ := by
  cases k with
  | enter => contradiction
  | char c => exact congrArg mk (List.reverse_cons).symm
  | backspace =>
    cases stack with
    | nil => rfl
    | cons c below =>
      have hpopped : Key.backspace.onStack (c :: below) = below := rfl
      rw [hpopped, List.reverse_cons]
      simp [press, feed]
  | up | down | left | right | escape | other => rfl

/-- A new editor holds what is typed. -/
theorem pressAll_fresh (hkeys : ∀ k ∈ keys, k ≠ .enter) :
    pressAll {} keys = ⟨typed keys⟩ := by
  refine foldl_of_stacked (fun stack => (⟨stack.reverse⟩ : LineEditor)) ?_ []
  intro stack k hk
  exact press_of_stack (hkeys k hk) stack

end LineEditor

/-! ## The entry of a command -/

namespace Pager

/-- The pager while a command is typed, with the text of it so far. -/
def withEntry (p : Pager) (text : List Char) : Pager := { p with mode := .typing text }

/-- The entry of a command follows the stack through every key that does not end it, and asks for
nothing meanwhile. -/
theorem press_of_stack (p : Pager) (henter : k ≠ .enter) (hescape : k ≠ .escape)
    (stack : List Char) :
    (p.withEntry stack.reverse).press k = (p.withEntry (k.onStack stack).reverse, .stay) := by
  rw [press_of_typing rfl]
  cases k with
  | enter | escape => contradiction
  | char c => exact congrArg (p.withEntry ·, PagerEvent.stay) (List.reverse_cons).symm
  | backspace =>
    cases stack with
    | nil => rfl
    | cons c below =>
      rw [List.reverse_cons]
      exact congrArg (p.withEntry ·, PagerEvent.stay) List.dropLast_concat
  | up | down | left | right | other => rfl

/-- The entry of a command starts without a text. -/
theorem press_command {p : Pager} (hmode : p.mode = .viewing) {start : Key}
    (hstart : start = .char 'c' ∨ start = .char 'C') : (p.press start).1 = p.withEntry [] := by
  rw [press_of_viewing hmode]
  rcases hstart with rfl | rfl <;> rfl

/-- A command that has been started holds what is typed, and nothing else in the pager changes. -/
theorem pressAll_command {p : Pager} (hmode : p.mode = .viewing) {start : Key}
    (hstart : start = .char 'c' ∨ start = .char 'C')
    (hkeys : ∀ k ∈ keys, k ≠ .enter ∧ k ≠ .escape) :
    p.pressAll (start :: keys) = p.withEntry (typed keys) := by
  rw [pressAll, List.foldl_cons, press_command hmode hstart]
  refine foldl_of_stacked (fun stack => p.withEntry stack.reverse) ?_ []
  intro stack k hk
  obtain ⟨henter, hescape⟩ := hkeys k hk
  exact congrArg Prod.fst (p.press_of_stack henter hescape stack)

end Pager

/-! ## Both -/

/-- **Both editors hold what is typed.** Start a command in any pager that is being viewed, and feed
any keys but Enter and escape to it and to a new line editor. Both buffers are the text that the
keys leave as operations on a stack. The pager shows this text under the same lines as before, and
nothing else in it has changed. No further key of this kind ends the line or makes the pager answer.
Enter submits the text in both: the editor hands it over, the pager takes it as a command, and each
of them is left without a text, unless the pager has been told to leave. -/
theorem editors_hold_typed {p : Pager} (hmode : p.mode = .viewing) {start : Key}
    (hstart : start = .char 'c' ∨ start = .char 'C') {keys : List Key}
    (hkeys : ∀ k ∈ keys, k ≠ .enter ∧ k ≠ .escape) :
    let entry := p.pressAll (start :: keys)
    let editor := LineEditor.pressAll {} keys
    let text := typed keys
    entry = { p with mode := .typing text } ∧ editor.buffer = text ∧
    entry.render = p.body ++ ["Command: " ++ String.ofList text] ∧
    (∀ k, k ≠ .enter → k ≠ .escape →
      (entry.press k).2 = .stay ∧ ∀ line, (editor.feed (some k)).2 ≠ .done line) ∧
    editor.feed (some .enter) = ({}, .done (String.ofList text)) ∧
    entry.press .enter =
      if trim text = "exit".toList then ({ p with mode := .leaving }, .stay)
      else ({ p with mode := .typing [] }, .notice "Unknown command.") := by
  intro entry editor text
  have hentry : entry = p.withEntry text := Pager.pressAll_command hmode hstart hkeys
  have heditor : editor = ⟨text⟩ := LineEditor.pressAll_fresh fun k hk => (hkeys k hk).1
  refine ⟨hentry, congrArg LineEditor.buffer heditor, ?shown, ?further, ?handed, ?taken⟩
  case shown =>
    rw [hentry]
    rfl
  case further =>
    intro k henter hescape
    refine ⟨?_, editor.feed_ne_done henter⟩
    -- Any text is what some stack holds.
    rw [hentry, ← List.reverse_reverse text, p.press_of_stack henter hescape]
  case handed =>
    rw [heditor]
    rfl
  case taken =>
    rw [hentry]
    rfl

/-- An `exit` with one erasure too many, a wrong letter and arrows, on the second line of a page. -/
theorem editors_hold_typed_exit :
    let p := (Pager.ofPages [⟨[], ["a", "b"]⟩, ⟨[], ["c"]⟩] 1).pressAll [.down]
    let keys : List Key := [.char 'q', .backspace, .backspace, .char 'e', .char 'x', .left,
      .char 'i', .char 'z', .backspace, .down, .char 't', .other]
    let entry := p.pressAll (.char 'c' :: keys)
    let editor := LineEditor.pressAll {} keys
    p.mode = .viewing ∧ (∀ k ∈ keys, k ≠ .enter ∧ k ≠ .escape) ∧
      entry.render = ["b", "Command: exit"] ∧ editor.buffer = ['e', 'x', 'i', 't'] ∧
      editor.feed (some .enter) = ({}, .done "exit") ∧
      entry.press .enter = ({ p with mode := .leaving }, .stay) := by
  intro p keys entry editor
  have hmode : p.mode = .viewing := by decide
  have hkeys : ∀ k ∈ keys, k ≠ .enter ∧ k ≠ .escape := by decide
  have htext : typed keys = ['e', 'x', 'i', 't'] := by decide
  obtain ⟨-, hbuffer, hshown, -, hhanded, htaken⟩ :=
    editors_hold_typed hmode (Or.inl rfl) hkeys
  rw [htext] at hbuffer hshown hhanded htaken
  exact ⟨hmode, hkeys, hshown, hbuffer, hhanded, htaken⟩

end ModalConsole
