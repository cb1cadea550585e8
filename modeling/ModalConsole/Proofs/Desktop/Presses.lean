import Mathlib.Algebra.Ring.Parity
import Mathlib.Data.List.DropRight
import Mathlib.Tactic.SplitIfs
import ModalConsole.Desktop.Basic

/-!
# Presses on the desktop

The desktop answers a frame of the pointer from the frame before it and from its menu. Over a
sequence of frames, the button counts once for each time that it goes down, and the menu is
opened and closed in turn until an item of it is activated.

* `Desktop.Turn`: what a frame can do to a desktop, and when. `frame_turns`: every frame does one of
  these things; `toggled_iff`, `activate_iff`: when the menu or an item of it is meant.
* `MenuItem.eq_of_contains`: no point is on two items.
* `Desktop.run`, `Desktop.answers`: a sequence of frames. `presses_run_iff`: which frames of it are
  presses.
* `togglesSinceActivation`: how often the menu has been opened or closed since the last item.
  `menuOpen_run_iff`: it is open iff this is odd.
* **`menu_follows_presses`**: the answers to any sequence of frames.
-/

namespace ModalConsole

/-- No point is on two items of the menu. -/
theorem MenuItem.eq_of_contains {item other : MenuItem} {x y : Int}
    (hitem : item.region.contains x y = true) (hother : other.region.contains x y = true) :
    item = other := by
  obtain ⟨-, htop, hbottom⟩ := Region.contains_iff.mp hitem
  obtain ⟨-, htop', hbottom'⟩ := Region.contains_iff.mp hother
  have hposition : item.position = other.position := by
    simp only [Region.bottom, region, menuItemHeight, menuSpacing] at htop hbottom htop' hbottom'
    omega
  revert hposition
  cases item <;> cases other <;> decide

/-- A point on an item is on no other one. -/
theorem MenuItem.contains_iff_only {item : MenuItem} {x y : Int} :
    item.region.contains x y = true ↔
      ∀ other : MenuItem, other.region.contains x y = true ↔ other = item := by
  refine ⟨fun hitem other => ⟨fun hother => eq_of_contains hother hitem, ?_⟩,
    fun honly => (honly item).mpr rfl⟩
  rintro rfl
  exact hitem

namespace Desktop

variable {d : Desktop} {p : PointerFrame} {x y : Int} {item : MenuItem}

/-! ## One frame -/

theorem itemAt_eq_some_iff : itemAt x y = some item ↔ item.region.contains x y = true := by
  have hall : item ∈ MenuItem.all := by cases item <;> decide
  constructor
  · intro h
    exact List.find?_some (p := fun other : MenuItem => other.region.contains x y) h
  · intro h
    cases hfind : itemAt x y with
    | none => exact absurd h (List.find?_eq_none.mp hfind item hall)
    | some other =>
      have hother : other.region.contains x y = true :=
        List.find?_some (p := fun other : MenuItem => other.region.contains x y) hfind
      rw [MenuItem.eq_of_contains hother h]

/-- A frame presses the button: it holds the button, which was up before, and does not leave. -/
structure Presses (d : Desktop) (p : PointerFrame) : Prop where
  pressed : p.pressed = true
  up : d.buttonDown = false
  stays : p.key ≠ some .escape

/-- What a frame can do to a desktop. -/
inductive Turn (d : Desktop) (p : PointerFrame) : Desktop × DesktopAction → Prop
  | leave (hkey : p.key = some .escape) : Turn d p (⟨d.menuOpen, p.pressed⟩, .leave)
  | idle (hkey : p.key ≠ some .escape)
      (hmiss : d.Presses p → startButton.contains p.x p.y = false ∧
        (d.menuOpen = true → itemAt p.x p.y = none)) :
      Turn d p (⟨d.menuOpen, p.pressed⟩, .idle)
  | toggle (hpress : d.Presses p) (hstart : startButton.contains p.x p.y = true) :
      Turn d p (⟨!d.menuOpen, p.pressed⟩, .toggled (!d.menuOpen))
  | activate {item : MenuItem} (hpress : d.Presses p)
      (hstart : startButton.contains p.x p.y = false) (hopen : d.menuOpen = true)
      (hitem : item.region.contains p.x p.y = true) :
      Turn d p (⟨false, p.pressed⟩, .activate item)

theorem frame_turns (d : Desktop) (p : PointerFrame) : d.Turn p (d.frame p) := by
  simp only [frame, click]
  split_ifs with hkey hclick hstart hopen
  · exact .leave hkey
  · obtain ⟨hpressed, hup⟩ : p.pressed = true ∧ d.buttonDown = false := by simpa using hclick
    exact .toggle ⟨hpressed, hup, hkey⟩ hstart
  · obtain ⟨hpressed, hup⟩ : p.pressed = true ∧ d.buttonDown = false := by simpa using hclick
    have hoff := Bool.eq_false_iff.mpr hstart
    cases hitem : itemAt p.x p.y with
    | some item => exact .activate ⟨hpressed, hup, hkey⟩ hoff hopen (itemAt_eq_some_iff.mp hitem)
    | none => exact .idle hkey fun _ => ⟨hoff, fun _ => hitem⟩
  · exact .idle hkey fun _ => ⟨Bool.eq_false_iff.mpr hstart, fun h => absurd h hopen⟩
  · refine .idle hkey fun hpress => absurd ?_ hclick
    rw [hpress.pressed, hpress.up]
    rfl

/-- The button is remembered as the frame held it. -/
theorem frame_buttonDown (d : Desktop) (p : PointerFrame) :
    (d.frame p).1.buttonDown = p.pressed := by
  have hturn := d.frame_turns p
  generalize d.frame p = result at hturn ⊢
  cases hturn <;> rfl

/-- The menu is opened or closed iff the button is pressed on the start button. -/
theorem toggled_iff {isOpen : Bool} : (d.frame p).2 = .toggled isOpen ↔
    d.Presses p ∧ startButton.contains p.x p.y = true ∧ isOpen = !d.menuOpen := by
  have hturn := d.frame_turns p
  constructor
  · intro h
    generalize d.frame p = result at hturn h
    cases hturn with
    | toggle hpress hstart => exact ⟨hpress, hstart, (DesktopAction.toggled.inj h).symm⟩
    | leave | idle | activate => cases h
  · rintro ⟨hpress, hstart, rfl⟩
    generalize d.frame p = result at hturn ⊢
    cases hturn with
    | toggle => rfl
    | leave hkey => exact absurd hkey hpress.stays
    | idle _ hmiss => exact absurd hstart (Bool.eq_false_iff.mp (hmiss hpress).1)
    | activate _ hoff => exact absurd hstart (Bool.eq_false_iff.mp hoff)

/-- The answer tells whether the menu is open now. -/
theorem menuOpen_of_toggled {isOpen : Bool} (h : (d.frame p).2 = .toggled isOpen) :
    (d.frame p).1.menuOpen = isOpen := by
  have hturn := d.frame_turns p
  generalize d.frame p = result at hturn h ⊢
  cases hturn with
  | toggle => exact DesktopAction.toggled.inj h
  | leave | idle | activate => cases h

/-- An item is activated iff the button is pressed on it while the menu is open, and not on the
start button. -/
theorem activate_iff : (d.frame p).2 = .activate item ↔
    d.Presses p ∧ d.menuOpen = true ∧ startButton.contains p.x p.y = false ∧
      item.region.contains p.x p.y = true := by
  have hturn := d.frame_turns p
  constructor
  · intro h
    generalize d.frame p = result at hturn h
    cases hturn with
    | activate hpress hoff hopen hitem =>
      obtain rfl := DesktopAction.activate.inj h
      exact ⟨hpress, hopen, hoff, hitem⟩
    | leave | idle | toggle => cases h
  · rintro ⟨hpress, hopen, hoff, hitem⟩
    generalize d.frame p = result at hturn ⊢
    cases hturn with
    | activate _ _ _ hother => rw [MenuItem.eq_of_contains hother hitem]
    | leave hkey => exact absurd hkey hpress.stays
    | idle _ hmiss =>
      have hnone := (hmiss hpress).2 hopen
      rw [itemAt_eq_some_iff.mpr hitem] at hnone
      cases hnone
    | toggle _ hstart => exact absurd hstart (Bool.eq_false_iff.mp hoff)

/-- The escape key leaves the desktop with the menu as it is. -/
theorem frame_of_escape (hkey : p.key = some .escape) :
    d.frame p = (⟨d.menuOpen, p.pressed⟩, .leave) := by
  rw [frame, if_pos hkey]

/-! ## Sequences of frames -/

/-- A desktop after a sequence of frames. -/
def run (d : Desktop) (frames : List PointerFrame) : Desktop :=
  frames.foldl (fun d p => (d.frame p).1) d

/-- The answers of a desktop to a sequence of frames. -/
def answers (d : Desktop) : List PointerFrame → List DesktopAction
  | [] => []
  | p :: frames => (d.frame p).2 :: (d.frame p).1.answers frames

theorem run_concat (d : Desktop) (before : List PointerFrame) (p : PointerFrame) :
    d.run (before ++ [p]) = ((d.run before).frame p).1 := by
  simp only [run, List.foldl_append, List.foldl_cons, List.foldl_nil]

theorem answers_concat (d : Desktop) (before : List PointerFrame) (p : PointerFrame) :
    d.answers (before ++ [p]) = d.answers before ++ [((d.run before).frame p).2] := by
  induction before generalizing d with
  | nil => rfl
  | cons q before ih => exact congrArg (_ :: ·) (ih (d.frame q).1)

/-- A frame that presses the button after others: it holds the button, the frame before it did not,
and it does not leave. -/
structure IsPress (before : List PointerFrame) (p : PointerFrame) : Prop where
  pressed : p.pressed = true
  fresh : ∀ last, before.getLast? = some last → last.pressed = false
  stays : p.key ≠ some .escape

/-- A new desktop remembers the last frame. -/
theorem run_buttonDown_eq_false_iff (before : List PointerFrame) :
    (({} : Desktop).run before).buttonDown = false ↔
      ∀ last, before.getLast? = some last → last.pressed = false := by
  rcases List.eq_nil_or_concat before with rfl | ⟨before, last, rfl⟩
  · exact iff_of_true rfl fun last h => nomatch h
  · rw [List.concat_eq_append, run_concat, frame_buttonDown]
    simp

/-- The presses of a sequence of frames are the frames in which the button goes down. -/
theorem presses_run_iff {before : List PointerFrame} :
    (({} : Desktop).run before).Presses p ↔ IsPress before p :=
  ⟨fun h => ⟨h.pressed, (run_buttonDown_eq_false_iff before).mp h.up, h.stays⟩,
    fun h => ⟨h.pressed, (run_buttonDown_eq_false_iff before).mpr h.fresh, h.stays⟩⟩

/-- While the button stays down, nothing is pressed. -/
theorem frame_of_held (hdown : d.buttonDown = true) :
    (d.frame p).2 = .idle ∨ (d.frame p).2 = .leave := by
  have hturn := d.frame_turns p
  generalize d.frame p = result at hturn ⊢
  cases hturn with
  | leave => exact Or.inr rfl
  | idle => exact Or.inl rfl
  | toggle hpress | activate hpress => exact absurd hdown (Bool.eq_false_iff.mp hpress.up)

theorem answers_of_held {frames : List PointerFrame} (hdown : d.buttonDown = true)
    (hheld : ∀ p ∈ frames, p.pressed = true) :
    ∀ answer ∈ d.answers frames, answer = .idle ∨ answer = .leave := by
  induction frames generalizing d with
  | nil => exact fun answer h => nomatch h
  | cons p frames ih =>
    obtain ⟨hpressed, hrest⟩ := List.forall_mem_cons.mp hheld
    exact List.forall_mem_cons.mpr
      ⟨frame_of_held hdown, ih ((d.frame_buttonDown p).trans hpressed) hrest⟩

/-! ## The menu -/

/-- Does the answer say that an item has been activated? -/
def activates : DesktopAction → Bool
  | .activate _ => true
  | _ => false

/-- Does the answer say that the menu has been opened or closed? -/
def toggles : DesktopAction → Bool
  | .toggled _ => true
  | _ => false

/-- How often the menu has been opened or closed since the last item was activated. -/
def togglesSinceActivation (answers : List DesktopAction) : Nat :=
  (answers.rtakeWhile (!activates ·)).countP toggles

theorem togglesSinceActivation_concat (answers : List DesktopAction) (answer : DesktopAction) :
    togglesSinceActivation (answers ++ [answer]) =
      match answer with
      | .activate _ => 0
      | .toggled _ => togglesSinceActivation answers + 1
      | .idle | .leave => togglesSinceActivation answers := by
  unfold togglesSinceActivation
  rw [List.rtakeWhile_concat]
  cases answer <;> simp [activates, toggles]

/-- The menu is open iff it has been toggled an odd number of times since the last item. -/
theorem menuOpen_run_iff (frames : List PointerFrame) :
    (({} : Desktop).run frames).menuOpen = true ↔
      Odd (togglesSinceActivation (({} : Desktop).answers frames)) := by
  induction frames using List.reverseRecOn with
  | nil => decide
  | append_singleton before p ih =>
    have hturn := (({} : Desktop).run before).frame_turns p
    rw [run_concat, answers_concat, togglesSinceActivation_concat]
    generalize (({} : Desktop).run before).frame p = result at hturn ⊢
    cases hturn with
    | leave => exact ih
    | idle => exact ih
    | toggle => rw [Nat.odd_add_one, ← ih, Bool.not_eq_true', Bool.eq_false_iff]
    | activate => exact iff_of_false Bool.false_ne_true Nat.not_odd_zero

/-- **The menu follows the presses.** Take any sequence of frames on a new desktop and any frame
after it. The menu is open iff it has been toggled an odd number of times since the last item was
activated. The frame toggles the menu iff it presses the button on the start button, and tells the
new state; it activates an item iff it presses the button on that item and on nothing else while the
menu is open. With the escape key it leaves, and the menu stays. While the button is held, only the
first frame can be a press. -/
theorem menu_follows_presses (before : List PointerFrame) :
    let d := ({} : Desktop).run before
    (d.menuOpen = true ↔ Odd (togglesSinceActivation (({} : Desktop).answers before))) ∧
    (∀ p : PointerFrame,
      let next := (d.frame p).1
      let answer := (d.frame p).2
      (({} : Desktop).run (before ++ [p]) = next ∧
        ({} : Desktop).answers (before ++ [p]) = ({} : Desktop).answers before ++ [answer]) ∧
      (∀ isOpen, answer = .toggled isOpen ↔
        IsPress before p ∧ startButton.contains p.x p.y = true ∧ isOpen = !d.menuOpen) ∧
      (∀ isOpen, answer = .toggled isOpen → next.menuOpen = isOpen) ∧
      (∀ item, answer = .activate item ↔
        IsPress before p ∧ d.menuOpen = true ∧ startButton.contains p.x p.y = false ∧
          ∀ other : MenuItem, other.region.contains p.x p.y = true ↔ other = item) ∧
      (p.key = some .escape → answer = .leave ∧ next.menuOpen = d.menuOpen)) ∧
    ∀ first rest, (∀ p ∈ first :: rest, p.pressed = true) →
      ∀ answer ∈ (d.frame first).1.answers rest, answer = .idle ∨ answer = .leave := by
  intro d
  refine ⟨menuOpen_run_iff before, fun p => ⟨⟨run_concat _ before p, answers_concat _ before p⟩,
    fun isOpen => ?_, fun isOpen => menuOpen_of_toggled, fun item => ?_, fun hkey => ?_⟩,
    fun first rest hheld => ?_⟩
  · rw [toggled_iff, presses_run_iff]
  · rw [activate_iff, presses_run_iff, MenuItem.contains_iff_only]
  · rw [frame_of_escape hkey]
    exact ⟨rfl, rfl⟩
  · obtain ⟨hfirst, hrest⟩ := List.forall_mem_cons.mp hheld
    exact answers_of_held ((d.frame_buttonDown first).trans hfirst) hrest

/-- A press on the start button that is held on, and one on the item that the menu then shows. -/
theorem menu_follows_presses_reboot :
    let start : PointerFrame := ⟨20, 460, true, none⟩
    let onItem : PointerFrame := ⟨20, 340, true, none⟩
    let d := ({} : Desktop).run [start, start, .resting]
    d.menuOpen = true ∧ (d.frame onItem).2 = .activate .reboot ∧
      (∀ p ∈ [onItem, start], p.pressed = true) ∧
      ∀ answer ∈ (d.frame onItem).1.answers [start], answer = .idle ∨ answer = .leave := by
  intro start onItem d
  have hheld : ∀ p ∈ [onItem, start], p.pressed = true := by decide
  have hpress : IsPress [start, start, .resting] onItem :=
    ⟨rfl, fun last h => by cases h; rfl, by decide⟩
  obtain ⟨hmenu, hframe, hrun⟩ := menu_follows_presses [start, start, .resting]
  have hopen : d.menuOpen = true := hmenu.mpr (by decide)
  obtain ⟨-, -, -, hactivate, -⟩ := hframe onItem
  refine ⟨hopen, (hactivate .reboot).mpr ⟨hpress, hopen, by decide, ?_⟩, hheld,
    hrun onItem [start] hheld⟩
  exact fun other => by cases other <;> decide

end Desktop

end ModalConsole
