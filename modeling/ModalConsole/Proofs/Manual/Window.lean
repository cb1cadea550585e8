import Mathlib.Tactic.SplitIfs
import ModalConsole.Manual.Pager

/-!
# The window of a pager

Scrolling and turning pages move the window over the pages. Wherever it comes to stand, it is on a
page, and it goes down the page only as far as there are lines to fill it.

* `PagerAction`, `Pager.act`, `Pager.after`: what can be done with a pager, and where that leads.
* `Pager.Shift`: the ways an action can move the window. `act_shifts`: every action goes one of
  these ways.
* `Pager.Framed`: the window lies within its page. `Framed.after`: so it is after any sequence of
  actions.
* `Framed.cuts_page`: such a window cuts its page into the lines above, in and below it.
* **`window_within_page`**: what is on screen after any sequence of actions, for all pages and
  sizes of the window.
-/

namespace ModalConsole

/-- What can be done with a pager. -/
inductive PagerAction where
  | openAt (topic : Option String)
  | press (key : Key)

namespace Pager

/-- The pager after an action. -/
def act (p : Pager) : PagerAction → Pager
  | .openAt topic => p.openAt topic
  | .press key => (p.press key).1

/-- The pager after a sequence of actions. -/
def after (p : Pager) (actions : List PagerAction) : Pager := actions.foldl act p

/-- The ways an action can move the window. -/
inductive Shift (p : Pager) : Pager → Prop
  /-- Only the mode changes. -/
  | stay (mode) : Shift p { p with mode := mode }
  | up : Shift p { p with scroll := p.scroll - 1 }
  | down (h : p.scroll < p.maxScroll) : Shift p { p with scroll := p.scroll + 1 }
  /-- The window goes to the top of a page. -/
  | toPage {page} (h : 0 < p.pages.length → page < p.pages.length) (mode) :
      Shift p { p with page := page, scroll := 0, mode := mode }

/-- The window is on a page, has a row, and goes down no farther than there are lines to fill it. -/
structure Framed (p : Pager) : Prop where
  page_lt : p.page < p.pages.length
  visible_pos : 0 < p.visible
  scroll_le : p.scroll ≤ p.maxScroll

variable {p q : Pager}

/-! ## Every action is a shift -/

theorem pageFor_lt {topic : String} {page : Nat} (h : p.pageFor topic = some page) :
    page < p.pages.length := by
  unfold pageFor at h
  exact (List.findIdx?_eq_some_iff_getElem.mp h).1

theorem openAt_shifts (p : Pager) (topic : Option String) : p.Shift (p.openAt topic) := by
  refine .toPage (fun hpages => ?_) .viewing
  cases htopic : topic.bind p.pageFor with
  | none => exact hpages
  | some page =>
    obtain ⟨name, -, hname⟩ := Option.bind_eq_some_iff.mp htopic
    exact pageFor_lt hname

theorem turn_shifts (p : Pager) (step : Int) : p.Shift (p.turn step) := by
  refine .toPage (fun hpages => ?_) p.mode
  have hnonneg : 0 ≤ (p.page + step) % (p.pages.length : Int) := Int.emod_nonneg _ (by omega)
  have hlt : (p.page + step) % (p.pages.length : Int) < p.pages.length :=
    Int.emod_lt_of_pos _ (by omega)
  omega

theorem viewKey_shifts (p : Pager) (key : Key) : p.Shift (p.viewKey key) := by
  have hstay := Shift.stay (p := p)
  unfold viewKey
  split
  · exact .up
  · split_ifs with h
    · exact .down h
    · exact hstay p.mode
  · exact p.turn_shifts (-1)
  · exact p.turn_shifts 1
  · split_ifs
    · exact hstay .locked
    · exact hstay (.typing [])
    · exact hstay .leaving
    · exact hstay p.mode

/-- Outside of viewing, a key changes at most the mode. -/
theorem press_of_not_viewing (hmode : p.mode ≠ .viewing) (key : Key) :
    ∃ mode, (p.press key).1 = { p with mode := mode } := by
  unfold press
  split
  · contradiction
  · rename_i buffer _
    unfold typeKey
    split
    · exact ⟨.viewing, rfl⟩
    · split_ifs
      · exact ⟨.leaving, rfl⟩
      · exact ⟨.typing [], rfl⟩
    · exact ⟨.typing buffer.dropLast, rfl⟩
    · exact ⟨.typing _, rfl⟩
    · exact ⟨p.mode, rfl⟩
  · split_ifs
    · exact ⟨.viewing, rfl⟩
    · exact ⟨p.mode, rfl⟩
  · exact ⟨.viewing, rfl⟩

theorem press_shifts (p : Pager) (key : Key) : p.Shift (p.press key).1 := by
  by_cases hmode : p.mode = .viewing
  · have hpress : (p.press key).1 = p.viewKey key := by
      unfold press
      rw [hmode]
    rw [hpress]
    exact p.viewKey_shifts key
  · obtain ⟨mode, hpress⟩ := press_of_not_viewing hmode key
    rw [hpress]
    exact .stay mode

/-- **Every action is a shift.** -/
theorem act_shifts (p : Pager) (action : PagerAction) : p.Shift (p.act action) := by
  cases action with
  | openAt topic => exact p.openAt_shifts topic
  | press key => exact p.press_shifts key

/-! ## What shifts keep -/

theorem Shift.same (h : p.Shift q) : q.pages = p.pages ∧ q.visible = p.visible := by
  cases h <;> exact ⟨rfl, rfl⟩

theorem Shift.framed (h : p.Shift q) (hp : p.Framed) : q.Framed := by
  obtain ⟨hpage, hvisible, hscroll⟩ := hp
  cases h with
  | stay mode => exact ⟨hpage, hvisible, hscroll⟩
  | up => exact ⟨hpage, hvisible, Nat.sub_le_of_le_add (Nat.le_add_right_of_le hscroll)⟩
  | down h => exact ⟨hpage, hvisible, h⟩
  | toPage h => exact ⟨h (by omega), hvisible, Nat.zero_le _⟩

theorem framed_ofPages (pages : List Page) (visible : Nat) : (ofPages pages visible).Framed := by
  refine ⟨?_, Nat.le_max_right _ _, Nat.zero_le _⟩
  cases pages with
  | nil => exact Nat.one_pos
  | cons page pages => exact Nat.succ_pos _

theorem Framed.after (h : p.Framed) (actions : List PagerAction) : (p.after actions).Framed := by
  induction actions generalizing p with
  | nil => exact h
  | cons action actions ih => exact ih ((p.act_shifts action).framed h)

theorem after_same (p : Pager) (actions : List PagerAction) :
    (p.after actions).pages = p.pages ∧ (p.after actions).visible = p.visible := by
  induction actions generalizing p with
  | nil => exact ⟨rfl, rfl⟩
  | cons action actions ih =>
    obtain ⟨hpages, hvisible⟩ := (p.act_shifts action).same
    obtain ⟨hpages', hvisible'⟩ := ih (p.act action)
    exact ⟨hpages'.trans hpages, hvisible'.trans hvisible⟩

/-! ## What is on screen -/

theorem modeLine_eq_none_iff {mode : PagerMode} : modeLine mode = none ↔ mode = .viewing := by
  cases mode <;> simp [modeLine]

theorem pageLines_of_getElem? {page : Page} (hpage : p.pages[p.page]? = some page) :
    p.pageLines = page.lines := by
  rw [pageLines, hpage]
  rfl

/-- What a pager shows of a page: the window takes the lines that follow the ones scrolled over, as
many as it has rows for, and leaves no row empty while there are lines above it; the line of the
mode stands under it. -/
structure Shows (p : Pager) (page : Page) (above window below : List String) : Prop where
  getElem_page : p.pages[p.page]? = some page
  scroll_le : p.scroll ≤ page.lines.length - p.visible
  lines_eq : page.lines = above ++ window ++ below
  length_above : above.length = p.scroll
  length_window : window.length = min p.visible page.lines.length
  full : above ≠ [] → window.length = p.visible
  render_eq : p.render = window ++ (modeLine p.mode).toList

/-- A window within its page cuts it into the lines above, in and below the window. -/
theorem Framed.shows (h : p.Framed) :
    ∃ page above window below, p.Shows page above window below := by
  obtain ⟨page, hpage⟩ : ∃ page, p.pages[p.page]? = some page :=
    ⟨_, List.getElem?_eq_getElem h.page_lt⟩
  have hlines : p.pageLines = page.lines := pageLines_of_getElem? hpage
  have hvisible := h.visible_pos
  have hscroll := h.scroll_le
  rw [maxScroll, hlines] at hscroll
  have hwindow : p.body.length = min p.visible page.lines.length := by
    rw [body, hlines, List.length_take, List.length_drop]
    omega
  have habove : (page.lines.take p.scroll).length = p.scroll := by
    rw [List.length_take]
    omega
  refine ⟨page, page.lines.take p.scroll, p.body, (page.lines.drop p.scroll).drop p.visible,
    hpage, hscroll, ?_, habove, hwindow, ?_, rfl⟩
  · rw [body, hlines, List.append_assoc, List.take_append_drop, List.take_append_drop]
  · intro hne
    have hpos := List.length_pos_iff.mpr hne
    omega

/-- **The window lies within its page.** Take any pages, none included, a window of any number of
rows, none included, and any sequence of openings and keys. The pages and the rows are as they were
given, or a blank page and one row in place of none. The pager is on one of the pages, and on screen
are exactly the lines of it from the scroll on, with one line of the mode under them except while
viewing. -/
theorem window_within_page (pages : List Page) (visible : Nat) (actions : List PagerAction) :
    let p := (ofPages pages visible).after actions
    p.pages = (if pages = [] then [⟨[], []⟩] else pages) ∧ p.visible = max visible 1 ∧
    (modeLine p.mode = none ↔ p.mode = .viewing) ∧
    ∃ page above window below, p.Shows page above window below := by
  intro p
  obtain ⟨hpages, hvisible⟩ := after_same (ofPages pages visible) actions
  have hframed : p.Framed := (framed_ofPages pages visible).after actions
  refine ⟨?_, hvisible, modeLine_eq_none_iff, hframed.shows⟩
  rw [show p.pages = _ from hpages, ofPages]
  cases pages <;> rfl

end Pager

end ModalConsole
