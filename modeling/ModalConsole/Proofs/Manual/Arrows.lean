import Mathlib.Data.List.DropRight
import Mathlib.Data.List.Induction
import ModalConsole.Proofs.Manual.Window
import ModalConsole.Proofs.Manual.Leaving

/-!
# Arrow keys

While a pager is viewed, two of the arrows turn pages and two scroll. Turns only add up, but a
scroll stops at both ends of its page, so its steps do not: which lines are on screen depends on the
order of the keys since the last turn, and on nothing before.

* `Key.isArrow`, `Key.turnsPage`: the arrows, and those of them that turn.
* `Pager.scrolled`, `Pager.scrolledAll`: steps along a page that stop at its ends.
* `page_pressAll`, `scroll_pressAll`: the page and the first line after any sequence of arrows.
* **`arrows_turn_and_scroll`**: both, for every pager that is reached.
-/

namespace ModalConsole

/-- Is it one of the four arrows? -/
def Key.isArrow : Key → Bool
  | .up | .down | .left | .right => true
  | _ => false

/-- Is it one of the arrows that turn pages? -/
def Key.turnsPage : Key → Bool
  | .left | .right => true
  | _ => false

theorem Key.isArrow_cases {key : Key} (h : key.isArrow = true) :
    key = .up ∨ key = .down ∨ key = .left ∨ key = .right := by
  cases key <;> simp [isArrow] at h ⊢

namespace Pager

variable {p : Pager} {key : Key} {keys : List Key}

/-! ## Steps along a page -/

/-- One step up or down, kept between zero and a bound. -/
def scrolled (bound line : Int) : Key → Int
  | .up => max 0 (min bound (line - 1))
  | .down => max 0 (min bound (line + 1))
  | _ => line

/-- One step after the other. -/
def scrolledAll (bound line : Int) (keys : List Key) : Int := keys.foldl (scrolled bound) line

theorem scrolledAll_concat (bound line : Int) (keys : List Key) (key : Key) :
    scrolledAll bound line (keys ++ [key]) = scrolled bound (scrolledAll bound line keys) key := by
  simp only [scrolledAll, List.foldl_append, List.foldl_cons, List.foldl_nil]

/-! ## One arrow -/

theorem press_of_arrow (hmode : p.mode = .viewing) (hkey : key.isArrow = true) :
    p.press key = (p.viewKey key, .stay) ∧ (p.viewKey key).mode = .viewing := by
  refine ⟨press_of_viewing hmode key, ?_⟩
  rw [mode_viewKey]
  obtain rfl | rfl | rfl | rfl := Key.isArrow_cases hkey <;> exact hmode

theorem Framed.page_emod (h : p.Framed) : (p.page : Int) % p.pages.length = p.page :=
  Int.emod_eq_of_lt (Int.natCast_nonneg _) (Int.ofNat_lt.mpr h.page_lt)

/-- Turning goes round: after the last page comes the first. -/
theorem Framed.turn_page (h : p.Framed) (step : Int) :
    ((p.turn step).page : Int) = (p.page + step) % p.pages.length := by
  have hpages := h.page_lt
  exact Int.toNat_of_nonneg (Int.emod_nonneg _ (by omega))

/-- An arrow that scrolls takes one step along the page. -/
theorem Framed.viewKey_of_scroll (h : p.Framed) (hkey : key.isArrow = true)
    (hturn : key.turnsPage = false) : ∃ scroll : Nat,
      p.viewKey key = { p with scroll := scroll } ∧
      (scroll : Int) = scrolled p.maxScroll p.scroll key := by
  have hscroll := h.scroll_le
  obtain rfl | rfl | rfl | rfl := Key.isArrow_cases hkey
  · refine ⟨p.scroll - 1, rfl, ?_⟩
    rw [scrolled]
    omega
  · by_cases hbelow : p.scroll < p.maxScroll
    · refine ⟨p.scroll + 1, if_pos hbelow, ?_⟩
      rw [scrolled]
      omega
    · refine ⟨p.scroll, if_neg hbelow, ?_⟩
      rw [scrolled]
      omega
  · cases hturn
  · cases hturn

/-- An arrow counts for the page if it turns. -/
theorem Framed.viewKey_page (h : p.Framed) (hkey : key.isArrow = true) :
    ((p.viewKey key).page : Int) =
      (p.page + [key].count .right - [key].count .left) % p.pages.length := by
  obtain rfl | rfl | rfl | rfl := Key.isArrow_cases hkey
  · exact h.page_emod.symm
  · obtain ⟨scroll, hview, -⟩ := h.viewKey_of_scroll hkey rfl
    rw [hview]
    exact h.page_emod.symm
  · exact h.turn_page (-1)
  · exact (h.turn_page 1).trans (congrArg (· % _) (Int.sub_zero _).symm)

theorem viewKey_scroll_of_turn (p : Pager) (hturn : key.turnsPage = true) :
    (p.viewKey key).scroll = 0 := by
  cases key with
  | left | right => rfl
  | _ => cases hturn

/-! ## Sequences of arrows -/

theorem pressAll_eq_after (p : Pager) (keys : List Key) :
    p.pressAll keys = p.after (keys.map .press) := by
  rw [after, List.foldl_map]
  rfl

theorem Framed.pressAll (h : p.Framed) (keys : List Key) : (p.pressAll keys).Framed := by
  rw [pressAll_eq_after]
  exact h.after _

theorem pressAll_same (p : Pager) (keys : List Key) :
    (p.pressAll keys).pages = p.pages ∧ (p.pressAll keys).visible = p.visible := by
  rw [pressAll_eq_after]
  exact p.after_same _

theorem mode_pressAll (hmode : p.mode = .viewing) (hkeys : ∀ key ∈ keys, key.isArrow = true) :
    (p.pressAll keys).mode = .viewing := by
  induction keys using List.reverseRecOn with
  | nil => exact hmode
  | append_singleton keys key ih =>
    obtain ⟨hbefore, hlast⟩ := List.forall_mem_append.mp hkeys
    obtain ⟨hpress, hstill⟩ := press_of_arrow (ih hbefore) (hlast key List.mem_cons_self)
    rw [pressAll_concat, hpress]
    exact hstill

/-- One more arrow. -/
theorem pressAll_concat_arrow (hmode : p.mode = .viewing)
    (hkeys : ∀ k ∈ keys ++ [key], k.isArrow = true) :
    p.pressAll (keys ++ [key]) = (p.pressAll keys).viewKey key := by
  obtain ⟨hbefore, hlast⟩ := List.forall_mem_append.mp hkeys
  have hpress := press_of_arrow (mode_pressAll hmode hbefore) (hlast key List.mem_cons_self)
  rw [pressAll_concat, hpress.1]

/-- **Turns add up**, around the pages. -/
theorem Framed.page_pressAll (h : p.Framed) (hmode : p.mode = .viewing)
    (hkeys : ∀ key ∈ keys, key.isArrow = true) : ((p.pressAll keys).page : Int) =
      (p.page + keys.count .right - keys.count .left) % p.pages.length := by
  induction keys using List.reverseRecOn with
  | nil => exact (h.page_emod.symm.trans (congrArg (· % _) (Int.add_zero _).symm))
  | append_singleton keys key ih =>
    obtain ⟨hbefore, hlast⟩ := List.forall_mem_append.mp hkeys
    have hone := (h.pressAll keys).viewKey_page (hlast key List.mem_cons_self)
    rw [(p.pressAll_same keys).1, ih hbefore, Int.sub_eq_add_neg, Int.add_assoc,
      Int.emod_add_emod] at hone
    rw [pressAll_concat_arrow hmode hkeys, hone, List.count_append, List.count_append]
    congr 1
    omega

/-- **Scrolling starts again with every turn**, and stops at both ends of the page. -/
theorem Framed.scroll_pressAll (h : p.Framed) (hmode : p.mode = .viewing)
    (hkeys : ∀ key ∈ keys, key.isArrow = true) : ((p.pressAll keys).scroll : Int) =
      scrolledAll (p.pressAll keys).maxScroll (if keys.any Key.turnsPage then 0 else p.scroll)
        (keys.rtakeWhile (!·.turnsPage)) := by
  induction keys using List.reverseRecOn with
  | nil => rfl
  | append_singleton keys key ih =>
    obtain ⟨hbefore, hlast⟩ := List.forall_mem_append.mp hkeys
    have hkey := hlast key List.mem_cons_self
    rw [pressAll_concat_arrow hmode hkeys, List.any_append, List.rtakeWhile_concat]
    cases hturn : key.turnsPage with
    | true =>
      rw [viewKey_scroll_of_turn _ hturn]
      simp [hturn, scrolledAll]
    | false =>
      obtain ⟨scroll, hview, hscroll⟩ := (h.pressAll keys).viewKey_of_scroll hkey hturn
      have hbound : ((p.pressAll keys).viewKey key).maxScroll = (p.pressAll keys).maxScroll := by
        rw [hview]
        rfl
      have hany : [key].any Key.turnsPage = false := by simp [hturn]
      rw [hbound, hview, hany, Bool.or_false, Bool.not_false, if_pos rfl, scrolledAll_concat,
        ← ih hbefore]
      exact hscroll

/-! ## Pagers that are reached -/

theorem pages_ofPages (pages : List Page) (visible : Nat) :
    (ofPages pages visible).pages = if pages = [] then [⟨[], []⟩] else pages := by
  cases pages <;> rfl

/-- **Arrows turn and scroll.** Take any pages, none included, a window of any number of rows, and
any pager that is reached from there and is being viewed. After any sequence of arrows it is still
viewed. The turns have led round the pages. The steps since the last turn have led along the page
that was reached, from its top or, without a turn, from where the window stood. -/
theorem arrows_turn_and_scroll (pages : List Page) (visible : Nat) (actions : List PagerAction)
    (keys : List Key) :
    let p := (ofPages pages visible).after actions
    let q := p.pressAll keys
    p.mode = .viewing → (∀ key ∈ keys, key.isArrow = true) → q.mode = .viewing ∧
      (q.page : Int) =
        (p.page + keys.count .right - keys.count .left) % (max 1 pages.length : Nat) ∧
      ∃ page, (if pages = [] then [⟨[], []⟩] else pages)[q.page]? = some page ∧
        (q.scroll : Int) =
          scrolledAll (max 0 ((page.lines.length : Int) - (max 1 visible : Nat)))
            (if keys.any Key.turnsPage then 0 else p.scroll) (keys.rtakeWhile (!·.turnsPage)) := by
  intro p q hmode hkeys
  have hframed : p.Framed := (framed_ofPages pages visible).after actions
  obtain ⟨hpages, hvisible⟩ := after_same (ofPages pages visible) actions
  obtain ⟨hpages', hvisible'⟩ := p.pressAll_same keys
  have hlength : p.pages.length = max 1 pages.length := by
    rw [hpages, pages_ofPages]
    cases pages with
    | nil => rfl
    | cons page pages => exact (Nat.max_eq_right (Nat.succ_pos _)).symm
  obtain ⟨page, hpage⟩ : ∃ page, q.pages[q.page]? = some page :=
    ⟨_, List.getElem?_eq_getElem (hframed.pressAll keys).page_lt⟩
  have hbound : (q.maxScroll : Int) =
      max 0 ((page.lines.length : Int) - (max 1 visible : Nat)) := by
    have hrows : q.visible = max visible 1 := hvisible'.trans hvisible
    rw [maxScroll, pageLines_of_getElem? hpage, hrows]
    omega
  refine ⟨mode_pressAll hmode hkeys, hlength ▸ hframed.page_pressAll hmode hkeys, page, ?_, ?_⟩
  · rw [← pages_ofPages pages visible, ← hpages, ← hpages']
    exact hpage
  · rw [← hbound]
    exact hframed.scroll_pressAll hmode hkeys

/-- Keys that stop at an end do not undo each other: down, up and up again, then down, end one line
below the top, though as many keys went up as down. -/
theorem arrows_turn_and_scroll_clamped :
    let pages : List Page := [⟨[], ["a", "b"]⟩, ⟨[], ["c", "d", "e"]⟩]
    let p := (ofPages pages 1).after [.press .down]
    let keys : List Key := [.left, .down, .up, .up, .down]
    p.mode = .viewing ∧ (∀ key ∈ keys, key.isArrow = true) ∧
      (p.pressAll keys).mode = .viewing ∧ (p.pressAll keys).page = 1 ∧
      (p.pressAll keys).scroll = 1 := by
  intro pages p keys
  have hmode : p.mode = .viewing := by decide
  have hkeys : ∀ key ∈ keys, key.isArrow = true := by decide
  obtain ⟨hstill, hpage, page, hfound, hscroll⟩ :=
    arrows_turn_and_scroll pages 1 [.press .down] keys hmode hkeys
  have hone : (p.pressAll keys).page = 1 := by
    have hcount : ((p.page : Int) + keys.count .right - keys.count .left) %
        (max 1 pages.length : Nat) = 1 := by decide
    exact Int.ofNat_inj.mp (hpage.trans hcount)
  have hpage' : page = ⟨[], ["c", "d", "e"]⟩ := by
    rw [show ((ofPages pages 1).after [.press .down]).pressAll keys = p.pressAll keys from rfl,
      hone] at hfound
    exact (Option.some.inj hfound).symm
  refine ⟨hmode, hkeys, hstill, hone, Int.ofNat_inj.mp (hscroll.trans ?_)⟩
  subst hpage'
  decide

end Pager

end ModalConsole
