import ModalConsole.Proofs.Manual.Arrows

/-!
# Every line can be brought on screen

A reader who wants to see a line goes back to viewing, turns to its page, and scrolls down until the
line is the last of the window or the page has no more lines to show. As the scroll may go on until
the last line is in the window, no line of any page is out of reach.

* `PagerMode.wayBack`, `Pager.routeTo`: the keys for it. None of them leaves the pager.
* `Pager.NeverLeaves`: no key of a sequence leaves. `neverLeaves_of_ne`: how to be sure of that.
* `pressAll_wayBack`, `Framed.pressAll_turns`, `Framed.pressAll_downs`: the three legs of the route.
* **`every_line_within_reach`**: where the route ends, from every pager that is reached.
-/

namespace ModalConsole

/-- The keys that lead back to viewing. -/
def PagerMode.wayBack : PagerMode → List Key
  | .viewing => []
  | .typing _ => [.escape]
  | .locked => [.char 'v']
  | .leaving => [.char 'n']

namespace Pager

variable {p : Pager} {keys : List Key}

/-- No key of the sequence leaves the pager. -/
def NeverLeaves (p : Pager) (keys : List Key) : Prop :=
  ∀ before key after, keys = before ++ key :: after →
    ((p.pressAll before).press key).2 ≠ .leave

/-- The keys that bring a line of a page on screen: back to viewing, once around the pages and on to
the page, and down until the line is in the window. -/
def routeTo (p : Pager) (page line : Nat) : List Key :=
  p.mode.wayBack ++ List.replicate (p.pages.length + page - p.page) .right ++
    List.replicate (line + 1 - p.visible) .down

/-- Who never says yes never leaves. -/
theorem neverLeaves_of_ne (h : ∀ key ∈ keys, key ≠ .char 'y' ∧ key ≠ .char 'Y') :
    p.NeverLeaves keys := by
  rintro before key after rfl hleave
  have hkey := h key (List.mem_append_right _ List.mem_cons_self)
  exact (press_eq_leave_iff.mp hleave).2.elim hkey.1 hkey.2

/-! ## The three legs of the route -/

theorem pressAll_wayBack (p : Pager) :
    p.pressAll p.mode.wayBack = { p with mode := .viewing } := by
  cases hmode : p.mode with
  | viewing =>
    show p = _
    rw [← hmode]
  | typing buffer =>
    show (p.press .escape).1 = _
    rw [press_of_typing hmode]
    rfl
  | locked =>
    show (p.press (.char 'v')).1 = _
    rw [press_of_locked hmode]
    rfl
  | leaving =>
    show (p.press (.char 'n')).1 = _
    rw [press_of_leaving hmode]

theorem isArrow_of_mem_replicate {key : Key} (hkey : key.isArrow = true) {n : Nat} :
    ∀ k ∈ List.replicate n key, k.isArrow = true := by
  intro k hk
  rwa [List.eq_of_mem_replicate hk]

/-- Turns that go once around the pages and on lead to the top of a page. -/
theorem Framed.pressAll_turns (h : p.Framed) (hmode : p.mode = .viewing) {page : Nat}
    (hpage : page < p.pages.length) :
    let q := p.pressAll (List.replicate (p.pages.length + page - p.page) .right)
    q.page = page ∧ q.scroll = 0 := by
  have hlt := h.page_lt
  obtain ⟨n, hn⟩ : ∃ n, p.pages.length + page - p.page = n + 1 :=
    ⟨p.pages.length + page - p.page - 1, by omega⟩
  have hkeys : ∀ key ∈ List.replicate (n + 1) Key.right, key.isArrow = true :=
    isArrow_of_mem_replicate rfl
  have hturns := h.page_pressAll hmode hkeys
  have hscroll := h.scroll_pressAll hmode hkeys
  rw [hn]
  constructor
  · have hcount : (List.replicate (n + 1) Key.right).count .left = 0 := by
      rw [List.count_replicate]
      rfl
    have hround : (p.page : Int) + (n + 1 : Nat) - (0 : Nat) = page + p.pages.length := by omega
    rw [List.count_replicate_self, hcount, hround, Int.add_emod_right,
      Int.emod_eq_of_lt (by omega) (by omega)] at hturns
    exact Int.ofNat_inj.mp hturns
  · -- the last key is a turn, and no step comes after it
    have hany : (List.replicate (n + 1) Key.right).any Key.turnsPage = true := by
      rw [List.replicate_succ]
      rfl
    have hsteps : (List.replicate (n + 1) Key.right).rtakeWhile (!·.turnsPage) = [] := by
      rw [List.replicate_succ']
      exact List.rtakeWhile_concat_neg _ _ _ Bool.false_ne_true
    rw [hany, hsteps] at hscroll
    exact Int.ofNat_inj.mp hscroll

/-- Steps down lead as far down the page as they can. -/
theorem Framed.pressAll_downs (h : p.Framed) (hmode : p.mode = .viewing) (n : Nat) :
    p.pressAll (List.replicate n .down) = { p with scroll := min (p.scroll + n) p.maxScroll } := by
  have hscroll := h.scroll_le
  induction n with
  | zero =>
    rw [Nat.add_zero, Nat.min_eq_left hscroll]
    rfl
  | succ n ih =>
    have hpress (line : Nat) : ({ p with scroll := line }.press .down).1 =
        { p with scroll := line }.viewKey .down :=
      congrArg Prod.fst (press_of_viewing (p := { p with scroll := line }) hmode .down)
    rw [List.replicate_succ', pressAll_concat, ih, hpress]
    by_cases hbelow : p.scroll + n < p.maxScroll
    · rw [Nat.min_eq_left (Nat.le_of_lt hbelow), Nat.min_eq_left (by omega)]
      exact if_pos hbelow
    · rw [Nat.min_eq_right (by omega), Nat.min_eq_right (by omega)]
      exact if_neg (Nat.lt_irrefl _)

/-! ## The whole route -/

/-- The keys of the route are no answers to the question whether to leave. -/
theorem ne_yes_of_mem_routeTo (p : Pager) (page line : Nat) :
    ∀ key ∈ p.routeTo page line, key ≠ .char 'y' ∧ key ≠ .char 'Y' := by
  intro key hkey
  rcases List.mem_append.mp hkey with hkey | hkey
  · rcases List.mem_append.mp hkey with hkey | hkey
    · cases hmode : p.mode <;> simp [PagerMode.wayBack, hmode] at hkey <;> simp [hkey]
    · rw [List.eq_of_mem_replicate hkey]
      exact ⟨nofun, nofun⟩
  · rw [List.eq_of_mem_replicate hkey]
    exact ⟨nofun, nofun⟩

/-- The end of the route. -/
theorem Framed.pressAll_routeTo (h : p.Framed) {page : Nat} (hpage : page < p.pages.length)
    (line : Nat) :
    let q := p.pressAll (p.routeTo page line)
    q.mode = .viewing ∧ q.page = page ∧ q.scroll = min (line + 1 - q.visible) q.maxScroll := by
  let v : Pager := { p with mode := .viewing }
  have hv : v.Framed := ⟨h.page_lt, h.visible_pos, h.scroll_le⟩
  let turned := v.pressAll (List.replicate (p.pages.length + page - p.page) .right)
  have hmode : turned.mode = .viewing := mode_pressAll rfl (isArrow_of_mem_replicate rfl)
  have hvisible : turned.visible = p.visible := (v.pressAll_same _).2
  obtain ⟨hturned, htop⟩ : turned.page = page ∧ turned.scroll = 0 := hv.pressAll_turns rfl hpage
  have hroute : p.pressAll (p.routeTo page line) =
      { turned with scroll := min (line + 1 - p.visible) turned.maxScroll } := by
    rw [routeTo, pressAll_append, pressAll_append, pressAll_wayBack]
    refine ((hv.pressAll _).pressAll_downs hmode _).trans ?_
    rw [htop, Nat.zero_add]
  rw [hroute]
  exact ⟨hmode, hturned, congrArg (min · _) (congrArg (line + 1 - ·) hvisible.symm)⟩

/-- **No line is out of reach.** Take any pages, a window of any number of rows, and any pager that
is reached from there, in whatever mode. For each line of each page there are keys, none of which
leaves the pager, that bring it on screen, in the row of the window that is as far from the top as
the line is from the first one shown. -/
theorem every_line_within_reach (pages : List Page) (visible : Nat) (actions : List PagerAction) :
    let p := (ofPages pages visible).after actions
    ∀ number page, pages[number]? = some page → ∀ (i : Nat) (line : String),
      page.lines[i]? = some line → ∃ keys, p.NeverLeaves keys ∧
        let q := p.pressAll keys
        q.page = number ∧ ∃ row, q.scroll + row = i ∧ q.body[row]? = some line ∧
          q.render[row]? = some line := by
  intro p number page hpage i line hline
  have hframed : p.Framed := (framed_ofPages pages visible).after actions
  obtain ⟨hpages, -⟩ := after_same (ofPages pages visible) actions
  have hgiven : p.pages = pages := by
    rw [hpages, pages_ofPages, if_neg]
    rintro rfl
    cases hpage
  have hnumber : number < p.pages.length := by
    rw [hgiven]
    exact (List.getElem?_eq_some_iff.mp hpage).1
  refine ⟨p.routeTo number i, neverLeaves_of_ne (p.ne_yes_of_mem_routeTo number i), ?_⟩
  intro q
  obtain ⟨hmode, hturned, hscroll⟩ : q.mode = .viewing ∧ q.page = number ∧
      q.scroll = min (i + 1 - q.visible) q.maxScroll := hframed.pressAll_routeTo hnumber i
  have hvisible : 0 < q.visible := (hframed.pressAll _).visible_pos
  have hlines : q.pageLines = page.lines := by
    apply pageLines_of_getElem?
    rw [hturned, (p.pressAll_same _).1, hgiven, hpage]
  have hi : i < page.lines.length := (List.getElem?_eq_some_iff.mp hline).1
  have hmax : q.maxScroll = page.lines.length - q.visible := by rw [maxScroll, hlines]
  -- the window begins at the line or above it, and ends at the line or below it
  have habove : q.scroll ≤ i := by omega
  have hbelow : i - q.scroll < q.visible := by omega
  have hbody : q.body[i - q.scroll]? = some line := by
    rw [body, hlines, List.getElem?_take_of_lt hbelow, List.getElem?_drop,
      Nat.add_sub_cancel' habove, hline]
  have hrender : q.render = q.body := by
    rw [render, hmode]
    exact List.append_nil _
  exact ⟨hturned, i - q.scroll, Nat.add_sub_cancel' habove, hbody, hrender ▸ hbody⟩

/-- The last line of a page that is longer than the window, from another page and behind a lock. -/
theorem every_line_within_reach_last :
    let long : Page := ⟨[], ["a", "b", "c"]⟩
    let p := (ofPages [long, ⟨[], []⟩] 2).after [.press .left, .press (.char 'v')]
    p.mode = .locked ∧ p.page = 1 ∧ [long, ⟨[], []⟩][0]? = some long ∧
      long.lines[2]? = some "c" ∧ ∃ keys, p.NeverLeaves keys ∧
        let q := p.pressAll keys
        q.page = 0 ∧ ∃ row, q.scroll + row = 2 ∧ q.body[row]? = some "c" ∧
          q.render[row]? = some "c" := by
  intro long p
  have hpage : [long, ⟨[], []⟩][0]? = some long := rfl
  have hline : long.lines[2]? = some "c" := rfl
  exact ⟨by decide, by decide, hpage, hline, every_line_within_reach _ 2
    [.press .left, .press (.char 'v')] 0 long hpage 2 "c" hline⟩

end Pager

end ModalConsole
