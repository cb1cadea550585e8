import ModalConsole.Proofs.Economy.Sound
import ModalConsole.Proofs.Session.Frame

/-!
# The economy of a session

* `Move.economy`: a step makes at most one deal, and reads a record only by the command to load.
  `exists_afterDeals`: so a run is a sequence of deals for its economy.
* `Economy.InPlay`: what holds of an economy in play. `Economy.Sound.inPlay`: it follows from its
  rules.
* **`economy_in_play`**: it holds after any sequence of deals, and in every session that is
  reached.
-/

namespace ModalConsole

open Text

/-! ## Economies in play -/

/-- What holds of an economy in play, whatever has been done with it before. -/
structure Economy.InPlay (e : Economy) : Prop where
  balance : e.balance ≠ .nan ∧ e.balance.lt .zero = false
  base : e.base.isFinite = true ∧ Binary64.one.le e.base = true
  multiplier : e.multiplier.isFinite = true ∧ Binary64.one.le e.multiplier = true
  /-- A purchase is granted iff the typed text names an upgrade and the balance is above the
  price. -/
  grants : ∀ typed, (∃ bought, e.buy typed = .ok bought) ↔ ∃ u ∈ shopUpgrades,
    (trimmed typed = u.id ∨ trimmed typed ∈ u.aliases) ∧ u.price.lt e.balance = true
  /-- What is bought is the upgrade that is named, at its price. -/
  pays : ∀ typed u e', e.buy typed = .ok (u, e') →
    u ∈ shopUpgrades ∧ (trimmed typed = u.id ∨ trimmed typed ∈ u.aliases) ∧
      e'.balance = e.balance - u.price
  refused : ∀ typed reason, e.buy typed = .error reason → e.deal (.buy typed) = e
  saved : ∀ store path, e.deal (.save store path) = e
  grown : ∀ d : Economy.Deal, d.reads = true ∨ e.Grown (e.deal d)

theorem Economy.Sound.inPlay {e : Economy} (h : e.Sound) : e.InPlay where
  balance := Binary64.zero_le_iff_not_lt.mp h.balance
  base := ⟨h.base_finite, h.base⟩
  multiplier := ⟨h.multiplier_finite, h.multiplier⟩
  grants := by
    intro typed
    constructor
    · rintro ⟨⟨u, e'⟩, hbuy⟩
      obtain ⟨⟨hmem, hname⟩, hprice, -⟩ := Economy.buy_eq_ok_iff.mp hbuy
      exact ⟨u, hmem, List.mem_cons.mp hname, hprice⟩
    · rintro ⟨u, hmem, hname, hprice⟩
      exact ⟨_, Economy.buy_eq_ok_iff.mpr ⟨⟨hmem, List.mem_cons.mpr hname⟩, hprice, rfl⟩⟩
  pays := by
    intro typed u e' hbuy
    obtain ⟨⟨hmem, hname⟩, -, rfl⟩ := Economy.buy_eq_ok_iff.mp hbuy
    exact ⟨hmem, List.mem_cons.mp hname, Economy.apply_balance _ _⟩
  refused := fun _ _ => Economy.deal_buy_of_error
  saved := fun _ _ => rfl
  grown := fun d => (h.deal_and_grown d).2

namespace Session

variable {s s' : Session} {w w' : World} {answer : Option Input} {request : Option PowerAction}

/-! ## Saving and loading -/

/-- Is the game loaded? -/
def LoadsGame (s : Session) (answer : Option Input) : Prop :=
  ∃ line, s.Types .game answer line ∧ line.head = "data" ∧ line.arg? 0 = some "load"

theorem step_of_saves (w : World) (h : s.SavesGame answer) : s.step w answer = s.saveGame w := by
  obtain ⟨line, ⟨hmode, typed, rfl, hline⟩, hhead, harg⟩ := h
  rw [step_game hmode, gameLine, hline]
  simp [runGameCommand, gameData, hhead, harg]

theorem step_of_loads (w : World) (h : s.LoadsGame answer) : s.step w answer = s.loadGame w := by
  obtain ⟨line, ⟨hmode, typed, rfl, hline⟩, hhead, harg⟩ := h
  rw [step_game hmode, gameLine, hline]
  simp [runGameCommand, gameData, hhead, harg]

/-! ## Deals -/

/-- A step makes at most one deal. -/
theorem Move.economy (h : Move s w answer s' w' request) : s'.economy = s.economy ∨
    ∃ d : Economy.Deal, s'.economy = s.economy.deal d ∧ (d.reads = true → s.LoadsGame answer) := by
  cases h with
  | earn => exact Or.inr ⟨.earn, rfl, fun hreads => nomatch hreads⟩
  | useModMenu => exact Or.inr ⟨.useModMenu, rfl, fun hreads => nomatch hreads⟩
  | load hmode hline hhead harg =>
    exact Or.inr ⟨.load w.store s.settings.gameFile, rfl,
      fun _ => ⟨_, ⟨hmode, _, rfl, hline⟩, hhead, harg⟩⟩
  | buy hmode hline hhead harg hbuy | buyKey hmode hline hhead harg hbuy =>
    exact Or.inr ⟨.buy _, (Economy.deal_buy_of_ok hbuy).symm, fun hreads => nomatch hreads⟩
  | _ => exact Or.inl rfl

/-- For its economy, a run is a sequence of deals. -/
theorem exists_afterDeals (s : Session) (xs : List Encounter) :
    ∃ deals, (s.after xs).economy = s.economy.afterDeals deals := by
  have step : ∀ (s' : Session) (x : Encounter),
      (∃ deals, s'.economy = s.economy.afterDeals deals) →
        ∃ deals, (s'.meet x).session.economy = s.economy.afterDeals deals := by
    rintro s' x ⟨deals, hdeals⟩
    rcases (step_moves s' x.world x.answer).economy with hsame | ⟨d, hdeal, -⟩
    · exact ⟨deals, hsame.trans hdeals⟩
    · refine ⟨deals ++ [d], hdeal.trans ?_⟩
      rw [hdeals, Economy.afterDeals, Economy.afterDeals, List.foldl_append]
      rfl
  exact after_induction step ⟨[], rfl⟩ xs

theorem sound_after (settings : Settings) (now : Timestamp) (xs : List Encounter) :
    ((start settings now).after xs).economy.Sound := by
  obtain ⟨deals, hdeals⟩ := exists_afterDeals (start settings now) xs
  rw [hdeals]
  exact Economy.sound_initial.afterDeals deals

/-- **Economies in play.** After any sequence of deals and in every session that is reached, the
balance is a number that is not negative, the base and the multiplier are finite and at least one,
and what can be bought depends on the name and the balance alone. What is refused or saved changes
nothing, and the base and the multiplier are lowered by nothing but reading a record, in a session
by loading. -/
theorem economy_in_play :
    (∀ deals, (Economy.initial.afterDeals deals).InPlay) ∧
    ∀ (settings : Settings) (now : Timestamp) (xs : List Encounter),
      let s := (start settings now).after xs
      s.economy.InPlay ∧ ∀ x,
        (s.LoadsGame x.answer ∨ s.economy.Grown (s.meet x).session.economy) ∧
        (s.Refuses x.answer ∨ s.SavesGame x.answer →
          (s.meet x).session.economy = s.economy) := by
  refine ⟨fun deals => (Economy.sound_initial.afterDeals deals).inPlay, fun settings now xs => ?_⟩
  intro s
  have hsound : s.economy.Sound := sound_after settings now xs
  refine ⟨hsound.inPlay, fun x => ⟨?_, ?_⟩⟩
  · rw [meet]
    rcases (step_moves s x.world x.answer).economy with hsame | ⟨d, hdeal, hreads⟩
    · rw [hsame]
      exact Or.inr hsound.grown_self
    · rw [hdeal]
      exact ((hsound.deal_and_grown d).2).imp_left hreads
  · rintro (hrefuses | hsaves)
    · obtain ⟨effects, hstep⟩ := step_of_refuses x.world hrefuses
      rw [meet, hstep]
      rfl
    · rw [meet, step_of_saves x.world hsaves]
      rfl

end Session

end ModalConsole
