import ModalConsole.Proofs.Economy.Sound

/-!
# Economies that stay finite

An economy that keeps its rules can be written down and read again iff its balance is finite. What
is earned is added without a bound, so a balance close to the greatest number can be led over it.

* **`isValid_deal_iff`**: which deals keep an economy valid. Only a sum that reaches infinity does
  not.
* `Modest`: an economy whose numbers are small enough for the next amount to be lost in rounding
  before a bound is passed. `Modest.deal`: every deal keeps it modest, if what it reads is.
  `modest_initial`: a new economy is modest.
-/

namespace ModalConsole

open Text Binary64

namespace Economy

variable {e e' : Economy} {typed : String} {u : Upgrade}

/-! ## One deal -/

/-- An economy that keeps its rules is valid iff its balance is finite. -/
theorem Sound.isValid_iff_isFinite (h : e.Sound) :
    e.isValid = true ↔ e.balance.isFinite = true :=
  ⟨fun hvalid => (isValid_iff.mp hvalid).1, h.isValid⟩

/-- What a deal adds to the balance, if it adds anything. -/
def credited (e : Economy) : Deal → Option Binary64
  | .earn => some e.gain
  | .useModMenu => some e.modMenuGain
  | _ => none

/-- The balance that a purchase leaves is not greater than before. -/
theorem balance_buy_le (hfinite : e.balance.isFinite = true) (hbuy : e.buy typed = .ok (u, e')) :
    e'.balance.le e.balance = true := by
  obtain ⟨⟨hmem, -⟩, hprice, rfl⟩ := buy_eq_ok_iff.mp hbuy
  obtain ⟨p, hp, -⟩ := one_le_iff.mp (one_le_price u hmem)
  rw [apply_balance]
  rw [hp] at hprice ⊢
  exact sub_signed_le hfinite hprice

/-- **A deal keeps an economy valid unless it adds up to infinity.** -/
theorem isValid_deal_iff (h : e.isValid = true) (d : Deal) : (e.deal d).isValid = true ↔
    ∀ amount ∈ e.credited d, (e.balance + amount).isFinite = true := by
  have hsound := sound_of_isValid h
  have hfinite := hsound.isValid_iff_isFinite.mp h
  rw [(hsound.deal_and_grown d).1.isValid_iff_isFinite]
  cases d with
  | earn => simp [credited, deal, earn, credit]
  | useModMenu => simp [credited, deal, useModMenu, credit]
  | buy typed =>
    simp only [credited, Option.mem_def, reduceCtorEq, false_implies, implies_true, iff_true]
    cases hbuy : e.buy typed with
    | error reason =>
      rw [deal_buy_of_error hbuy]
      exact hfinite
    | ok bought =>
      rw [deal_buy_of_ok hbuy]
      exact isFinite_of_le (hsound.buy hbuy).1.balance (balance_buy_le hfinite hbuy) hfinite
  | restore text => simp [credited, deal, (isValid_iff.mp (isValid_ofRecord text)).1]
  | save store path => simp [credited, deal, hfinite]
  | load store path => simp [credited, deal, (isValid_iff.mp (isValid_load store path)).1]

/-! ## Modest economies -/

/-- The bound on the base and the multiplier. No amount of the shop leads above it: twelve is less
than half of the way to the next number, which is `2 ^ 57 + 32`. -/
def factorBound : Binary64 := .ofNat (Nat.pow 2 57)

/-- The bound on the balance. No gain leads above it: the greatest one is about `2 ^ 114`, and the
next number is `2 ^ 168 + 2 ^ 116`. -/
def balanceBound : Binary64 := .ofNat (Nat.pow 2 168)

/-- The most that a modest economy can gain at once. -/
def gainBound : Binary64 := factorBound * factorBound + modMenuExtra

/-- An economy that keeps its rules, with numbers below the bounds. -/
structure Modest (e : Economy) : Prop where
  sound : e.Sound
  balance : e.balance.le balanceBound = true
  base : e.base.le factorBound = true
  multiplier : e.multiplier.le factorBound = true

theorem factorBound_add : (factorBound + ofNat 12).le factorBound = true := by
  decide +kernel

theorem balanceBound_add : (balanceBound + gainBound).le balanceBound = true := by
  decide +kernel

theorem Modest.isValid (h : e.Modest) : e.isValid = true := by
  have hbound : balanceBound.isFinite = true := by decide +kernel
  exact h.sound.isValid (isFinite_of_le h.sound.balance h.balance hbound)

theorem modest_initial : initial.Modest where
  sound := sound_initial
  balance := by decide +kernel
  base := by decide +kernel
  multiplier := by decide +kernel

/-! ## Earning -/

theorem Modest.credit (h : e.Modest) {amount : Binary64} (hone : one.le amount = true)
    (hle : amount.le gainBound = true) : (e.credit amount).Modest where
  sound := h.sound.credit hone
  balance := Binary64.le_trans (add_mono h.sound.balance hone h.balance hle) balanceBound_add
  base := h.base
  multiplier := h.multiplier

theorem Modest.gain_le (h : e.Modest) : e.gain.le (factorBound * factorBound) = true :=
  mul_mono h.sound.base h.sound.multiplier h.base h.multiplier

theorem Modest.earn (h : e.Modest) : e.earn.Modest := by
  have hbound : (factorBound * factorBound).le gainBound = true := by decide +kernel
  exact h.credit h.sound.one_le_gain (Binary64.le_trans h.gain_le hbound)

theorem Modest.useModMenu (h : e.Modest) : e.useModMenu.Modest := by
  have hgain : zero.le e.gain = true := Binary64.le_trans zero_le_one h.sound.one_le_gain
  exact h.credit h.sound.one_le_modMenuGain
    (add_mono hgain one_le_modMenuExtra h.gain_le (le_self_of_le one_le_modMenuExtra))

/-! ## Buying -/

theorem apply_base_cases (e : Economy) (effect : Upgrade.Effect) :
    (e.apply effect).base = e.base ∨
      ∃ amount ∈ effect.amounts, (e.apply effect).base = e.base + amount := by
  cases effect with
  | multiplier amount | productKey => exact Or.inl rfl
  | base amount => exact Or.inr ⟨amount, by simp [Upgrade.Effect.amounts], rfl⟩
  | both b m => exact Or.inr ⟨b, by simp [Upgrade.Effect.amounts], rfl⟩

theorem apply_multiplier_cases (e : Economy) (effect : Upgrade.Effect) :
    (e.apply effect).multiplier = e.multiplier ∨
      ∃ amount ∈ effect.amounts, (e.apply effect).multiplier = e.multiplier + amount := by
  cases effect with
  | base amount | productKey => exact Or.inl rfl
  | multiplier amount => exact Or.inr ⟨amount, by simp [Upgrade.Effect.amounts], rfl⟩
  | both b m => exact Or.inr ⟨m, by simp [Upgrade.Effect.amounts], rfl⟩

/-- A number below the bound stays there when it is raised by an amount of the shop. -/
theorem le_factorBound {x x' : Binary64} {amounts : List Binary64} (hone : one.le x = true)
    (hle : x.le factorBound = true)
    (hsmall : ∀ amount ∈ amounts, one.le amount = true ∧ amount.le (ofNat 12) = true)
    (h : x' = x ∨ ∃ amount ∈ amounts, x' = x + amount) : x'.le factorBound = true := by
  rcases h with rfl | ⟨amount, hmem, rfl⟩
  · exact hle
  · obtain ⟨hamount, htwelve⟩ := hsmall amount hmem
    have hx : zero.le x = true := Binary64.le_trans zero_le_one hone
    exact Binary64.le_trans (add_mono hx hamount hle htwelve) factorBound_add

theorem Modest.buy (h : e.Modest) (hbuy : e.buy typed = .ok (u, e')) : e'.Modest := by
  have hsound := (h.sound.buy hbuy).1
  have hfinite := h.sound.isValid_iff_isFinite.mp h.isValid
  have hbalance := Binary64.le_trans (balance_buy_le hfinite hbuy) h.balance
  obtain ⟨⟨hmem, -⟩, -, rfl⟩ := buy_eq_ok_iff.mp hbuy
  have hsmall := amounts_small u hmem
  exact ⟨hsound, hbalance,
    le_factorBound h.sound.base h.base hsmall (apply_base_cases _ u.effect),
    le_factorBound h.sound.multiplier h.multiplier hsmall (apply_multiplier_cases _ u.effect)⟩

/-- **Every deal keeps an economy modest, if what it reads is.** -/
theorem Modest.deal (h : e.Modest) {d : Deal} (hreads : d.reads = true → (e.deal d).Modest) :
    (e.deal d).Modest := by
  cases d with
  | earn => exact h.earn
  | useModMenu => exact h.useModMenu
  | buy typed =>
    cases hbuy : e.buy typed with
    | error reason =>
      rw [deal_buy_of_error hbuy]
      exact h
    | ok bought =>
      rw [deal_buy_of_ok hbuy]
      exact h.buy hbuy
  | save store path => exact h
  | restore text | load store path => exact hreads rfl

end Economy

end ModalConsole
