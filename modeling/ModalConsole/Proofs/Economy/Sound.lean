import ModalConsole.Proofs.Binary64.Order
import ModalConsole.Proofs.Economy.Record

/-!
# What every economy keeps

* `Sound`: the rules of an economy in play. Those of a record ask for a finite balance as well; in
  play it can grow to infinity, but never to NaN.
* `Deal`: what can be done with an economy, a store of any content included.
* **`Sound.deal_and_grown`**: every deal keeps the rules, and only reading a record lowers the base
  or the multiplier. `Sound.afterDeals`: so the rules hold after any sequence of deals.
* **`buy_eq_ok_iff`**: which purchases are granted, and what they lead to.
-/

namespace ModalConsole

open Text Binary64

/-! ## The shop -/

/-- The names of an upgrade. -/
def Upgrade.names (u : Upgrade) : List String := u.id :: u.aliases

/-- What an upgrade adds to the base or to the multiplier. -/
def Upgrade.Effect.amounts : Upgrade.Effect → List Binary64
  | .multiplier amount => [amount]
  | .base amount => [amount]
  | .both b m => [b, m]
  | .productKey => []

theorem Upgrade.isCalled_iff {u : Upgrade} {name : String} :
    u.isCalled name = true ↔ name ∈ u.names := by
  simp only [isCalled, names, Bool.or_eq_true, beq_iff_eq, List.contains_iff_mem, List.mem_cons]
  exact or_congr_left eq_comm

/-- No two upgrades share a name. -/
theorem eq_of_shared_name :
    ∀ u ∈ shopUpgrades, ∀ v ∈ shopUpgrades, ∀ name ∈ u.names, name ∈ v.names → u = v := by
  decide +kernel

/-- Prices are not negative. -/
theorem one_le_price : ∀ u ∈ shopUpgrades, one.le u.price = true := by
  decide +kernel

theorem amounts_small : ∀ u ∈ shopUpgrades, ∀ amount ∈ u.effect.amounts,
    one.le amount = true ∧ amount.le (ofNat 12) = true := by
  decide +kernel

theorem findUpgrade_eq_some_iff {typed : String} {u : Upgrade} :
    findUpgrade typed = some u ↔ u ∈ shopUpgrades ∧ trimmed typed ∈ u.names := by
  simp only [findUpgrade]
  constructor
  · intro h
    have hcalled := List.find?_some h
    exact ⟨List.mem_of_find?_eq_some h, Upgrade.isCalled_iff.mp hcalled⟩
  · rintro ⟨hmem, hname⟩
    cases hfound : shopUpgrades.find? (·.isCalled (trimmed typed)) with
    | none =>
      have hnone := List.find?_eq_none.mp hfound u hmem
      exact absurd (Upgrade.isCalled_iff.mpr hname) hnone
    | some v =>
      have hcalled := List.find?_some hfound
      rw [eq_of_shared_name u hmem v (List.mem_of_find?_eq_some hfound) _ hname
        (Upgrade.isCalled_iff.mp hcalled)]

namespace Economy

variable {e e' : Economy} {typed : String} {u : Upgrade}

/-- **A purchase is granted iff the typed id names an upgrade whose price is below the balance.**
The price is then taken from the balance, and the upgrade does what it does. -/
theorem buy_eq_ok_iff : e.buy typed = .ok (u, e') ↔
    (u ∈ shopUpgrades ∧ trimmed typed ∈ u.names) ∧ u.price.lt e.balance = true ∧
      e' = { e with balance := e.balance - u.price }.apply u.effect := by
  rw [← findUpgrade_eq_some_iff]
  simp only [buy, quote]
  cases hfound : findUpgrade typed with
  | none => simp [Except.map]
  | some v =>
    simp only
    split_ifs with hprice
    · simp only [Except.map, Except.ok.injEq, Prod.mk.injEq, Option.some.injEq]
      constructor
      · rintro ⟨rfl, rfl⟩
        exact ⟨rfl, hprice, rfl⟩
      · rintro ⟨rfl, -, rfl⟩
        exact ⟨rfl, rfl⟩
    · simp only [Except.map, reduceCtorEq, Option.some.injEq, false_iff]
      rintro ⟨rfl, h, -⟩
      exact hprice h

/-- No effect of an upgrade touches the balance. -/
@[simp] theorem apply_balance (e : Economy) (effect : Upgrade.Effect) :
    (e.apply effect).balance = e.balance := by
  cases effect <;> rfl

/-! ## The rules in play -/

/-- The rules of an economy in play. The first one also keeps NaN out, which is below nothing and
above nothing. -/
structure Sound (e : Economy) : Prop where
  balance : zero.le e.balance = true
  base_finite : e.base.isFinite = true
  base : one.le e.base = true
  multiplier_finite : e.multiplier.isFinite = true
  multiplier : one.le e.multiplier = true

theorem sound_of_isValid (h : e.isValid = true) : e.Sound := by
  obtain ⟨-, hbase_finite, hmultiplier_finite, hbalance, hbase, hmultiplier⟩ := isValid_iff.mp h
  exact ⟨hbalance, hbase_finite, hbase, hmultiplier_finite, hmultiplier⟩

theorem sound_initial : initial.Sound := sound_of_isValid isValid_initial

theorem Sound.isValid (h : e.Sound) (hfinite : e.balance.isFinite = true) : e.isValid = true :=
  isValid_iff.mpr
    ⟨hfinite, h.base_finite, h.multiplier_finite, h.balance, h.base, h.multiplier⟩

/-- The numbers of an economy are not lowered. -/
structure Grown (e e' : Economy) : Prop where
  base : e.base.le e'.base = true
  multiplier : e.multiplier.le e'.multiplier = true

theorem Sound.grown_self (h : e.Sound) : e.Grown e :=
  ⟨le_self_of_le h.base, le_self_of_le h.multiplier⟩

/-! ## Earning -/

theorem Sound.one_le_gain (h : e.Sound) : one.le e.gain = true := one_le_mul h.base h.multiplier

theorem Sound.le_credit (h : e.Sound) {amount : Binary64} (hamount : one.le amount = true) :
    e.balance.le (e.credit amount).balance = true := by
  obtain ⟨a, rfl, -⟩ := one_le_iff.mp hamount
  exact le_add_signed h.balance a

theorem Sound.credit (h : e.Sound) {amount : Binary64} (hamount : one.le amount = true) :
    (e.credit amount).Sound := by
  exact { h with balance := Binary64.le_trans h.balance (h.le_credit hamount) }

theorem Sound.earn (h : e.Sound) : e.earn.Sound := h.credit h.one_le_gain

theorem one_le_modMenuExtra : one.le modMenuExtra = true := by
  decide +kernel

theorem Sound.one_le_modMenuGain (h : e.Sound) : one.le e.modMenuGain = true := by
  obtain ⟨a, ha, -⟩ := one_le_iff.mp one_le_modMenuExtra
  have hgain : zero.le e.gain = true := Binary64.le_trans zero_le_one h.one_le_gain
  have hle : e.gain.le e.modMenuGain = true := by
    rw [modMenuGain, ha]
    exact le_add_signed hgain a
  exact Binary64.le_trans h.one_le_gain hle

theorem Sound.useModMenu (h : e.Sound) : e.useModMenu.Sound := h.credit h.one_le_modMenuGain

/-! ## Buying -/

/-- Raising a number by an amount of the shop. -/
theorem raise {x amount : Binary64} (hfinite : x.isFinite = true) (hx : one.le x = true)
    (hamount : one.le amount = true ∧ amount.le (ofNat 12) = true) :
    (x + amount).isFinite = true ∧ one.le (x + amount) = true ∧ x.le (x + amount) = true := by
  obtain ⟨a, rfl, -⟩ := one_le_iff.mp hx
  obtain ⟨b, rfl, -⟩ := one_le_iff.mp hamount.1
  have hle := le_add_signed (zero_le_signed a) b
  exact ⟨isFinite_add hfinite hamount.2, Binary64.le_trans hx hle, hle⟩

theorem Sound.apply (h : e.Sound) {effect : Upgrade.Effect}
    (heffect : ∀ amount ∈ effect.amounts, one.le amount = true ∧ amount.le (ofNat 12) = true) :
    (e.apply effect).Sound ∧ e.Grown (e.apply effect) := by
  have hself := h.grown_self
  cases effect with
  | multiplier amount =>
    obtain ⟨hfinite, hone, hle⟩ := raise h.multiplier_finite h.multiplier (heffect amount (by
      simp [Upgrade.Effect.amounts]))
    exact ⟨{ h with multiplier_finite := hfinite, multiplier := hone },
      { hself with multiplier := hle }⟩
  | base amount =>
    obtain ⟨hfinite, hone, hle⟩ := raise h.base_finite h.base (heffect amount (by
      simp [Upgrade.Effect.amounts]))
    exact ⟨{ h with base_finite := hfinite, base := hone }, { hself with base := hle }⟩
  | both b m =>
    obtain ⟨hfinite, hone, hle⟩ := raise h.base_finite h.base (heffect b (by
      simp [Upgrade.Effect.amounts]))
    obtain ⟨hfinite', hone', hle'⟩ := raise h.multiplier_finite h.multiplier (heffect m (by
      simp [Upgrade.Effect.amounts]))
    exact ⟨{ h with
      base_finite := hfinite
      base := hone
      multiplier_finite := hfinite'
      multiplier := hone' }, ⟨hle, hle'⟩⟩
  | productKey => exact ⟨h, hself⟩

theorem Sound.buy (h : e.Sound) (hbuy : e.buy typed = .ok (u, e')) : e'.Sound ∧ e.Grown e' := by
  obtain ⟨⟨hmem, -⟩, hprice, rfl⟩ := buy_eq_ok_iff.mp hbuy
  have hpaid : { e with balance := e.balance - u.price }.Sound := by
    obtain ⟨p, hp, -⟩ := one_le_iff.mp (one_le_price u hmem)
    rw [hp] at hprice ⊢
    exact { h with balance := zero_le_sub hprice }
  obtain ⟨hsound, hgrown⟩ := hpaid.apply (amounts_small u hmem)
  exact ⟨hsound, hgrown.base, hgrown.multiplier⟩

/-! ## Deals -/

/-- What can be done with an economy. -/
inductive Deal where
  | earn
  | useModMenu
  /-- Buying the upgrade with a typed id. -/
  | buy (typed : String)
  /-- Taking over the economy that a record stands for. -/
  | restore (text : String)
  | save (store : Store) (path : String)
  | load (store : Store) (path : String)

/-- Does a deal read a record? -/
def Deal.reads : Deal → Bool
  | restore _ | load _ _ => true
  | _ => false

/-- The economy after a deal. Saving hands its record to the store and keeps it. -/
def deal (e : Economy) : Deal → Economy
  | .earn => e.earn
  | .useModMenu => e.useModMenu
  | .buy typed => ((e.buy typed).map (·.2)).toOption.getD e
  | .restore text => ofRecord text
  | .save _ _ => e
  | .load store path => load store path

/-- The economy after a sequence of deals. -/
def afterDeals (e : Economy) (deals : List Deal) : Economy := deals.foldl deal e

theorem deal_buy_of_ok (h : e.buy typed = .ok (u, e')) : e.deal (.buy typed) = e' := by
  simp [deal, h, Except.map, Except.toOption]

theorem deal_buy_of_error {reason : PurchaseError} (h : e.buy typed = .error reason) :
    e.deal (.buy typed) = e := by
  simp [deal, h, Except.map, Except.toOption]

theorem isValid_load (store : Store) (path : String) : (load store path).isValid = true := by
  unfold load
  split
  · exact isValid_ofRecord _
  · exact isValid_initial

theorem Sound.deal_and_grown (h : e.Sound) (d : Deal) :
    (e.deal d).Sound ∧ (d.reads = true ∨ e.Grown (e.deal d)) := by
  have hself := h.grown_self
  cases d with
  | earn => exact ⟨h.earn, Or.inr ⟨hself.base, hself.multiplier⟩⟩
  | useModMenu => exact ⟨h.useModMenu, Or.inr ⟨hself.base, hself.multiplier⟩⟩
  | buy typed =>
    cases hbuy : e.buy typed with
    | error reason =>
      rw [deal_buy_of_error hbuy]
      exact ⟨h, Or.inr hself⟩
    | ok bought =>
      obtain ⟨hsound, hgrown⟩ := h.buy hbuy
      rw [deal_buy_of_ok hbuy]
      exact ⟨hsound, Or.inr hgrown⟩
  | restore text => exact ⟨sound_of_isValid (isValid_ofRecord text), Or.inl rfl⟩
  | save store path => exact ⟨h, Or.inr hself⟩
  | load store path => exact ⟨sound_of_isValid (isValid_load store path), Or.inl rfl⟩

theorem Sound.afterDeals (h : e.Sound) (deals : List Deal) : (e.afterDeals deals).Sound := by
  induction deals generalizing e with
  | nil => exact h
  | cons d deals ih => exact ih (h.deal_and_grown d).1

end Economy

end ModalConsole
