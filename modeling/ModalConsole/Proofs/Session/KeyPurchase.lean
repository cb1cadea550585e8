import ModalConsole.Proofs.ProductKey
import ModalConsole.Proofs.Session.Economy

/-!
# Product keys and what is paid for them

* `Activation.Genuine`: the key in use is one that was accepted or generated. `genuine_after`: it is
  in every session that is reached.
* `AcceptsKey`: an attempt to buy the product key of the shop is answered as successful.
  `acceptsKey_iff`: when it is. `meet_of_acceptsKey`, `meet_of_not_acceptsKey`: what it leaves.
* `Move.balance`: the balance falls by nothing but the price of a purchase and loading.
* **`key_paid_once`**: a line at the game changes the key exactly if it buys one, which takes a
  system without a key, and is paid for once.
-/

namespace ModalConsole

open Text

/-! ## The key that is shown -/

namespace Activation

variable {a : Activation}

/-- The key in use was accepted or has the shape of a generated one. -/
def Genuine (a : Activation) : Prop :=
  ∀ key, a.key = some key → key ∈ acceptedKeys ∨ hasKeyShape key = true

theorem genuine_none : Genuine ⟨none⟩ := nofun

theorem genuine_some {key : String} (h : key ∈ acceptedKeys ∨ hasKeyShape key = true) :
    Genuine ⟨some key⟩ := by
  rintro _ ⟨⟩
  exact h

theorem isActive_eq_false_iff : a.isActive = false ↔ a.key = none :=
  Option.isSome_eq_false_iff.trans Option.isNone_iff_eq_none

/-- What is shown is the word for a missing key exactly if there is none. -/
theorem Genuine.isActive_iff (h : a.Genuine) : a.isActive = true ↔ a.shownKey ≠ "none" := by
  have hword : "none" ∉ acceptedKeys ∧ hasKeyShape "none" = false := by decide
  rcases a with ⟨_ | key⟩
  · simp [isActive, shownKey]
  · simp only [isActive, shownKey, Option.isSome_some, Option.getD_some, true_iff]
    rintro rfl
    rcases h _ rfl with haccepted | hshape
    · exact hword.1 haccepted
    · rw [hword.2] at hshape
      cases hshape

theorem Genuine.shownKey_cases (h : a.Genuine) : a.shownKey = "none" ∨
    a.shownKey ∈ acceptedKeys ∨ hasKeyShape a.shownKey = true := by
  rcases a with ⟨_ | key⟩
  · exact Or.inl rfl
  · exact Or.inr (h key rfl)

end Activation

/-! ## The product key of the shop -/

/-- The entry of the shop that grants a product key. -/
theorem keyUpgrade_eq : ∀ u ∈ shopUpgrades, u.effect = .productKey →
    u.names = ["6", "key"] ∧ u.price = .ofNat 20000 := by
  decide +kernel

namespace Session

variable {s s' : Session} {w w' : World} {answer : Option Input} {request : Option PowerAction}

theorem isKeyUpgrade_iff_find {typed : String} : isKeyUpgrade typed = true ↔
    ∃ u, findUpgrade typed = some u ∧ u.effect = .productKey := by
  unfold isKeyUpgrade
  cases findUpgrade typed with
  | none => simp
  | some u => simp

theorem isKeyUpgrade_iff {typed : String} :
    isKeyUpgrade typed = true ↔ trimmed typed = "6" ∨ trimmed typed = "key" := by
  simp only [isKeyUpgrade_iff_find, findUpgrade_eq_some_iff]
  constructor
  · rintro ⟨u, ⟨hmem, hname⟩, hu⟩
    rw [(keyUpgrade_eq u hmem hu).1] at hname
    simpa using hname
  · have hshop : ∃ u ∈ shopUpgrades, u.effect = .productKey := by decide +kernel
    obtain ⟨u, hmem, hu⟩ := hshop
    intro hname
    refine ⟨u, ⟨hmem, ?_⟩, hu⟩
    rw [(keyUpgrade_eq u hmem hu).1]
    simpa using hname

/-- The product key is bought with a balance above its price, and only costs that. -/
theorem buy_key {e : Economy} {id : String} (h : isKeyUpgrade id = true) :
    ∃ u, u.effect = .productKey ∧
      e.buy id = if (Binary64.ofNat 20000).lt e.balance then
        .ok (u, { e with balance := e.balance - .ofNat 20000 })
      else .error (.insufficientFunds (.ofNat 20000) e.balance) := by
  obtain ⟨u, hfound, hu⟩ := isKeyUpgrade_iff_find.mp h
  have hprice := (keyUpgrade_eq u (findUpgrade_eq_some_iff.mp hfound).1 hu).2
  refine ⟨u, hu, ?_⟩
  simp only [Economy.buy, Economy.quote, hfound, hprice]
  split
  · simp [Except.map, hu, hprice, Economy.apply]
  · rfl

/-! ## Keys over a run -/

theorem Move.genuine (h : Move s w answer s' w' request) (hs : s.activation.Genuine) :
    s'.activation.Genuine := by
  cases h with
  | redeem hmode hredeem =>
    obtain ⟨haccepted, rfl⟩ := Activation.redeem_eq_activated hredeem
    exact Activation.genuine_some (Or.inl haccepted)
  | deactivate hmode hline hruns hkey =>
    rw [Activation.deactivate_eq_ok hkey]
    exact Activation.genuine_none
  | unlock hmode hline hruns hkey hunlock | buyKey _ _ _ _ _ _ _ hunlock =>
    obtain ⟨hgenerated, rfl⟩ := Activation.unlock_eq hunlock
    exact Activation.genuine_some (Or.inr hgenerated.hasKeyShape)
  | _ => exact hs

theorem genuine_after (settings : Settings) (now : Timestamp) (xs : List Encounter) :
    ((start settings now).after xs).activation.Genuine :=
  after_induction (I := fun s => s.activation.Genuine)
    (fun s x h => (step_moves s x.world x.answer).genuine h) Activation.genuine_none xs

/-! ## Buying the key -/

/-- Is the product key of the shop asked for, and the answer that the purchase was successful? -/
def AcceptsKey (s : Session) (x : Encounter) : Prop :=
  s.BuysKey x.answer ∧ Effect.line "Successful!" <+: (s.meet x).effects

theorem step_of_buysKey (w : World) (h : s.BuysKey answer) :
    ∃ id, isKeyUpgrade id = true ∧ s.step w answer = s.buyUpgrade w id := by
  obtain ⟨line, id, ⟨hmode, typed, rfl, hline⟩, hhead, harg, hkey⟩ := h
  have hmod : id ≠ "mod" := by
    rintro rfl
    exact absurd hkey (by decide +kernel)
  refine ⟨id, hkey, ?_⟩
  rw [step_game hmode, gameLine, hline]
  simp [runGameCommand, hhead, harg, buy, hmod]

/-- The session after buying a key. -/
def withBoughtKey (s : Session) (key : String) : Session :=
  { s with
    economy := { s.economy with balance := s.economy.balance - .ofNat 20000 }
    activation := ⟨some key⟩ }

/-- The system has no key, and the balance is above the price of one. -/
structure CanBuyKey (s : Session) : Prop where
  key : s.activation.key = none
  funds : (Binary64.ofNat 20000).lt s.economy.balance = true

theorem buyUpgrade_of_canBuyKey {id : String} (hid : isKeyUpgrade id = true) (h : s.CanBuyKey) :
    ∃ key words, IsGenerated key ∧
      s.buyUpgrade w id = (s.withBoughtKey key).say { w with words := words }
        (Effect.lines ["Successful!", "Your product key is: " ++ key]) := by
  obtain ⟨u, hu, hbuy⟩ := buy_key (e := s.economy) hid
  rw [if_pos h.funds] at hbuy
  have hactive := Activation.isActive_eq_false_iff.mpr h.key
  rcases hunlock : Activation.unlock w.words with ⟨key, activation, words⟩
  obtain ⟨hgenerated, rfl⟩ := Activation.unlock_eq hunlock
  refine ⟨key, words, hgenerated, ?_⟩
  simp only [buyUpgrade, hactive, Bool.and_false, Bool.false_eq_true, if_false, hbuy, handOver, hu,
    if_true, hunlock]
  rfl

/-- Without a purchase, the answer is red and nothing changes. -/
theorem buyUpgrade_of_not_canBuyKey {id : String} (hid : isKeyUpgrade id = true)
    (h : ¬ s.CanBuyKey) :
    ∃ message, s.buyUpgrade w id = s.say w (Effect.coloredLine .red message) := by
  obtain ⟨u, hu, hbuy⟩ := buy_key (e := s.economy) hid
  unfold buyUpgrade
  by_cases hactive : s.activation.isActive = true
  · rw [hid, hactive]
    exact ⟨_, rfl⟩
  · have hkey := Activation.isActive_eq_false_iff.mp (Bool.not_eq_true _ ▸ hactive)
    rw [if_neg fun hfunds => h ⟨hkey, hfunds⟩] at hbuy
    simp only [hactive, Bool.and_false, Bool.false_eq_true, if_false, hbuy]
    exact ⟨_, rfl⟩

/-- **When the purchase of a key is accepted.** -/
theorem acceptsKey_iff {x : Encounter} :
    s.AcceptsKey x ↔ s.BuysKey x.answer ∧ s.CanBuyKey := by
  refine and_congr_right fun hbuys => ?_
  obtain ⟨id, hid, hstep⟩ := step_of_buysKey x.world hbuys
  rw [meet, hstep]
  by_cases hcan : s.CanBuyKey
  · obtain ⟨key, words, -, hturn⟩ := buyUpgrade_of_canBuyKey (w := x.world) hid hcan
    rw [hturn]
    exact iff_of_true ⟨_, rfl⟩ hcan
  · obtain ⟨message, hturn⟩ := buyUpgrade_of_not_canBuyKey (w := x.world) hid hcan
    rw [hturn]
    refine iff_of_false ?_ hcan
    rintro ⟨rest, hrest⟩
    cases hrest

/-- **The key and the economy after an accepted purchase.** -/
theorem meet_of_acceptsKey {x : Encounter} (h : s.AcceptsKey x) :
    ∃ key, IsGenerated key ∧ (s.meet x).session = s.withBoughtKey key := by
  obtain ⟨hbuys, hcan⟩ := acceptsKey_iff.mp h
  obtain ⟨id, hid, hstep⟩ := step_of_buysKey x.world hbuys
  obtain ⟨key, words, hgenerated, hturn⟩ := buyUpgrade_of_canBuyKey (w := x.world) hid hcan
  refine ⟨key, hgenerated, ?_⟩
  rw [meet, hstep, hturn]
  rfl

/-- A key that is asked for and not handed over is not paid for either. -/
theorem meet_of_not_acceptsKey {x : Encounter} (hbuys : s.BuysKey x.answer)
    (h : ¬ s.AcceptsKey x) : (s.meet x).session = s := by
  obtain ⟨id, hid, hstep⟩ := step_of_buysKey x.world hbuys
  obtain ⟨message, hturn⟩ := buyUpgrade_of_not_canBuyKey (w := x.world) hid
    fun hcan => h (acceptsKey_iff.mpr ⟨hbuys, hcan⟩)
  rw [meet, hstep, hturn]
  rfl

/-! ## The balance -/

/-- Is a purchase granted at the game, its price being what the balance falls by? -/
def Spends (s : Session) (answer : Option Input) (s' : Session) : Prop :=
  ∃ line id u economy, s.Types .game answer line ∧ line.head = "buy" ∧ line.arg? 0 = some id ∧
    s.economy.buy id = .ok (u, economy) ∧ s'.economy.balance = s.economy.balance - u.price

/-- The balance falls by nothing but a purchase and loading. -/
theorem Move.balance (h : Move s w answer s' w' request) (hs : s.economy.Sound) :
    s.economy.balance.le s'.economy.balance = true ∨ s.Spends answer s' ∨ s.LoadsGame answer := by
  cases h with
  | earn => exact Or.inl (hs.le_credit hs.one_le_gain)
  | useModMenu => exact Or.inl (hs.le_credit hs.one_le_modMenuGain)
  | load hmode hline hhead harg =>
    exact Or.inr (Or.inr ⟨_, ⟨hmode, _, rfl, hline⟩, hhead, harg⟩)
  | buy hmode hline hhead harg hbuy | buyKey hmode hline hhead harg hbuy =>
    obtain ⟨-, -, rfl⟩ := Economy.buy_eq_ok_iff.mp hbuy
    exact Or.inr (Or.inl ⟨_, _, _, _, ⟨hmode, _, rfl, hline⟩, hhead, harg, hbuy,
      Economy.apply_balance _ _⟩)
  | _ => exact Or.inl (Binary64.le_self_of_le hs.balance)

/-! ## Lines at the game -/

/-- What a line at the game has to do with the product key and with the balance. -/
structure PaysOnce (s : Session) (x : Encounter) : Prop where
  changes : (s.meet x).session.activation ≠ s.activation ↔ s.AcceptsKey x
  accepts : s.AcceptsKey x ↔ s.BuysKey x.answer ∧ s.activation.key = none ∧
    (Binary64.ofNat 20000).lt s.economy.balance = true
  pays : s.AcceptsKey x →
    (s.meet x).session.economy = { s.economy with balance := s.economy.balance - .ofNat 20000 } ∧
    ∃ key, (s.meet x).session.activation.key = some key ∧ hasKeyShape key = true
  /-- While there is a key, no other one takes its place or is paid for. -/
  keeps : s.activation.isActive = true → (s.meet x).session.activation = s.activation ∧
    (s.BuysKey x.answer → (s.meet x).session.economy = s.economy)
  falls : s.economy.balance.le (s.meet x).session.economy.balance = true ∨
    s.Spends x.answer (s.meet x).session ∨ s.LoadsGame x.answer

theorem changes_iff (hmode : s.mode = .game) (x : Encounter) :
    (s.meet x).session.activation ≠ s.activation ↔ s.AcceptsKey x := by
  constructor
  · intro hchange
    by_contra haccepts
    -- at the game, only an attempt to buy a key can touch it
    rcases (step_moves s x.world x.answer).activation_frame with htouches | hsame
    · rcases htouches with hkey | ⟨line, ⟨hshell, -⟩, -⟩ | hbuys
      · rw [hmode] at hkey
        cases hkey
      · rw [hmode] at hshell
        cases hshell
      · rw [meet_of_not_acceptsKey hbuys haccepts] at hchange
        exact hchange rfl
    · exact hchange hsame
  · intro haccepts hsame
    obtain ⟨key, -, hturn⟩ := meet_of_acceptsKey haccepts
    have hkey := (acceptsKey_iff.mp haccepts).2.key
    rw [hturn] at hsame
    rw [← hsame] at hkey
    cases hkey

theorem paysOnce (hmode : s.mode = .game) (hs : s.economy.Sound) (x : Encounter) :
    s.PaysOnce x where
  changes := changes_iff hmode x
  accepts := acceptsKey_iff.trans (and_congr_right fun _ =>
    ⟨fun hcan => ⟨hcan.key, hcan.funds⟩, fun hcan => ⟨hcan.1, hcan.2⟩⟩)
  pays := by
    intro haccepts
    obtain ⟨key, hgenerated, hturn⟩ := meet_of_acceptsKey haccepts
    rw [hturn]
    exact ⟨rfl, key, rfl, hgenerated.hasKeyShape⟩
  keeps := by
    intro hactive
    have haccepts : ¬ s.AcceptsKey x := by
      intro haccepts
      rw [Activation.isActive_eq_false_iff.mpr (acceptsKey_iff.mp haccepts).2.key] at hactive
      cases hactive
    refine ⟨not_ne_iff.mp (mt (changes_iff hmode x).mp haccepts), fun hbuys => ?_⟩
    rw [meet_of_not_acceptsKey hbuys haccepts]
  falls := (step_moves s x.world x.answer).balance hs

/-- **A key is paid for once.** In every session that is reached, the key that is shown is an
accepted one, one of the shape of those that are generated, or the word for none, and the system
is activated unless it is that word. A line at the game, or whatever else is read there, changes
the key exactly if it buys the one of the shop and the purchase is accepted. -/
theorem key_paid_once :
    (∀ id, isKeyUpgrade id = true ↔ trimmed id = "6" ∨ trimmed id = "key") ∧
    ∀ (settings : Settings) (now : Timestamp) (xs : List Encounter),
      let s := (start settings now).after xs
      (s.activation.shownKey = "none" ∨ s.activation.shownKey ∈ acceptedKeys ∨
        hasKeyShape s.activation.shownKey = true) ∧
      (s.activation.isActive = true ↔ s.activation.shownKey ≠ "none") ∧
      (s.mode = .game → ∀ x, s.PaysOnce x) := by
  refine ⟨fun id => isKeyUpgrade_iff, fun settings now xs => ?_⟩
  intro s
  have hgenuine : s.activation.Genuine := genuine_after settings now xs
  have hsound : s.economy.Sound := sound_after settings now xs
  exact ⟨hgenuine.shownKey_cases, hgenuine.isActive_iff, fun hmode => paysOnce hmode hsound⟩

end Session

end ModalConsole
