import ModalConsole.Proofs.Economy.Modest
import ModalConsole.Proofs.Session.Computer

/-!
# When savings are lost

What a session saves is loaded again if its balance is finite. An infinite balance is written down
like any other, and the record is refused when it is read.

* `Economy.load_save_cases`: what can be loaded after a save, refused ones included.
* `after_modest`: on a computer whose store holds no immodest record, nothing ever becomes immodest.
* **`valid_while_finite`**: when an economy that is reached can be saved and loaded, and that it
  always can where no immodest record was stored from outside.
* **`savings_lost`**: a stored record from which one earning leads to infinity.
-/

namespace ModalConsole

open Binary64

variable {store : Store} {path : String}

/-! ## Loading after a save -/

theorem Economy.load_of_written {e : Economy} (h : (e.save store path).2 = none) :
    Economy.load (e.save store path).1 path = if e.isValid then e else .initial := by
  have hread : (e.save store path).1.read path = .ok (some e.record) :=
    Store.read_of_write (Prod.ext rfl h)
  rw [load, hread]
  exact ofRecord_record e

/-- After a save, the economy that was saved is loaded, or the one that was loaded before, or a new
one. -/
theorem Economy.load_save_cases {e : Economy} (hvalid : e.isValid = true) :
    Economy.load (e.save store path).1 path = e ∨
      Economy.load (e.save store path).1 path = Economy.load store path ∨
      Economy.load (e.save store path).1 path = .initial := by
  cases hrefusal : (e.save store path).2 with
  | none =>
    left
    rw [load_of_written hrefusal, if_pos hvalid]
  | some refusal =>
    right
    have hwrite : store.write path e.record = ((e.save store path).1, some refusal) :=
      Prod.ext rfl hrefusal
    rcases Store.read_of_refused hwrite with hsame | hnone
    · left
      rw [load, hsame, load]
    · right
      unfold load
      split
      · rename_i text htext
        exact absurd htext (hnone text)
      · rfl

namespace Computer

variable {c : Computer} {event : Event}

/-! ## Modest computers -/

/-- The economy is modest, and so is the one that would be loaded. -/
structure Modest (c : Computer) : Prop where
  economy : c.session.economy.Modest
  stored : (Economy.load c.store c.session.settings.gameFile).Modest

theorem Modest.meet_economy (h : c.Modest) (event : Event) :
    (c.meet event).session.economy.Modest := by
  cases event with
  | step words now answer =>
    rcases (Session.step_moves c.session ⟨c.store, words, now⟩ answer).economy with
      hsame | ⟨d, hdeal, hreads⟩
    · rw [meet, hsame]
      exact h.economy
    · have hloads : d.reads = true → (c.session.economy.deal d).Modest := by
        intro hd
        have hload : (c.meet (.step words now answer)).session.economy = _ :=
          meet_of_loads (hreads hd)
        rw [← hdeal]
        exact hload ▸ h.stored
      rw [meet, hdeal]
      exact h.economy.deal hloads
  | restart now => exact Economy.modest_initial

theorem Modest.meet (h : c.Modest) (event : Event) : (c.meet event).Modest := by
  refine ⟨h.meet_economy event, ?_⟩
  rw [meet_settings]
  rcases meet_store_cases c event with hsame | ⟨-, hsaved⟩
  · rw [hsame]
    exact h.stored
  · rw [hsaved]
    rcases Economy.load_save_cases h.economy.isValid with hload | hload | hload
    · rw [hload]
      exact h.economy
    · rw [hload]
      exact h.stored
    · rw [hload]
      exact Economy.modest_initial

theorem Modest.after (h : c.Modest) (events : List Event) : (c.after events).Modest :=
  after_induction (fun _ event h => h.meet event) h events

/-! ## Saving and loading -/

/-- **Savings are lost by an overflow, and by nothing else.** On every computer that is reached from
a new session, with restarts, the economy is valid iff its balance is finite, and a deal keeps a
valid one valid iff it does not add up to infinity. What is saved is loaded if the balance is
finite, while a new economy is loaded if it is not. If the record that was in the store at the start
is modest, also because there was none, the economy is always valid. -/
theorem valid_while_finite (settings : Settings) (store : Store) (now : Timestamp)
    (events : List Event) :
    let c := (Computer.mk (.start settings now) store).after events
    let e := c.session.economy
    (e.isValid = true ↔ e.balance.isFinite = true) ∧
    (∀ (e : Economy) (d : Economy.Deal), e.isValid = true → ((e.deal d).isValid = true ↔
      ∀ amount ∈ e.credited d, (e.balance + amount).isFinite = true)) ∧
    (∀ save between load, c.Saves save → (e.save c.store settings.gameFile).2 = none →
      (c.meet save).NeverSaves between → ((c.meet save).after between).Loads load →
      (((c.meet save).after between).meet load).session.economy =
        if e.balance.isFinite then e else .initial) ∧
    ((Economy.load store settings.gameFile).Modest → e.isValid = true) := by
  intro c e
  have hsettings : c.session.settings = settings := after_settings _ events
  have hsound : e.Sound := after_sound Economy.sound_initial events
  have hiff := hsound.isValid_iff_isFinite
  refine ⟨hiff, fun e d hvalid => Economy.isValid_deal_iff hvalid d, ?_, ?_⟩
  · intro save between load hsave hwritten hbetween hload
    have hstore := meet_of_saves hsave
    rw [hsettings] at hstore
    rw [meet_of_loads hload, after_store hbetween, after_settings, meet_settings, hsettings, hstore,
      Economy.load_of_written hwritten]
    simp only [hiff]
  · intro hstored
    have hstart : (Computer.mk (.start settings now) store).Modest :=
      ⟨Economy.modest_initial, hstored⟩
    exact (hstart.after events).economy.isValid

/-- The record of an economy that keeps the rules, from which one earning leads to infinity. -/
def heavyRecord : String := "Coins:1e308\nGetCoinsValue:1e154\nGetCoinsMulti:1e154"

/-- **Savings that are lost.** A stored record is accepted, one blank line makes the balance
infinite, and the record that is then saved is refused when it is loaded. -/
theorem savings_lost :
    let rich := (Computer.mk (.start {} ⟨0, 0⟩) (.memory [("game1data.txt", heavyRecord)])).after
      (bootToGame ++ [typing "data load"])
    let richer := rich.meet (typing "")
    let saved := richer.meet (typing "data save")
    rich.session.economy.isValid = true ∧ richer.session.economy = rich.session.economy.earn ∧
      richer.session.economy.balance = .infinity false ∧
      richer.session.economy.isValid = false ∧
      saved.session.economy = richer.session.economy ∧
      (saved.meet (typing "data load")).session.economy = .initial := by
  intro rich richer saved
  have hinvalid : richer.session.economy.isValid = false := by decide +kernel
  have hsaves : richer.Saves (typing "data save") := by decide +kernel
  have hloads : saved.Loads (typing "data load") := by decide +kernel
  have hwritten : (richer.session.economy.save richer.store richer.session.settings.gameFile).2 =
      none := by
    decide +kernel
  refine ⟨by decide +kernel, by decide +kernel, by decide +kernel, hinvalid, by decide +kernel, ?_⟩
  rw [meet_of_loads hloads, meet_settings, meet_of_saves hsaves,
    Economy.load_of_written hwritten, hinvalid]
  rfl

end Computer

end ModalConsole
