import ModalConsole.Accounts

/-!
# What a login or a switch leads to

* `verify_eq_ok_iff`: nobody is refused, and root without its password. `verify_congr`: nothing
  else depends on the password.
* `login_eq_ok`, `switchTo_eq_ok`: the accounts after a request that is granted.
* `revert_snd`: going back swaps the two identities, also if they are equal.
-/

namespace ModalConsole.Accounts

variable {a b : Accounts} {password password' : String} {identity target : Identity}
  {credential : Option String} {outcome : Switch}

theorem verify_eq_ok_iff {u : Unit} : verify password identity credential = .ok u ↔
    identity ≠ .nobody ∧ (identity = .root → credential = some password) := by
  cases identity with
  | nobody => simp [verify]
  | user => simp [verify]
  | root => simp [verify]

theorem login_eq_ok (h : a.login password identity credential = .ok b) :
    identity ≠ .nobody ∧ (identity = .root → credential = some password) ∧
      b = ⟨identity, if a.current = .nobody then identity else a.current⟩ := by
  unfold login at h
  rcases hverify : verify password identity credential with e | u
  · rw [hverify] at h
    cases h
  · rw [hverify] at h
    obtain ⟨hidentity, hcredential⟩ := verify_eq_ok_iff.mp hverify
    exact ⟨hidentity, hcredential, (Except.ok.inj h).symm⟩

theorem switchTo_eq_ok (h : a.switchTo password target credential = .ok (outcome, b)) :
    (a.current = target ∧ outcome = .alreadyActive ∧ b = a) ∨
      (outcome = .switched a.current target ∧ target ≠ .nobody ∧
        (target = .root → credential = some password) ∧ b = ⟨target, a.current⟩) := by
  unfold switchTo at h
  split at h
  · rename_i hcurrent
    obtain ⟨rfl, rfl⟩ := Prod.mk.inj (Except.ok.inj h)
    exact Or.inl ⟨hcurrent, rfl, rfl⟩
  · rcases hverify : verify password target credential with e | u
    · rw [hverify] at h
      cases h
    · rw [hverify] at h
      obtain ⟨htarget, hcredential⟩ := verify_eq_ok_iff.mp hverify
      obtain ⟨rfl, rfl⟩ := Prod.mk.inj (Except.ok.inj h)
      exact Or.inr ⟨rfl, htarget, hcredential, rfl⟩

/-! ## Two passwords -/

/-- Of the password, only the comparison with the credential counts. -/
theorem verify_congr (h : credential = some password ↔ credential = some password') :
    verify password identity credential = verify password' identity credential := by
  cases identity with
  | nobody => rfl
  | user => rfl
  | root => simp only [verify, h]

theorem login_congr (h : credential = some password ↔ credential = some password') :
    a.login password identity credential = a.login password' identity credential := by
  rw [login, login, verify_congr h]

theorem switchTo_congr (h : credential = some password ↔ credential = some password') :
    a.switchTo password target credential = a.switchTo password' target credential := by
  rw [switchTo, switchTo, verify_congr h]

/-! ## Going back -/

theorem revert_snd (a : Accounts) : a.revert.2 = ⟨a.previous, a.current⟩ := by
  unfold revert
  split
  · rename_i h
    rcases a with ⟨current, previous⟩
    obtain rfl : current = previous := h
    rfl
  · rfl

end ModalConsole.Accounts
