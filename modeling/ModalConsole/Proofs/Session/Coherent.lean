import ModalConsole.Proofs.Session.Accounts

/-!
# What the parts of a session have to do with each other

* `Fits`: what a mode takes for granted of the rest of the session.
* `Coherent`: the mode fits, somebody is logged in wherever a login is needed, and the manual
  leaves nothing behind. `Move.coherent`: every move keeps it, one part at a time.
* **`coherent_after`**: so every run from the start of a session does, and whoever has logged in
  is never nobody again.
-/

namespace ModalConsole

/-- Leaving the pager takes it back to viewing. -/
theorem Pager.mode_of_leave {p q : Pager} {key : Key} (h : p.press key = (q, .leave)) :
    q.mode = .viewing := by
  unfold press at h
  split at h
  · cases h
  · rename_i buffer hmode
    unfold typeKey at h
    split at h
    · cases h
    · split at h <;> cases h
    all_goals cases h
  · cases h
  · obtain rfl := (Prod.mk.inj h).1
    rfl

namespace Session

/-- What a mode takes for granted. -/
def Fits (s : Session) : Mode → Prop
  | .bootMenu selected => selected < BootTarget.menu.length
  | .loginPassword identity _ => identity = .root
  | .switchPassword target => target = .root ∧ s.accounts.current = .user
  | .productKey => s.activation.isActive = false
  | _ => True

/-- The parts of the session agree. -/
structure Coherent (s : Session) : Prop where
  fits : s.Fits s.mode
  /-- After the login, both identities are somebody. -/
  someone : s.mode.isBoot = false → s.accounts.current ≠ .nobody ∧ s.accounts.previous ≠ .nobody
  nobody : s.accounts.current = .nobody ↔ s.accounts.previous = .nobody
  /-- The manual is closed properly. -/
  closed : s.mode ≠ .manual → s.pager.mode = .viewing ∧ s.notice = none

theorem coherent_start (settings : Settings) (now : Timestamp) : (start settings now).Coherent where
  fits := Nat.zero_lt_succ 1
  someone := by simp [start, Mode.initial, Mode.isBoot]
  nobody := Iff.rfl
  closed := fun _ => ⟨rfl, rfl⟩

variable {s s' : Session} {w w' : World} {answer : Option Input} {request : Option PowerAction}
  {a : Accounts}

/-! ## The identities -/

theorem AccountsMove.current_ne_nobody (h : AccountsMove s answer a) (hs : s.Coherent)
    (hcurrent : s.accounts.current ≠ .nobody) : a.current ≠ .nobody := by
  cases h with
  | keep => exact hcurrent
  | login hmode hidentity hroot => exact hidentity
  | switch hmode htarget hroot => exact htarget
  | back => exact mt hs.nobody.mpr hcurrent

theorem AccountsMove.nobody_iff (h : AccountsMove s answer a) (hs : s.Coherent) :
    a.current = .nobody ↔ a.previous = .nobody := by
  cases h with
  | keep => exact hs.nobody
  | login hmode hidentity hroot =>
    split
    · rfl
    · simp [*]
  | switch hmode htarget hroot =>
    have hboot : s.mode.isBoot = false := by
      rcases hmode with ⟨name, line, ⟨hshell, -⟩, -⟩ | ⟨asked, hasked⟩
      · rw [hshell]
        rfl
      · rw [hasked]
        rfl
    simp [htarget, (hs.someone hboot).1]
  | back => exact hs.nobody.symm

/-- A login that is granted leads out of the boot with somebody logged in. -/
theorem Move.someone_of_boot (h : Move s w answer s' w' request) (hs : s.mode.isBoot = true)
    (hs' : s'.mode.isBoot = false) : s'.accounts.current ≠ .nobody := by
  cases h with
  | logIn hmode hname hlogin =>
    obtain ⟨hidentity, -, rfl⟩ := Accounts.login_eq_ok hlogin
    exact hidentity
  | logInWith hmode hlogin =>
    obtain ⟨hidentity, -, rfl⟩ := Accounts.login_eq_ok hlogin
    exact hidentity
  | stay =>
    rw [show s.prompted.mode = s.mode from rfl, hs] at hs'
    cases hs'
  | select | boot | askLogin => cases hs'
  -- the other modes come after the boot
  | _ => simp_all [Mode.isBoot]

/-! ## The mode -/

theorem Move.fits (h : Move s w answer s' w' request) (hs : s.Coherent) : s'.Fits s'.mode := by
  have hfits := hs.fits
  cases h with
  | stay => exact hfits
  | select hmode hn key => exact hn
  | askLogin => rfl
  | logIn hmode | logInWith hmode => cases ‹BootTarget› <;> trivial
  | visit hmode hline hvisit => rcases hvisit with rfl | rfl | rfl <;> trivial
  | askSwitch hmode hline hruns hcurrent =>
    have hsomeone := (hs.someone (by rw [hmode]; rfl)).1
    refine ⟨rfl, ?_⟩
    show s.accounts.current = .user
    cases hidentity : s.accounts.current with
    | user => rfl
    | nobody => exact absurd hidentity hsomeone
    | root => exact absurd hidentity hcurrent
  | askKey hmode hline hruns hkey => exact hkey
  -- the others lead to a mode that takes nothing for granted, or stay in one
  | boot | leaveRescue | leaveGame | leaveDesktop | closeManual | logOut | openManual | switchWith
  | cancelSwitch | redeem | cancelKey => trivial
  | _ => simp_all [Fits]

/-! ## The manual -/

theorem Move.closed (h : Move s w answer s' w' request) (hs : s.Coherent)
    (hmode' : s'.mode ≠ .manual) : s'.pager.mode = .viewing ∧ s'.notice = none := by
  cases h with
  | stay =>
    have hnotice := hs.closed hmode'
    rwa [prompted_of_ne (s := s) hmode']
  | turnPages hmode | note hmode => exact absurd hmode hmode'
  | openManual => exact absurd rfl hmode'
  | closeManual hmode hpress => exact ⟨Pager.mode_of_leave hpress, rfl⟩
  | _ => exact hs.closed (by simp [*])

/-! ## Steps and runs -/

/-- **A move keeps the parts of a session together.** -/
theorem Move.coherent (h : Move s w answer s' w' request) (hs : s.Coherent) : s'.Coherent where
  fits := h.fits hs
  nobody := h.accounts.nobody_iff hs
  someone := by
    intro hboot'
    have hcurrent : s'.accounts.current ≠ .nobody := by
      cases hboot : s.mode.isBoot with
      | true => exact h.someone_of_boot hboot hboot'
      | false => exact h.accounts.current_ne_nobody hs (hs.someone hboot).1
    exact ⟨hcurrent, mt (h.accounts.nobody_iff hs).mpr hcurrent⟩
  closed := h.closed hs

/-- **Every session that is reached is coherent**: in particular, the question for the password of
a switch is never answered by the message that the user is root already, and whoever has logged
in is never nobody again. -/
theorem coherent_after (settings : Settings) (now : Timestamp) (xs : List Encounter) :
    let s := (start settings now).after xs
    s.Coherent ∧
    (∀ target typed accounts, s.mode = .switchPassword target →
      s.accounts.switchTo settings.rootPassword target (some typed) ≠
        .ok (.alreadyActive, accounts)) ∧
    (s.accounts.current ≠ .nobody → ∀ ys, (s.after ys).accounts.current ≠ .nobody) := by
  intro s
  have step : ∀ (s : Session) (x : Encounter), s.Coherent → (s.meet x).session.Coherent :=
    fun s x => (step_moves s x.world x.answer).coherent
  have hs : s.Coherent := after_induction step (coherent_start settings now) xs
  refine ⟨hs, fun target typed accounts hmode hswitch => ?_, fun hcurrent ys => ?_⟩
  · have hfits := hs.fits
    rw [hmode] at hfits
    obtain ⟨rfl, huser⟩ := hfits
    rcases Accounts.switchTo_eq_ok hswitch with ⟨hroot, -, -⟩ | ⟨hswitched, -, -, -⟩
    · rw [huser] at hroot
      cases hroot
    · cases hswitched
  · have keep : ∀ (s : Session) (x : Encounter), s.Coherent ∧ s.accounts.current ≠ .nobody →
        (s.meet x).session.Coherent ∧ (s.meet x).session.accounts.current ≠ .nobody :=
      fun s x h => ⟨step s x h.1,
        (step_moves s x.world x.answer).accounts.current_ne_nobody h.1 h.2⟩
    exact (after_induction keep ⟨hs, hcurrent⟩ ys).2

end Session

end ModalConsole
