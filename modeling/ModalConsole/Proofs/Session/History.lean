import ModalConsole.Proofs.Session.Coherent

/-!
# Where the previous identity comes from

One rule relates the two identities of a session, whichever way they are changed.

* `Grants`: the steps that grant a change, with one constructor for each way: a login as the user or
  as root, a switch to the user, the question for the password of a switch, and a switch back.
* `step_of_grants`: what is granted follows the rule of `Grant.apply`.
  `Move.accounts_of_not_granted`: whatever is not granted changes neither identity.
* `after_or_lastGrant`: so the identities after a run are those of its last grant.
* `after_of_onlyBack`: switches back undo each other.
* **`accounts_follow_grants`**: the three together, from the start of a session.
-/

namespace ModalConsole

open Text

/-- A change of identity that is granted. -/
inductive Grant where
  | login (identity : Identity)
  /-- A switch to another identity, right away or after the question for its password. -/
  | switch (target : Identity)
  /-- A switch back to the previous identity. -/
  | back
  deriving DecidableEq

/-- The accounts after a switch back. -/
def Accounts.swap (a : Accounts) : Accounts := ⟨a.previous, a.current⟩

@[simp] theorem Accounts.swap_swap (a : Accounts) : a.swap.swap = a := rfl

namespace Grant

/-- The identity that a grant leads to. -/
def identity (a : Accounts) : Grant → Identity
  | login identity => identity
  | switch target => target
  | back => a.previous

/-- The accounts after a grant: the previous identity is the one that was current right before it,
but the new one if that was nobody. -/
def apply (g : Grant) (a : Accounts) : Accounts :=
  ⟨g.identity a, if a.current = .nobody then g.identity a else a.current⟩

end Grant

theorem Identity.ofName_eq_user_iff {typed : String} :
    ofName typed = .ok user ↔ trimmed typed = "user" := by
  unfold ofName
  simp only
  split_ifs with hroot huser
  · simp [hroot]
  · simp [huser]
  · simp [huser]

namespace Session

/-- The step grants a change of identity. -/
inductive Grants (s : Session) (answer : Option Input) : Grant → Prop
  | login {target : BootTarget} {typed : String} (hmode : s.mode = .loginName target)
      (hanswer : answer = some (.line typed)) (hname : trimmed typed = "user") :
      Grants s answer (.login .user)
  /-- The password of root is read at a login. -/
  | loginRoot {identity : Identity} {target : BootTarget}
      (hmode : s.mode = .loginPassword identity target)
      (hanswer : answer = some (.line s.settings.rootPassword)) : Grants s answer (.login .root)
  | switch {name : String} (htypes : s.TypesSwitch answer name) (hname : trimmed name = "user")
      (hcurrent : s.accounts.current ≠ .user) : Grants s answer (.switch .user)
  /-- The password of root is read at the question for it. -/
  | switchRoot {target : Identity} (hmode : s.mode = .switchPassword target)
      (hanswer : answer = some (.line s.settings.rootPassword)) : Grants s answer (.switch .root)
  | back (htypes : s.TypesSwitch answer "prv")
      (hprevious : s.accounts.current ≠ s.accounts.previous) : Grants s answer .back

/-- Some change of identity is granted. -/
def Granted (s : Session) (answer : Option Input) : Prop := ∃ g, s.Grants answer g

variable {s s' : Session} {w w' : World} {answer : Option Input} {request : Option PowerAction}
  {g : Grant}

/-! ## What is granted -/

theorem TypesSwitch.mode_eq {name : String} (h : s.TypesSwitch answer name) : s.mode = .shell := by
  obtain ⟨line, ⟨hmode, -⟩, -⟩ := h
  exact hmode

theorem step_of_typesSwitch {name : String} (w : World) (h : s.TypesSwitch answer name) :
    s.step w answer = s.switchUser w (some name) := by
  obtain ⟨line, ⟨hmode, typed, rfl, hline⟩, hhead, harg⟩ := h
  have hnames : line.head ∈ Builtin.names .su := by
    rw [hhead]
    decide
  have hruns : line.Runs s.accounts.current .su :=
    (CommandLine.runs_iff (commandOf_eq_some_iff.mp hline).2).mpr ⟨hnames, Nat.zero_le _⟩
  obtain ⟨spec, hspec, haction⟩ := hruns
  rw [step_shell hmode, shellLine, hline]
  simp only [runCommand, hspec, haction, runBuiltin, harg]

/-- After the boot, somebody is current, so the exception of the rule does not apply. -/
theorem Coherent.apply_eq (h : s.Coherent) (hboot : s.mode.isBoot = false) (g : Grant) :
    g.apply s.accounts = ⟨g.identity s.accounts, s.accounts.current⟩ := by
  rw [Grant.apply, if_neg (h.someone hboot).1]

/-- **What is granted follows the rule.** -/
theorem step_of_grants (hs : s.Coherent) (h : s.Grants answer g) (w : World) :
    (s.step w answer).session.accounts = g.apply s.accounts := by
  have hfits := hs.fits
  cases h with
  | login hmode hanswer hname =>
    subst hanswer
    rw [step_eq_respond hmode (by simp), respond, respondLine, hmode]
    simp only [nameLine, Identity.ofName_eq_user_iff.mpr hname]
    rfl
  | loginRoot hmode hanswer =>
    subst hanswer
    -- only root is asked for a password
    rw [hmode] at hfits
    obtain rfl := hfits
    rw [step_eq_respond hmode (by simp), respond, respondLine, hmode]
    simp only [logIn, Accounts.login, Accounts.verify, if_true]
    rfl
  | switch htypes hname hcurrent =>
    rw [hs.apply_eq (by rw [htypes.mode_eq]; rfl), step_of_typesSwitch w htypes]
    have hprv : ∀ name, trimmed name = "user" → name ≠ "prv" := by
      rintro name hname rfl
      exact absurd hname (by decide)
    rw [switchUser, if_neg (hprv _ hname), switchTo]
    simp only [Identity.ofName_eq_user_iff.mpr hname]
    rw [if_neg (Ne.symm hcurrent), Accounts.switchTo, if_neg hcurrent]
    rfl
  | switchRoot hmode hanswer =>
    subst hanswer
    rw [hs.apply_eq (by rw [hmode]; rfl)]
    rw [hmode] at hfits
    obtain ⟨rfl, huser⟩ := hfits
    rw [step_eq_respond hmode (by simp), respond, respondLine, hmode]
    have hcurrent : s.accounts.current ≠ .root := by simp [huser]
    simp only [switchPasswordLine, Accounts.switchTo, if_neg hcurrent, Accounts.verify, if_true]
    rfl
  | back htypes hprevious =>
    rw [hs.apply_eq (by rw [htypes.mode_eq]; rfl), step_of_typesSwitch w htypes]
    rw [switchUser, if_pos rfl, switchBack, Accounts.revert, if_neg hprevious]
    rfl

/-- Nobody's shell takes no commands, so nobody can only log in. -/
theorem Grants.login_of_nobody (h : s.Grants answer g) (hs : s.Coherent)
    (hnobody : s.accounts.current = .nobody) : ∃ identity, g = .login identity := by
  have hlogin : s.mode.isBoot = true := by
    by_contra hboot
    exact (hs.someone (by simpa using hboot)).1 hnobody
  cases h with
  | login => exact ⟨_, rfl⟩
  | loginRoot => exact ⟨_, rfl⟩
  | switch htypes | back htypes =>
    rw [htypes.mode_eq] at hlogin
    cases hlogin
  | switchRoot hmode =>
    rw [hmode] at hlogin
    cases hlogin

/-! ## What is not granted -/

/-- **What is not granted changes neither identity.** -/
theorem Move.accounts_of_not_granted (h : Move s w answer s' w' request) (hs : s.Coherent)
    (hnot : ¬ s.Granted answer) : s'.accounts = s.accounts := by
  have hsu : Builtin.names .su = ["su"] := by decide
  have hfits := hs.fits
  cases h with
  | logIn hmode hname hlogin =>
    obtain ⟨hnobody, hroot, -⟩ := Accounts.login_eq_ok hlogin
    rename_i identity accounts
    cases identity with
    | nobody => exact absurd rfl hnobody
    | root => cases hroot rfl
    | user => exact absurd ⟨_, .login hmode rfl (Identity.ofName_eq_user_iff.mp hname)⟩ hnot
  | logInWith hmode hlogin =>
    obtain ⟨-, hroot, -⟩ := Accounts.login_eq_ok hlogin
    rw [hmode] at hfits
    exact absurd ⟨_, .loginRoot hmode (by rw [Option.some.inj (hroot hfits)])⟩ hnot
  | switchBack hmode hline hruns harg =>
    have htypes : s.TypesSwitch _ "prv" :=
      ⟨_, ⟨hmode, _, rfl, hline⟩, head_eq_of_runs hline hruns hsu, harg⟩
    have hsame : s.accounts.current = s.accounts.previous := by
      by_contra hprevious
      exact hnot ⟨_, .back htypes hprevious⟩
    rw [Accounts.revert, if_pos hsame]
  | switchUser hmode hline hruns harg hname hswitch =>
    rename_i target switch accounts
    have htypes : s.TypesSwitch _ _ :=
      ⟨_, ⟨hmode, _, rfl, hline⟩, head_eq_of_runs hline hruns hsu, harg⟩
    by_cases hcurrent : s.accounts.current = target
    · rw [Accounts.switchTo, if_pos hcurrent] at hswitch
      exact (Prod.mk.inj (Except.ok.inj hswitch)).2.symm
    · rcases Accounts.switchTo_eq_ok hswitch with ⟨htarget, -⟩ | ⟨-, hnobody, hroot, -⟩
      · exact absurd htarget hcurrent
      · cases target with
        | nobody => exact absurd rfl hnobody
        | root => cases hroot rfl
        | user =>
          exact absurd ⟨_, .switch htypes (Identity.ofName_eq_user_iff.mp hname) hcurrent⟩ hnot
  | switchWith hmode hswitch =>
    rw [hmode] at hfits
    obtain ⟨rfl, huser⟩ := hfits
    rcases Accounts.switchTo_eq_ok hswitch with ⟨hroot, -⟩ | ⟨-, -, hroot, -⟩
    · rw [huser] at hroot
      cases hroot
    · exact absurd ⟨_, .switchRoot hmode (by rw [Option.some.inj (hroot rfl)])⟩ hnot
  | _ => rfl

theorem meet_of_not_granted (hs : s.Coherent) {x : Encounter} (hnot : ¬ s.Granted x.answer) :
    (s.meet x).session.accounts = s.accounts :=
  (step_moves s x.world x.answer).accounts_of_not_granted hs hnot

/-! ## Runs -/

/-- The last change that the run grants is `g`, to the session `t`. -/
def LastGrant (s : Session) (xs : List Encounter) (t : Session) (g : Grant) : Prop :=
  ∃ before x rest, xs = before ++ x :: rest ∧ t = s.after before ∧ t.Grants x.answer g ∧
    ¬ Met (fun s x => s.Granted x.answer) (t.meet x).session rest

theorem coherent_meet (hs : s.Coherent) (x : Encounter) : (s.meet x).session.Coherent :=
  (step_moves s x.world x.answer).coherent hs

/-- **The identities after a run are those of its last grant.** -/
theorem after_or_lastGrant (hs : s.Coherent) (xs : List Encounter) :
    ¬ Met (fun s x => s.Granted x.answer) s xs ∧ (s.after xs).accounts = s.accounts ∨
      ∃ t g, t.Coherent ∧ s.LastGrant xs t g ∧ (s.after xs).accounts = g.apply t.accounts := by
  induction xs generalizing s with
  | nil => exact Or.inl ⟨fun ⟨_, _, _, hxs, _⟩ => by simp at hxs, rfl⟩
  | cons x xs ih =>
    rcases ih (coherent_meet hs x) with ⟨hrest, hsame⟩ | ⟨t, g, ht, hlast, haccounts⟩
    · by_cases hgranted : s.Granted x.answer
      · obtain ⟨g, hg⟩ := hgranted
        refine Or.inr ⟨s, g, hs, ⟨[], x, xs, rfl, rfl, hg, hrest⟩, hsame.trans ?_⟩
        exact step_of_grants hs hg x.world
      · refine Or.inl ⟨?_, hsame.trans (meet_of_not_granted hs hgranted)⟩
        rw [met_cons, not_or]
        exact ⟨hgranted, hrest⟩
    · obtain ⟨before, y, rest, rfl, rfl, hg, hrest⟩ := hlast
      exact Or.inr ⟨_, g, ht, ⟨x :: before, y, rest, rfl, rfl, hg, hrest⟩, haccounts⟩

/-! ## Switches back -/

/-- Is a switch back typed? -/
def typesBack (s : Session) : Option Input → Bool
  | some (.line typed) => s.mode == .shell &&
    (commandOf typed).any fun line => line.head == "su" && line.arg? 0 == some "prv"
  | _ => false

theorem typesBack_iff : s.typesBack answer = true ↔ s.TypesSwitch answer "prv" := by
  unfold TypesSwitch Types
  cases answer with
  | none => simp [typesBack]
  | some input =>
    cases input with
    | line typed =>
      simp only [typesBack, Bool.and_eq_true, beq_iff_eq, Option.any_eq_true]
      constructor
      · rintro ⟨hmode, line, hline, hhead, harg⟩
        exact ⟨line, ⟨hmode, typed, rfl, hline⟩, hhead, harg⟩
      · rintro ⟨line, ⟨hmode, typed', htyped, hline⟩, hhead, harg⟩
        cases htyped
        exact ⟨hmode, line, hline, hhead, harg⟩
    | key | pointer => simp [typesBack]

/-- How often a switch back is typed in a run. -/
def timesBack : Session → List Encounter → Nat
  | _, [] => 0
  | s, x :: xs => (s.typesBack x.answer).toNat + timesBack (s.meet x).session xs

/-- No login and no switch to a named identity is granted. -/
def OnlyBack (s : Session) (answer : Option Input) : Prop := ∀ g, s.Grants answer g → g = .back

/-- Going back swaps the identities, also where they are equal and the reply says so. -/
theorem switchBack_accounts (s : Session) (w : World) :
    (s.switchBack w).session.accounts = s.accounts.swap := by
  rw [Accounts.swap, ← Accounts.revert_snd]
  unfold switchBack Accounts.revert
  by_cases h : s.accounts.current = s.accounts.previous
  · simp only [if_pos h]
    rfl
  · simp only [if_neg h]
    rfl

/-- A step that grants no other change than a switch back swaps the identities if one is typed, also
where the two are equal and it is not granted. -/
theorem meet_of_onlyBack (hs : s.Coherent) {x : Encounter} (hback : s.OnlyBack x.answer) :
    (s.meet x).session.accounts = if s.typesBack x.answer then s.accounts.swap else s.accounts := by
  by_cases htypes : s.typesBack x.answer
  · rw [if_pos htypes, meet, step_of_typesSwitch x.world (typesBack_iff.mp htypes), switchUser,
      if_pos rfl]
    exact switchBack_accounts s x.world
  · rw [if_neg htypes]
    refine meet_of_not_granted hs ?_
    rintro ⟨g, hg⟩
    refine htypes ?_
    obtain rfl := hback g hg
    cases hg with
    | back hback _ => exact typesBack_iff.mpr hback

/-- **Switches back undo each other in pairs**, whatever else is typed between them that grants
neither a login nor a switch to a named identity. -/
theorem after_of_onlyBack (hs : s.Coherent) {xs : List Encounter}
    (hback : ¬ Met (fun s x => ¬ s.OnlyBack x.answer) s xs) :
    (s.after xs).accounts = if s.timesBack xs % 2 = 0 then s.accounts else s.accounts.swap := by
  induction xs generalizing s with
  | nil => rfl
  | cons x xs ih =>
    rw [met_cons, not_or, not_not] at hback
    have hstep := meet_of_onlyBack hs hback.1
    rw [after_cons, ih (coherent_meet hs x) hback.2, hstep, timesBack]
    cases s.typesBack x.answer with
    | false => simp
    | true =>
      simp only [if_true, Bool.toNat_true, Accounts.swap_swap]
      split_ifs <;> first | rfl | omega

/-! ## From the start of a session -/

/-- **The identities follow one history rule.** After any run of a session:

* The identities are still those of the start, or they are those of the last login, switch or switch
  back that was granted: the previous identity is the one that was current right before it, but the
  new one if that was nobody, which only a login can find.
* A step that grants nothing leaves both as they are, whether it fails, is refused, is cancelled or
  asks for an identity that is current already.
* As long as no login and no switch to a named identity is granted, an even number of switches back
  restores both and an odd number swaps them. -/
theorem accounts_follow_grants (settings : Settings) (now : Timestamp) (xs : List Encounter) :
    let s := (start settings now).after xs
    (¬ Met (fun s x => s.Granted x.answer) (start settings now) xs ∧
        s.accounts = ⟨.nobody, .nobody⟩ ∨
      ∃ t g, (start settings now).LastGrant xs t g ∧
        s.accounts.current = g.identity t.accounts ∧
        s.accounts.previous =
          (if t.accounts.current = .nobody then s.accounts.current else t.accounts.current) ∧
        (t.accounts.current = .nobody → ∃ identity, g = .login identity)) ∧
    (∀ x, ¬ s.Granted x.answer → (s.meet x).session.accounts = s.accounts) ∧
    ∀ ys, ¬ Met (fun s x => ¬ s.OnlyBack x.answer) s ys →
      (s.after ys).accounts = if s.timesBack ys % 2 = 0 then s.accounts else s.accounts.swap := by
  intro s
  have hs : s.Coherent :=
    after_induction (I := Coherent) (fun _ x hs => coherent_meet hs x)
      (coherent_start settings now) xs
  refine ⟨?_, fun x => meet_of_not_granted hs, fun ys => after_of_onlyBack hs⟩
  rcases after_or_lastGrant (coherent_start settings now) xs with
    hnone | ⟨t, g, ht, hlast, haccounts⟩
  · exact Or.inl hnone
  · refine Or.inr ⟨t, g, hlast, ?_, ?_, ?_⟩
    · exact congrArg Accounts.current haccounts
    · rw [show s.accounts = g.apply t.accounts from haccounts]
      rfl
    · intro hnobody
      obtain ⟨before, x, rest, -, -, hg, -⟩ := hlast
      exact hg.login_of_nobody ht hnobody

end Session

end ModalConsole
