import ModalConsole.Proofs.Accounts
import ModalConsole.Proofs.Session.Move

/-!
# Who is logged in

Root is gained in four ways: at a login, at the question for the password of a switch, by a
switch back, and by no other step. The first two take the password of root, and a switch back
only leads to an identity that was held before.

* `AccountsMove`: what a step can make of the accounts. `Move.accounts`: no move makes anything
  else of them.
* `Rootless`: neither identity is root. `rootless_or_read`: so it stays over a run from the start of
  a session, unless the password of root is read at a question for it.
* **`root_takes_password`**: the two together, from the start of a session.
-/

namespace ModalConsole

/-- Neither the current identity nor the previous one is root. -/
def Accounts.Rootless (a : Accounts) : Prop := a.current ≠ .root ∧ a.previous ≠ .root

/-- Is it one of the questions of a login? -/
def Mode.isLogin : Mode → Bool
  | .loginName _ | .loginPassword _ _ => true
  | _ => false

/-- Is it one of the questions for a password, at a login or at a switch of user? -/
def Mode.asksPassword : Mode → Bool
  | .loginPassword _ _ | .switchPassword _ => true
  | _ => false

namespace Session

/-- Is the password read, character for character, at a question for a password? -/
def ReadsPassword (s : Session) (password : String) (answer : Option Input) : Prop :=
  s.mode.asksPassword = true ∧ answer = some (.line password)

/-- Is a switch of user typed at the shell? -/
def TypesSwitch (s : Session) (answer : Option Input) (argument : String) : Prop :=
  ∃ line, s.Types .shell answer line ∧ line.head = "su" ∧ line.arg? 0 = some argument

/-- What a step can make of the accounts. -/
inductive AccountsMove (s : Session) (answer : Option Input) : Accounts → Prop
  | keep : AccountsMove s answer s.accounts
  | login {identity : Identity} (hmode : s.mode.isLogin = true) (hidentity : identity ≠ .nobody)
      (hroot : identity = .root → s.ReadsPassword s.settings.rootPassword answer) :
      AccountsMove s answer
        ⟨identity, if s.accounts.current = .nobody then identity else s.accounts.current⟩
  /-- A switch of user, right away or after the question for the password. -/
  | switch {target : Identity} (hmode : (∃ name, s.TypesSwitch answer name) ∨
        ∃ asked, s.mode = .switchPassword asked)
      (htarget : target ≠ .nobody)
      (hroot : target = .root → s.ReadsPassword s.settings.rootPassword answer) :
      AccountsMove s answer ⟨target, s.accounts.current⟩
  /-- A switch back swaps the two identities. -/
  | back (hprv : s.TypesSwitch answer "prv") :
      AccountsMove s answer ⟨s.accounts.previous, s.accounts.current⟩

variable {s s' : Session} {w w' : World} {answer : Option Input} {request : Option PowerAction}

theorem Move.switch_accounts {target : Identity} {credential : Option String} {outcome : Switch}
    {accounts : Accounts}
    (hmode : (∃ name, s.TypesSwitch answer name) ∨ ∃ asked, s.mode = .switchPassword asked)
    (hcredential : ∀ password, credential = some password → s.ReadsPassword password answer)
    (h : s.accounts.switchTo s.settings.rootPassword target credential = .ok (outcome, accounts)) :
    AccountsMove s answer accounts := by
  rcases Accounts.switchTo_eq_ok h with ⟨-, -, rfl⟩ | ⟨-, htarget, hroot, rfl⟩
  · exact .keep
  · exact .switch hmode htarget fun ht => hcredential _ (hroot ht)

/-- **The accounts after a move.** -/
theorem Move.accounts (h : Move s w answer s' w' request) : AccountsMove s answer s'.accounts := by
  have hsu : Builtin.names .su = ["su"] := by decide
  cases h with
  | logIn hmode hname hlogin =>
    obtain ⟨hidentity, hroot, rfl⟩ := Accounts.login_eq_ok hlogin
    refine .login (by rw [hmode]; rfl) hidentity fun ht => ?_
    cases hroot ht
  | logInWith hmode hlogin =>
    obtain ⟨hidentity, hroot, rfl⟩ := Accounts.login_eq_ok hlogin
    refine .login (by rw [hmode]; rfl) hidentity fun ht => ⟨by rw [hmode]; rfl, ?_⟩
    rw [Option.some.inj (hroot ht)]
  | switchBack hmode hline hruns harg =>
    have hhead := head_eq_of_runs hline hruns hsu
    rw [Accounts.revert_snd]
    exact .back ⟨_, ⟨hmode, _, rfl, hline⟩, hhead, harg⟩
  | switchUser hmode hline hruns harg hname hswitch =>
    have hhead := head_eq_of_runs hline hruns hsu
    exact Move.switch_accounts (.inl ⟨_, _, ⟨hmode, _, rfl, hline⟩, hhead, harg⟩) (by simp) hswitch
  | switchWith hmode hswitch =>
    refine Move.switch_accounts (.inr ⟨_, hmode⟩) (fun password hp => ?_) hswitch
    exact ⟨by rw [hmode]; rfl, by rw [Option.some.inj hp]⟩
  | _ => exact .keep

/-! ## Root -/

variable {a : Accounts}

theorem AccountsMove.rootless (h : AccountsMove s answer a) (hs : s.accounts.Rootless)
    (hread : ¬ s.ReadsPassword s.settings.rootPassword answer) : a.Rootless := by
  obtain ⟨hcurrent, hprevious⟩ := hs
  cases h with
  | keep => exact ⟨hcurrent, hprevious⟩
  | login hmode hidentity hroot =>
    refine ⟨mt hroot hread, ?_⟩
    split
    · exact mt hroot hread
    · exact hcurrent
  | switch hmode htarget hroot => exact ⟨mt hroot hread, hcurrent⟩
  | back => exact ⟨hprevious, hcurrent⟩

theorem AccountsMove.becomes_root (h : AccountsMove s answer a) (hs : s.accounts.current ≠ .root)
    (ha : a.current = .root) : s.ReadsPassword s.settings.rootPassword answer ∨
      s.accounts.previous = .root ∧ s.TypesSwitch answer "prv" := by
  cases h with
  | keep => exact absurd ha hs
  | login hmode hidentity hroot => exact Or.inl (hroot ha)
  | switch hmode htarget hroot => exact Or.inl (hroot ha)
  | back hprv => exact Or.inr ⟨ha, hprv⟩

/-- A run without the password of root keeps root out. -/
theorem rootless_or_read (settings : Settings) (now : Timestamp) (xs : List Encounter) :
    Met (fun s x => s.ReadsPassword settings.rootPassword x.answer) (start settings now) xs ∨
      ((start settings now).after xs).accounts.Rootless := by
  have hstart : Accounts.initial.Rootless := ⟨by decide, by decide⟩
  have step : ∀ (s : Session) (x : Encounter), s.settings = settings ∧ s.accounts.Rootless →
      ¬ s.ReadsPassword settings.rootPassword x.answer →
      (s.meet x).session.settings = settings ∧ (s.meet x).session.accounts.Rootless := by
    rintro s x ⟨rfl, hrootless⟩ hread
    have hmove := step_moves s x.world x.answer
    exact ⟨hmove.settings_eq, hmove.accounts.rootless hrootless hread⟩
  exact (met_or_after step ⟨rfl, hstart⟩ xs).imp_right And.right

/-- **Root takes its password.** Whoever is root after a run, or was before the last switch, has
given the password of root character for character at a question for a password; and who becomes
root in one more step either does so in this step, or switches back to root. -/
theorem root_takes_password (settings : Settings) (now : Timestamp) (xs : List Encounter) :
    let s := (start settings now).after xs
    (s.accounts.current = .root ∨ s.accounts.previous = .root →
      Met (fun s x => s.ReadsPassword settings.rootPassword x.answer) (start settings now) xs) ∧
    ∀ x, s.accounts.current ≠ .root → (s.meet x).session.accounts.current = .root →
      s.ReadsPassword settings.rootPassword x.answer ∨
        s.accounts.previous = .root ∧ s.TypesSwitch x.answer "prv" := by
  intro s
  constructor
  · intro hroot
    rcases rootless_or_read settings now xs with hread | ⟨hcurrent, hprevious⟩
    · exact hread
    · rcases hroot with h | h
      · exact absurd h hcurrent
      · exact absurd h hprevious
  · intro x hs hx
    have hbecomes := (step_moves s x.world x.answer).accounts.becomes_root hs hx
    rwa [after_settings] at hbecomes

/-- A login as root, a switch to the user, and back without the password. -/
example :
    let x (input : Input) : Encounter := ⟨⟨.memory [], ⟨[], 0⟩, ⟨0, 0⟩⟩, some input⟩
    ((start {} ⟨0, 0⟩).after [x (.key .enter), x (.line "root"), x (.line "admin"),
      x (.line "su user"), x (.line "SU prv")]).accounts = ⟨.root, .user⟩ := by
  decide

end Session

end ModalConsole
