import ModalConsole.Proofs.Session.Stage
import ModalConsole.Proofs.Session.Twin

/-!
# What the password of root is used for

Nothing but the comparison with a line that is read at a question for it. Two sessions whose
passwords differ cannot be told apart by anybody who does not give one of the two.

* `Session.withPassword`: the session with another password.
* `Twin.withPassword`: sessions that have nothing else to differ in make the same turn.
* `Stage.turn_withPassword`, `Stage.withPassword_or_read`: so they stay in step until one of the
  passwords is read.
* **`Stage.password_shows_nowhere`**: the same, with the calls on the terminal.
-/

namespace ModalConsole

namespace Session

/-- The session with another password of root. -/
def withPassword (s : Session) (password : String) : Session :=
  { s with settings := { s.settings with rootPassword := password } }

/-- Is one of two passwords read at a question for a password? -/
def ReadsOneOf (password password' : String) (s : Session) (answer : Option Input) : Prop :=
  s.ReadsPassword password answer ∨ s.ReadsPassword password' answer

/-- If the passwords are all that differs, then they are all that differs after a step. -/
theorem Twin.withPassword {v : Variation} {s : Session} {w : World} {t t' : Turn}
    (h : Twin v s w t t') (hactivation : v.activation = s.activation) (hwords : v.words = w.words)
    (hstarted : v.startedAt = t.session.startedAt) (hnow : v.now = t.world.now) :
    t' = { t with session := t.session.withPassword v.password } := by
  obtain ⟨password, activation, startedAt, words, now⟩ := v
  obtain rfl : activation = s.activation := hactivation
  obtain rfl : words = w.words := hwords
  obtain rfl : startedAt = t.session.startedAt := hstarted
  obtain rfl : now = t.world.now := hnow
  cases h with
  | blind h =>
    obtain ⟨rfl, hactivation, hwords, -⟩ := h
    simp only [Turn.vary, vary, World.vary, Session.withPassword, ← hactivation, ← hwords]
  | level hturn hwords =>
    rw [hturn]
    simp only [Turn.vary, vary, World.vary, Session.withPassword, ← hwords]
  | boot target =>
    unfold Session.boot
    rfl
  | info => rfl
  | generate economy first label hactive =>
    simp only [Session.generate, World.vary]
    rcases generateKey w.words with ⟨key, words⟩
    rfl

end Session

namespace Stage

/-- The stage with another password of root. -/
def withPassword (r : Stage) (password : String) : Stage :=
  ⟨r.session.withPassword password, r.world⟩

variable {r : Stage} {x : Cue} {password : String}

theorem turn_withPassword
    (hread : ¬ r.session.ReadsOneOf r.session.settings.rootPassword password x.answer) :
    (r.withPassword password).turn x =
      { r.turn x with session := (r.turn x).session.withPassword password } := by
  obtain ⟨hown, hother⟩ := not_or.mp hread
  have hmove := Session.step_moves r.session { r.world with now := x.now } x.answer
  exact (Session.step_twin
    (v := ⟨password, r.session.activation, r.session.startedAt, r.world.words, x.now⟩)
    { r.world with now := x.now } rfl (iff_of_false hown hother)).withPassword rfl rfl
      hmove.startedAt_eq.symm hmove.now_eq.symm

/-- Two stages whose passwords differ stay in step until one of the passwords is read. -/
theorem withPassword_or_read (r : Stage) (password : String) (xs : List Cue) :
    r.Met (Session.ReadsOneOf r.session.settings.rootPassword password) xs ∨
      (r.withPassword password).after xs = (r.after xs).withPassword password := by
  induction xs using List.reverseRecOn with
  | nil => exact Or.inr rfl
  | append_singleton xs x ih =>
    rcases ih with hmet | hsame
    · exact Or.inl (met_concat hmet x)
    · by_cases hread : (r.after xs).session.ReadsOneOf r.session.settings.rootPassword password
          x.answer
      · exact Or.inl (met_last hread)
      · rw [← after_settings r xs] at hread
        rw [after_concat, after_concat, hsame, next, turn_withPassword hread]
        exact Or.inr rfl

/-- **The password of root shows nowhere.** Take two sessions that differ in nothing but the
password, and give both the same input. As long as neither password is read at a question for a
password, they still differ in nothing but the password, they make the same calls on the terminal
and the same requests to the power supply, and they leave the same world, its store included. -/
theorem password_shows_nowhere (settings : Settings) (store : Store) (words : RandomWords)
    (now : Timestamp) (password : String) (xs : List Cue) :
    let reads := Session.ReadsOneOf settings.rootPassword password
    let a := start settings store words now
    let b := start { settings with rootPassword := password } store words now
    a.Met reads xs ∨
      (b.after xs).session = (a.after xs).session.withPassword password ∧
      (b.after xs).world = (a.after xs).world ∧
      ∀ x, reads (a.after xs).session x.answer ∨
        (b.after xs).calls x = (a.after xs).calls x ∧
        ((b.after xs).turn x).request = ((a.after xs).turn x).request := by
  intro reads a b
  rcases withPassword_or_read a password xs with hmet | hsame
  · exact Or.inl hmet
  · have hsettings : (a.after xs).session.settings.rootPassword = settings.rootPassword :=
      congrArg Settings.rootPassword (after_settings a xs)
    change b.after xs = (a.after xs).withPassword password at hsame
    rw [hsame]
    refine Or.inr ⟨rfl, rfl, fun x => ?_⟩
    by_cases hread : reads (a.after xs).session x.answer
    · exact Or.inl hread
    · change ¬ Session.ReadsOneOf settings.rootPassword password _ _ at hread
      rw [← hsettings] at hread
      have hturn := turn_withPassword hread
      refine Or.inr ⟨?_, by rw [hturn]⟩
      unfold calls
      rw [hturn]
      rfl

end Stage

end ModalConsole
