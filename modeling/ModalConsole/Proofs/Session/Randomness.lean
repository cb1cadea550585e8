import Mathlib.Data.List.Forall2
import ModalConsole.Proofs.ProductKey
import ModalConsole.Proofs.Session.Stage
import ModalConsole.Proofs.Session.Twin

/-!
# What random words are used for

The length of a boot and the characters of a product key. Neither is ever looked at again: two
sessions that differ in the random words and are given the same input go the same way. The same
holds of the clock, which is shown in one line and not looked at otherwise.

* `Effect.Alike`, `TerminalCall.Alike`: the same but for the length of a boot and for the key of
  each session. `Stage.Alike`: the same but for the key and the words to come.
* `Effect.Similar`, `Turn.Similar`, `Stage.Similar`: the same with clocks that may be adrift.
* `Stage.Generates`: a step generates the key. `Stage.Keys`: what a step makes of two keys.
* `Stage.Similar.turn`, `Stage.Similar.keys`: what one step of two such sessions comes to.
* **`Stage.randomness_stays_apart`**: what a run comes to.
-/

namespace ModalConsole

/-! ## Effects and calls -/

/-- What two sessions do in the same place, `key` and `key'` being the keys they hold after it:
the same, apart from the length of a boot and the key that is written. -/
inductive Effect.Alike (settings : Settings) (mode : Mode) (key key' : Option String) :
    Effect → Effect → Prop
  | plain {e} (he : e.isPlain = true) : Alike settings mode key key' e e
  /-- Only the desktop draws pictures. -/
  | present (hmode : mode = .desktop) (scene) :
      Alike settings mode key key' (.present scene) (.present scene)
  /-- Both pauses of a boot keep its limit. -/
  | pause (target : BootTarget) {time time'} (htime : time ≤ Session.bootLimit settings target)
      (htime' : time' ≤ Session.bootLimit settings target) :
      Alike settings mode key key' (.randomPause (Session.bootLimit settings target) time)
        (.randomPause (Session.bootLimit settings target) time')
  /-- Each session writes its own key. -/
  | key (before after : String) {k k'} (hk : key = some k) (hk' : key' = some k') :
      Alike settings mode key key' (.text (before ++ k ++ after)) (.text (before ++ k' ++ after))

/-- Effects that are alike, but for the line with the times if the clocks are adrift. -/
inductive Effect.Similar (adrift : Prop) (settings : Settings) (mode : Mode)
    (key key' : Option String) : Effect → Effect → Prop
  | alike {e e'} (h : e.Alike settings mode key key' e') :
      Similar adrift settings mode key key' e e'
  /-- Each session tells when it was started, and for how long it has been running. -/
  | uptime (h : adrift) (startedAt now startedAt' now' : Timestamp) :
      Similar adrift settings mode key key' (.text (Session.uptimeLine startedAt now ++ "\n"))
        (.text (Session.uptimeLine startedAt' now' ++ "\n"))

/-- Calls that are the same but for their effects, which are alike. -/
inductive TerminalCall.Alike (settings : Settings) (mode : Mode) (key key' : Option String) :
    TerminalCall → TerminalCall → Prop
  | effect {e e'} (h : e.Alike settings mode key key' e') :
      Alike settings mode key key' (.effect e) (.effect e')
  | read (kind) : Alike settings mode key key' (.read kind) (.read kind)

/-- As long as the clocks are the same, effects that are similar are alike. -/
theorem Effect.Similar.alike_of_same {settings : Settings} {mode : Mode} {key key' : Option String}
    {e e' : Effect} (h : e.Similar False settings mode key key' e') :
    e.Alike settings mode key key' e' := by
  cases h with
  | alike h => exact h
  | uptime h => exact h.elim

namespace Session

variable {settings : Settings} {mode : Mode} {key key' : Option String}

theorem alike_of_allPlain {effects : List Effect} (h : Effect.AllPlain effects) :
    List.Forall₂ (Effect.Alike settings mode key key') effects effects :=
  List.forall₂_same.mpr fun e he => .plain (h e he)

theorem similar_of_allPlain {adrift : Prop} {effects : List Effect}
    (h : Effect.AllPlain effects) :
    List.Forall₂ (Effect.Similar adrift settings mode key key') effects effects :=
  (alike_of_allPlain h).imp fun _ _ => .alike

/-- A prompt shows no key. -/
theorem allPlain_prompt (s : Session) : Effect.AllPlain s.prompt := by
  unfold prompt
  split <;> simp [menuScreen]

theorem boot_alike (s s' : Session) (w w' : World) (target : BootTarget)
    (hsettings : s'.settings = s.settings) :
    List.Forall₂ (Effect.Alike s.settings mode key key') (s.boot w target).effects
      (s'.boot w' target).effects := by
  have hlt (words : RandomWords) := words.draw_lt (Nat.succ_pos (bootLimit s.settings target))
  unfold boot
  rw [hsettings]
  refine List.rel_append (List.rel_append (List.rel_append (alike_of_allPlain (by simp)) ?_)
    (alike_of_allPlain (by simp))) (alike_of_allPlain (by simp))
  exact .cons (.pause target (Nat.le_of_lt_succ (hlt _)) (Nat.le_of_lt_succ (hlt _))) .nil

theorem infoLines_similar {adrift : Prop} (s : Session) (v : Variation) (now : Timestamp)
    (hactive : v.activation.isActive = s.activation.isActive)
    (hclock : ¬ adrift → v.startedAt = s.startedAt ∧ v.now = now) :
    List.Forall₂ (Effect.Similar adrift settings mode s.activation.key v.activation.key)
      (Effect.lines (s.infoLines now)) (Effect.lines ((s.vary v).infoLines v.now)) := by
  refine .cons (.alike (.plain rfl)) (.cons (.alike (.plain rfl)) (.cons (.alike (.plain rfl))
    (.cons (.alike ?_) (.cons ?_ .nil))))
  · rw [vary_activation]
    cases hkey : s.activation.key with
    | none =>
      have hkey' : v.activation.key = none := by
        simpa [Activation.isActive, hkey] using hactive
      simp only [Activation.shownKey, hkey, hkey']
      exact .plain rfl
    | some k =>
      obtain ⟨k', hkey'⟩ : ∃ k', v.activation.key = some k' := by
        simpa [Activation.isActive, hkey, Option.isSome_iff_exists] using hactive
      simp only [Activation.shownKey, hkey, hkey', Option.getD_some]
      exact .key "Product Key: " "\n" rfl rfl
  · by_cases hadrift : adrift
    · exact .uptime hadrift _ _ _ _
    · obtain ⟨hstarted, hnow⟩ := hclock hadrift
      change Effect.Similar adrift settings mode _ _ _
        (.text (uptimeLine v.startedAt v.now ++ "\n"))
      rw [hstarted, hnow]
      exact .alike (.plain rfl)

end Session

/-! ## Turns -/

/-- Two turns that are the same but for the key, the words to come and the times, effects with the
times in them only if the clocks are adrift. -/
structure Turn.Similar (adrift : Prop) (settings : Settings) (mode : Mode) (t t' : Turn) :
    Prop where
  session : t'.session = { t.session with
    activation := t'.session.activation, startedAt := t'.session.startedAt }
  active : t'.session.activation.isActive = t.session.activation.isActive
  store : t'.world.store = t.world.store
  request : t'.request = t.request
  effects : List.Forall₂
    (Effect.Similar adrift settings mode t.session.activation.key t'.session.activation.key)
    t.effects t'.effects

namespace Session

variable {v : Variation} {s : Session} {w : World} {t t' : Turn} {adrift : Prop}

/-- A variation of the same password varies nothing but the key and the time of the start. -/
theorem vary_eq (h : v.password = s.settings.rootPassword) :
    s.vary v = { s with activation := v.activation, startedAt := v.startedAt } := by
  rw [vary, h]

theorem Twin.similar (h : Twin v s w t t') (hactive : v.activation.isActive = s.activation.isActive)
    (hpassword : v.password = s.settings.rootPassword)
    (hsettings : t.session.settings = s.settings)
    (hclock : ¬ adrift → v.startedAt = s.startedAt ∧ v.now = w.now) :
    t.Similar adrift s.settings s.mode t' := by
  have hpassword' : v.password = t.session.settings.rootPassword := by rw [hpassword, hsettings]
  cases h with
  | blind h =>
    obtain ⟨rfl, hactivation, -, heffects⟩ := h
    refine ⟨vary_eq hpassword', ?_, rfl, rfl, List.forall₂_same.mpr fun e he => .alike ?_⟩
    · rw [hactivation]
      exact hactive
    · rcases heffects e he with hplain | ⟨hmode, scene, rfl⟩
      · exact .plain hplain
      · exact .present hmode scene
  | level hturn hwords heffects =>
    subst hturn
    exact ⟨vary_eq hpassword', rfl, rfl, rfl, similar_of_allPlain heffects⟩
  | boot target =>
    refine ⟨vary_eq (s := s.enter (.loginName target)) hpassword, hactive, rfl, rfl, ?_⟩
    rw [vary_eq hpassword]
    exact (boot_alike s _ w _ target rfl).imp fun _ _ => .alike
  | info =>
    exact ⟨vary_eq hpassword, hactive, rfl, rfl, infoLines_similar s v w.now hactive hclock⟩
  | generate economy first label =>
    simp only [Session.generate, World.vary]
    rcases generateKey w.words with ⟨key, words⟩
    rcases generateKey v.words with ⟨key', words'⟩
    refine ⟨?_, rfl, rfl, rfl, ?_⟩
    · exact vary_eq (v := { v with activation := ⟨some key'⟩ })
        (s := { s with economy := economy }) hpassword
    · exact .cons (.alike (.plain rfl)) (.cons (.alike (.key label "\n" rfl rfl)) .nil)

end Session

/-! ## Stages -/

/-- The same answer, and the same time unless the clocks are adrift. -/
structure Cue.Similar (adrift : Prop) (x x' : Cue) : Prop where
  answer : x'.answer = x.answer
  now : ¬ adrift → x'.now = x.now

namespace Stage

/-- Two stages that are the same but for the key and for the words to come. -/
structure Alike (r r' : Stage) : Prop where
  session : r'.session = { r.session with activation := r'.session.activation }
  active : r'.session.activation.isActive = r.session.activation.isActive
  world : r'.world = { r.world with words := r'.world.words }

/-- The step generates the key, where there was none. -/
def Generates (r : Stage) (x : Cue) (key : String) : Prop :=
  r.session.activation.isActive = false ∧ (r.turn x).session.activation = ⟨some key⟩ ∧
    generateKey r.world.words = (key, (r.turn x).world.words)

/-- Two stages that are the same but for the key, the words to come and, if the clocks are adrift,
the times. -/
structure Similar (adrift : Prop) (r r' : Stage) : Prop where
  session : r'.session = { r.session with
    activation := r'.session.activation, startedAt := r'.session.startedAt }
  startedAt : ¬ adrift → r'.session.startedAt = r.session.startedAt
  active : r'.session.activation.isActive = r.session.activation.isActive
  store : r'.world.store = r.world.store

/-- What a step of two sessions makes of their keys: both keep theirs, or both have the same one
or none, or both generate one. -/
inductive Keys (r r' : Stage) (x x' : Cue) : Prop
  | kept (h : (r.turn x).session.activation = r.session.activation)
      (h' : (r'.turn x').session.activation = r'.session.activation)
  | level (h : (r'.turn x').session.activation = (r.turn x).session.activation)
  | generated {key key'} (h : r.Generates x key) (h' : r'.Generates x' key')

variable {adrift : Prop} {r r' : Stage} {x x' : Cue}

/-- What the second stage differs in from the first, and the second clock from the first. -/
def variation (r r' : Stage) (x' : Cue) : Variation :=
  ⟨r.session.settings.rootPassword, r'.session.activation, r'.session.startedAt, r'.world.words,
    x'.now⟩

theorem Similar.twin (h : r.Similar adrift r') (hx : x.Similar adrift x') :
    Session.Twin (variation r r' x') r.session.prompted { r.world with now := x.now }
      (r.turn x) (r'.turn x') := by
  have hsession : r'.session = r.session.vary (variation r r' x') := h.session
  have hworld : ({ r'.world with now := x'.now } : World) =
      { r.world with now := x.now }.vary (variation r r' x') := by
    change World.mk r'.world.store _ _ = World.mk r.world.store _ _
    rw [h.store]
    rfl
  rw [turn, turn, hsession, hworld, hx.answer]
  exact Session.step_twin _ h.active Iff.rfl

theorem turn_startedAt (r : Stage) (x : Cue) :
    (r.turn x).session.startedAt = r.session.startedAt :=
  (Session.step_moves r.session _ x.answer).startedAt_eq

/-- Two such sessions make of the same input turns that are the same but for the key, the words to
come and the times. -/
theorem Similar.turn (h : r.Similar adrift r') (hx : x.Similar adrift x') :
    (r.turn x).Similar adrift r.session.settings r.session.mode (r'.turn x') :=
  (h.twin hx).similar h.active rfl (turn_settings r x) fun hadrift =>
    ⟨h.startedAt hadrift, hx.now hadrift⟩

theorem Similar.next (h : r.Similar adrift r') (hx : x.Similar adrift x') :
    (r.next x).Similar adrift (r'.next x') :=
  let hturn := h.turn hx
  ⟨hturn.session, fun hadrift => by
    rw [Stage.next, Stage.next, turn_startedAt, turn_startedAt, h.startedAt hadrift], hturn.active,
    hturn.store⟩

theorem Similar.keys (h : r.Similar adrift r') (hx : x.Similar adrift x') : Keys r r' x x' := by
  have htwin := h.twin hx
  generalize hturn : r.turn x = t, hturn' : r'.turn x' = t' at htwin
  cases htwin with
  | blind h =>
    obtain ⟨rfl, hactivation, -, -⟩ := h
    exact .kept (by rw [hturn, hactivation]; rfl) (by rw [hturn']; rfl)
  | level h => exact .level (by rw [hturn, hturn', h]; rfl)
  | boot target => exact .kept (by rw [hturn]; rfl) (by rw [hturn']; rfl)
  | info => exact .kept (by rw [hturn]; rfl) (by rw [hturn']; rfl)
  | generate economy first label hinactive =>
    obtain ⟨key, words, hkey, hgenerate⟩ := Session.generate_eq
      { r.session.prompted with economy := economy } { r.world with now := x.now } first label
    obtain ⟨key', words', hkey', hgenerate'⟩ := Session.generate_eq
      ({ r.session.prompted with economy := economy }.vary (variation r r' x'))
      ({ r.world with now := x.now }.vary (variation r r' x')) first label
    rw [hgenerate] at hturn
    rw [hgenerate'] at hturn'
    have hfirst : r.Generates x key := ⟨hinactive, by rw [hturn], by rw [hturn]; exact hkey⟩
    have hsecond : r'.Generates x' key' :=
      ⟨h.active.trans hinactive, by rw [hturn'], by rw [hturn']; exact hkey'⟩
    exact .generated hfirst hsecond

/-! ### The same clock -/

theorem Alike.similar (h : r.Alike r') : r.Similar False r' where
  session := by rw [h.session]
  startedAt _ := by rw [h.session]
  active := h.active
  store := by rw [h.world]

theorem Alike.of_similar (h : r.Similar False r') (hnow : r'.world.now = r.world.now) :
    r.Alike r' where
  session := by rw [h.session, h.startedAt not_false]
  active := h.active
  world := by
    change r'.world = World.mk r.world.store r'.world.words r.world.now
    rw [← h.store, ← hnow]

theorem sameCue (x : Cue) : x.Similar False x := ⟨rfl, fun _ => rfl⟩

theorem Alike.next (h : r.Alike r') (x : Cue) : (r.next x).Alike (r'.next x) := by
  have hnow (r : Stage) : (r.turn x).world.now = x.now :=
    (Session.step_moves r.session _ x.answer).now_eq
  exact .of_similar (h.similar.next (sameCue x)) ((hnow r').trans (hnow r).symm)

theorem Alike.calls (h : r.Alike r') (x : Cue) :
    List.Forall₂ (TerminalCall.Alike r.session.settings r.session.mode
      (r.turn x).session.activation.key (r'.turn x).session.activation.key)
      (r.calls x) (r'.calls x) := by
  have hprompt : r'.session.prompt = r.session.prompt := by rw [h.session]; rfl
  have hmode : r'.session.mode = r.session.mode := by rw [h.session]
  unfold Stage.calls
  rw [hprompt, hmode]
  refine List.rel_append ?_ (.cons (.read _) ?_)
  · exact List.forall₂_map_left_iff.mpr (List.forall₂_map_right_iff.mpr
      ((Session.alike_of_allPlain r.session.allPlain_prompt).imp fun _ _ => .effect))
  · exact List.forall₂_map_left_iff.mpr (List.forall₂_map_right_iff.mpr
      ((h.similar.turn (sameCue x)).effects.imp fun _ _ heffect => .effect heffect.alike_of_same))

theorem Alike.after (h : r.Alike r') (xs : List Cue) : (r.after xs).Alike (r'.after xs) := by
  induction xs generalizing r r' with
  | nil => exact h
  | cons x xs ih => exact ih (h.next x)

/-- After a run, two such sessions have the same key, or none, or each has the one that it has
generated in the same step. -/
theorem Alike.keys_after (h : r.Alike r')
    (hstart : r'.session.activation = r.session.activation) (xs : List Cue) :
    (r'.after xs).session.activation = (r.after xs).session.activation ∨
      ∃ before x rest key key', xs = before ++ x :: rest ∧
        (r.after before).Generates x key ∧ (r'.after before).Generates x key' ∧
        (r.after xs).session.activation = ⟨some key⟩ ∧
        (r'.after xs).session.activation = ⟨some key'⟩ := by
  -- from the end: the last step keeps both keys, makes them the same or generates both
  induction xs using List.reverseRecOn with
  | nil => exact Or.inl hstart
  | append_singleton xs x ih =>
    rw [after_concat, after_concat]
    cases (h.after xs).similar.keys (sameCue x) with
    | kept hkept hkept' =>
      rcases ih with hsame | ⟨before, y, rest, key, key', rfl, hy, hy', hkey, hkey'⟩
      · exact Or.inl (hkept'.trans (hsame.trans hkept.symm))
      · exact Or.inr ⟨before, y, rest ++ [x], key, key', by simp, hy, hy', hkept.trans hkey,
          hkept'.trans hkey'⟩
    | level hlevel => exact Or.inl hlevel
    | generated hkey hkey' =>
      exact Or.inr ⟨xs, x, [], _, _, rfl, hkey, hkey', hkey.2.1, hkey'.2.1⟩

/-- **Randomness stays apart.** Take two sessions that differ in nothing but the random words, and
give both the same input. They go through the same modes, users, balances and stores, one is
activated when the other is, and they make the same requests to the power supply. Their calls on the
terminal are the same but for the length of a boot, which keeps its limit, and for the place of the
key in a text. The key in use is the same, unless both have generated theirs in the same step. -/
theorem randomness_stays_apart (settings : Settings) (store : Store) (words words' : RandomWords)
    (now : Timestamp) (xs : List Cue) :
    let a := start settings store words now
    let b := start settings store words' now
    (a.after xs).Alike (b.after xs) ∧
    ((b.after xs).session.activation = (a.after xs).session.activation ∨
      ∃ before x rest key key', xs = before ++ x :: rest ∧
        (a.after before).Generates x key ∧ (b.after before).Generates x key' ∧
        (a.after xs).session.activation = ⟨some key⟩ ∧
        (b.after xs).session.activation = ⟨some key'⟩) ∧
    ∀ x,
      let t := (a.after xs).turn x
      let t' := (b.after xs).turn x
      t'.request = t.request ∧
      List.Forall₂ (TerminalCall.Alike settings (a.after xs).session.mode
        t.session.activation.key t'.session.activation.key)
        ((a.after xs).calls x) ((b.after xs).calls x) := by
  intro a b
  have hstart : a.Alike b := ⟨rfl, rfl, rfl⟩
  have hafter := hstart.after xs
  refine ⟨hafter, hstart.keys_after rfl xs,
    fun x => ⟨(hafter.similar.turn (sameCue x)).request, ?_⟩⟩
  have hcalls := hafter.calls x
  rw [after_settings] at hcalls
  exact hcalls

end Stage

end ModalConsole
