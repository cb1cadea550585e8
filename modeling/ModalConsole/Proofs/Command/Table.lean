import ModalConsole.Command.Table

/-!
# Command tables as lists

The index of a table grows name by name, and later entries hide earlier ones. What a head stands
for does not depend on how the index came about: it is the last registered command that goes by
the head.

* `Indexed`: the index of a table only has positions of the table, and a look-up through it finds
  the last command of that name. One registration keeps it (`indexed_register`).
* **`lookup_ofList`**: the look-up in the table of a list is a backwards scan of the list.
-/

namespace ModalConsole

open Text

variable {α : Type}

/-- Does the command go by the name, which is lower-cased? -/
def CommandSpec.isCalled (spec : CommandSpec α) (key : String) : Bool :=
  (spec.names.map lowered).contains key

namespace CommandTable

/-- The index finds the last command of each name. -/
structure Indexed (table : CommandTable α) : Prop where
  bound : ∀ key i, table.index.lookup key = some i → i < table.specs.length
  latest : ∀ key, (table.index.lookup key).bind (table.specs[·]?) =
    table.specs.reverse.find? (·.isCalled key)

theorem lookup_pushNames (position : Nat) (key : String) (names : List String) :
    ∀ index : List (String × Nat),
      (names.foldl (fun index name => (lowered name, position) :: index) index).lookup key =
        if (names.map lowered).contains key then some position else index.lookup key := by
  induction names with
  | nil => intro index; rfl
  | cons name names ih =>
    intro index
    rw [List.foldl_cons, ih, List.lookup_cons, List.map_cons, List.contains_cons]
    cases key == lowered name <;> simp

theorem indexed_empty : (empty : CommandTable α).Indexed :=
  ⟨fun _ _ h => absurd h (by simp [empty]), fun _ => rfl⟩

theorem lookup_register (table : CommandTable α) (spec : CommandSpec α) (key : String) :
    (table.register spec).index.lookup key =
      if spec.isCalled key then some table.specs.length else table.index.lookup key :=
  lookup_pushNames table.specs.length key spec.names table.index

theorem indexed_register {table : CommandTable α} (h : table.Indexed) (spec : CommandSpec α) :
    (table.register spec).Indexed := by
  have hspecs : (table.register spec).specs = table.specs ++ [spec] := rfl
  constructor
  · intro key i hi
    rw [lookup_register] at hi
    rw [hspecs, List.length_append]
    split at hi
    · obtain rfl := Option.some.inj hi
      exact Nat.lt_succ_self _
    · exact Nat.lt_add_right 1 (h.bound key i hi)
  · intro key
    rw [lookup_register, hspecs, List.reverse_append, List.reverse_singleton,
      List.singleton_append, List.find?_cons]
    cases spec.isCalled key with
    | true => simp
    | false =>
      simp only [Bool.false_eq_true, if_false]
      rw [← h.latest key]
      refine Option.bind_congr fun i hi => ?_
      exact List.getElem?_append_left (h.bound key i hi)

theorem indexed_foldl (specs : List (CommandSpec α)) :
    ∀ table : CommandTable α, table.Indexed →
      (specs.foldl register table).Indexed ∧
        (specs.foldl register table).specs = table.specs ++ specs := by
  induction specs with
  | nil => exact fun table h => ⟨h, (List.append_nil _).symm⟩
  | cons spec specs ih =>
    intro table h
    obtain ⟨hindexed, hspecs⟩ := ih _ (indexed_register h spec)
    refine ⟨hindexed, ?_⟩
    rw [List.foldl_cons, hspecs, register, List.append_assoc, List.singleton_append]

/-- **The look-up is a backwards scan** of the registered commands. -/
theorem lookup_ofList (specs : List (CommandSpec α)) (head : String) :
    (ofList specs).lookup head =
      specs.reverse.find? (·.isCalled (lowered (trimmed head))) := by
  obtain ⟨hindexed, hspecs⟩ := indexed_foldl specs empty indexed_empty
  have h := hindexed.latest (lowered (trimmed head))
  rw [hspecs] at h
  unfold lookup ofList
  rw [hspecs]
  exact h

end CommandTable

end ModalConsole
