import InterfaceWitness.Proofs.Registry.Flat

/-!
Registries answer as flat maps do.

The tables of a session and the flat map are related by `Represents`, which
every step preserves and under which both give the same answer.
-/

namespace InterfaceWitness

variable {Kind : Type} [WitnessKind Kind] {session : RegistrySession Kind}
  {flat changed : FlatRegistry Kind} {handle other : TableHandle} {key : WitnessKey}
  {table : WitnessTable Kind}

namespace RegistrySession

/-- A flat map that stores what the tables of a session store. -/
structure Represents (session : RegistrySession Kind) (flat : FlatRegistry Kind) : Prop where
  names : ∀ name, name ∈ session.registry ↔ name ∈ flat.names
  tableName : ∀ handle, (session.table handle).name = handle.name?.getD "standalone"
  entries : ∀ handle key,
    (session.table handle).entries[key]? = flat.entries.lookup (handle.place key)

theorem represents_initial : (initial : RegistrySession Kind).Represents .initial where
  names := by simp [initial, FlatRegistry.initial]
  tableName handle := by
    cases handle <;>
      simp [initial, table, Registry.table, TableHandle.name?, WitnessTable.empty]
  entries handle key := by
    cases handle <;>
      simp [initial, table, Registry.table, FlatRegistry.initial, WitnessTable.empty]

theorem table_insert (registry : Registry Kind) (owner name : String) :
    Registry.table (registry.insert owner table) name
      = if name = owner then table else registry.table name := by
  simp only [Registry.table, Std.HashMap.getElem?_insert, beq_iff_eq]
  by_cases same : owner = name
  · simp [same]
  · simp [same, Ne.symm same]

/-- A table put in its place is found by every handle on it, and by no other. -/
theorem table_putTable (named : table.name = handle.name?.getD "standalone") :
    (session.putTable handle table).table other
      = if other.name? = handle.name? then table else session.table other := by
  cases handle <;> cases other <;>
    simp_all [putTable, Registry.putTable, RegistrySession.table, TableHandle.name?, table_insert]

theorem mem_putTable (named : table.name = handle.name?.getD "standalone") (name : String) :
    name ∈ (session.putTable handle table).registry ↔
      name ∈ session.registry ∨ handle.name? = some name := by
  cases handle <;>
    simp_all [putTable, Registry.putTable, TableHandle.name?, or_comm]

/-- What a step does to one table and leaves of the others. -/
theorem Represents.putTable (represents : session.Represents flat)
    (named : table.name = (session.table handle).name)
    (names : changed.names = (flat.create handle).names)
    (here : ∀ key, table.entries[key]? = changed.entries.lookup (handle.place key))
    (elsewhere : ∀ place, place.table ≠ handle.name? →
      changed.entries.lookup place = flat.entries.lookup place) :
    (session.putTable handle table).Represents changed := by
  rw [represents.tableName handle] at named
  refine ⟨?_, ?_, ?_⟩
  · intro name
    rw [mem_putTable named, represents.names, names]
    simp [FlatRegistry.create]
  · intro other
    rw [table_putTable named]
    split
    case isTrue same => rw [same, named]
    case isFalse => exact represents.tableName other
  · intro other key
    rw [table_putTable named]
    split
    case isTrue same =>
      have samePlace : other.place key = handle.place key := by simp [TableHandle.place, same]
      rw [here, samePlace]
    case isFalse different => rw [represents.entries, elsewhere (other.place key) different]

theorem Represents.ensure (represents : session.Represents flat) (handle : TableHandle) :
    (session.ensure handle).Represents (flat.create handle) :=
  represents.putTable rfl rfl (represents.entries handle) fun _ _ => rfl

theorem Represents.write (represents : session.Represents flat) (handle : TableHandle)
    (key : WitnessKey) (witness : StoredWitness Kind) :
    (session.putTable handle ((session.table handle).write key witness).2).Represents
      ((flat.create handle).put (handle.place key) witness) := by
  refine represents.putTable rfl rfl ?_ ?_
  · intro asked
    rw [FlatRegistry.lookup_put]
    simp only [WitnessTable.write, Std.HashMap.getElem?_insert, beq_iff_eq, TableHandle.place_inj,
      represents.entries]
    rfl
  · intro place different
    rw [FlatRegistry.lookup_put, if_neg fun same => different (by rw [← same]; rfl)]
    rfl

theorem Represents.remove (represents : session.Represents flat) (handle : TableHandle)
    (key : WitnessKey) :
    (session.putTable handle ((session.table handle).remove key).2).Represents
      ((flat.create handle).remove (handle.place key)) := by
  refine represents.putTable rfl rfl ?_ ?_
  · intro asked
    rw [FlatRegistry.lookup_remove]
    simp only [WitnessTable.remove, Std.HashMap.getElem?_erase, beq_iff_eq, TableHandle.place_inj,
      represents.entries]
    rfl
  · intro place different
    rw [FlatRegistry.lookup_remove, if_neg fun same => different (by rw [← same]; rfl)]
    rfl

theorem Represents.contains (represents : session.Represents flat) (handle : TableHandle)
    (key : WitnessKey) :
    (session.table handle).entries.contains key = decide (handle.place key ∈ flat.entries) := by
  rw [Std.HashMap.contains_eq_isSome_getElem?, represents.entries, Bool.eq_iff_iff,
    decide_eq_true_iff]
  exact Finmap.lookup_isSome

theorem Represents.view (represents : session.Represents flat) (handle : TableHandle) :
    (session.table handle).view = flat.view handle := by
  have keys : (session.table handle).keys = ascending (flat.keys handle) := by
    apply sorted_keys_eq_ascending
    intro key
    rw [FlatRegistry.mem_keys, Std.HashMap.mem_iff_isSome_getElem?, represents.entries]
    exact Finmap.lookup_isSome
  have sameLength : (session.table handle).keys.length = (session.table handle).size :=
    (sorted_perm _).length_eq.trans Std.HashMap.length_keys
  have size : (session.table handle).size = (flat.keys handle).card := by
    rw [← sameLength, keys, length_ascending]
  unfold WitnessTable.view WitnessTable.description FlatRegistry.view
  rw [represents.tableName, keys, size]

variable [DecidableEq Kind]

theorem Represents.read (represents : session.Represents flat) (handle : TableHandle)
    (key : WitnessKey) (kind : Kind) :
    (session.table handle).read key kind = flat.read (handle.place key) kind := by
  rw [WitnessTable.read, represents.entries, FlatRegistry.read]

/-- A table that does not exist reads as an empty one. -/
theorem lookup_eq_read (session : RegistrySession Kind) (key : WitnessKey) (kind : Kind) :
    session.registry.lookup key kind = (session.table (.ofKind kind)).read key kind := by
  have ofKind : session.table (.ofKind kind)
      = session.registry.table (WitnessKind.tableName kind) := rfl
  rw [ofKind]
  cases found : session.registry[WitnessKind.tableName kind]? <;>
    simp [Registry.lookup, Registry.table, found, WitnessTable.read, WitnessTable.empty]

/-- Every step gives the answer of the flat map. -/
theorem Represents.step (represents : session.Represents flat) (step : RegistryStep Kind) :
    (session.step step).1 = flat.answer step ∧
      (session.step step).2.Represents (flat.after step) := by
  cases step with
  | lookup key kind =>
      exact ⟨by simp [RegistrySession.step, FlatRegistry.answer, lookup_eq_read, represents.read],
        represents⟩
  | register key witness => exact ⟨rfl, represents.write (.ofKind witness.kind) key witness⟩
  | write handle key witness =>
      exact ⟨congrArg RegistryAnswer.flag (represents.contains handle key),
        represents.write handle key witness⟩
  | read handle key kind =>
      exact ⟨congrArg (RegistryAnswer.content kind) (represents.read handle key kind),
        represents.ensure handle⟩
  | remove handle key =>
      exact ⟨congrArg RegistryAnswer.flag (represents.contains handle key),
        represents.remove handle key⟩
  | contains handle key =>
      exact ⟨congrArg RegistryAnswer.flag (represents.contains handle key),
        represents.ensure handle⟩
  | view handle =>
      exact ⟨congrArg RegistryAnswer.table (represents.view handle), represents.ensure handle⟩
  | tableNames =>
      exact ⟨congrArg RegistryAnswer.names (sorted_keys_eq_ascending represents.names), represents⟩

/-- Every run gives the answers of the flat map. -/
theorem Represents.run (represents : session.Represents flat) (steps : List (RegistryStep Kind)) :
    session.run steps = flat.run steps := by
  induction steps generalizing session flat with
  | nil => rfl
  | cons step rest inductionHypothesis =>
      obtain ⟨answered, after⟩ := represents.step step
      rw [RegistrySession.run, FlatRegistry.run, answered, inductionHypothesis after]

end RegistrySession

end InterfaceWitness
