import InterfaceWitness.Proofs.Registry.Refinement

/-!
What a registry knows of the steps that have been made: the last write to a
place, unless it was removed since, and the tables that were created.
-/

namespace InterfaceWitness

variable {Kind : Type} [WitnessKind Kind]

namespace RegistryStep

/-- What a step leaves at a place, if it touches the place. -/
def effect? (step : RegistryStep Kind) (place : Place) : Option (Option (StoredWitness Kind)) :=
  match step with
  | .register key witness =>
      if (TableHandle.ofKind witness.kind).place key = place then some (some witness) else none
  | .write handle key witness => if handle.place key = place then some (some witness) else none
  | .remove handle key => if handle.place key = place then some none else none
  | _ => none

/-- The table of the registry that exists after a step, if the step uses one.
A plain lookup creates none. -/
def created? : RegistryStep Kind → Option String
  | .lookup _ _ => none
  | .register _ witness => some (WitnessKind.tableName witness.kind)
  | .write handle _ _ => handle.name?
  | .read handle _ _ => handle.name?
  | .remove handle _ => handle.name?
  | .contains handle _ => handle.name?
  | .view handle => handle.name?
  | .tableNames => none

/-- The last write to a place that is not followed by a removal. -/
def lastWrite? (past : List (RegistryStep Kind)) (place : Place) : Option (StoredWitness Kind) :=
  (past.reverse.findSome? (·.effect? place)).join

end RegistryStep

namespace FlatRegistry

variable {flat : FlatRegistry Kind} {past : List (RegistryStep Kind)} {place : Place}

/-- The flat map after some steps. -/
def afterAll (flat : FlatRegistry Kind) (past : List (RegistryStep Kind)) : FlatRegistry Kind :=
  past.foldl after flat

theorem afterAll_concat (flat : FlatRegistry Kind) (past : List (RegistryStep Kind))
    (step : RegistryStep Kind) :
    flat.afterAll (past ++ [step]) = (flat.afterAll past).after step := by
  simp [afterAll]

theorem names_after (step : RegistryStep Kind) :
    (flat.after step).names = flat.names ∪ step.created?.toFinset := by
  cases step <;> simp [after, create, put, remove, RegistryStep.created?]

/-- A step leaves a place as it was, unless it has an effect there. -/
theorem lookup_after (step : RegistryStep Kind) :
    (flat.after step).entries.lookup place
      = (step.effect? place).getD (flat.entries.lookup place) := by
  cases step with
  | register key witness =>
      simp only [after, RegistryStep.effect?, lookup_put]
      split <;> rfl
  | write handle key witness =>
      simp only [after, RegistryStep.effect?, lookup_put]
      split <;> rfl
  | remove handle key =>
      simp only [after, RegistryStep.effect?, lookup_remove]
      split <;> rfl
  | _ => rfl

/-- An entry is what the last step that touched its place has left there. -/
theorem lookup_afterAll_initial (past : List (RegistryStep Kind)) :
    (initial.afterAll past).entries.lookup place = RegistryStep.lastWrite? past place := by
  induction past using List.reverseRecOn with
  | nil => rfl
  | append_singleton past step inductionHypothesis =>
      rw [afterAll_concat, lookup_after, inductionHypothesis]
      unfold RegistryStep.lastWrite?
      rw [List.reverse_append, List.reverse_singleton, List.singleton_append, List.findSome?_cons]
      cases step.effect? place <;> rfl

theorem mem_names_afterAll_initial (past : List (RegistryStep Kind)) {name : String} :
    name ∈ (initial.afterAll past).names ↔ ∃ step ∈ past, step.created? = some name := by
  induction past using List.reverseRecOn with
  | nil => simp [afterAll, initial]
  | append_singleton past step inductionHypothesis =>
      rw [afterAll_concat, names_after, Finset.mem_union, inductionHypothesis]
      simp [or_and_right, exists_or, Option.mem_def]

variable [DecidableEq Kind]

theorem run_append (flat : FlatRegistry Kind) (past rest : List (RegistryStep Kind)) :
    flat.run (past ++ rest) = flat.run past ++ (flat.afterAll past).run rest := by
  induction past generalizing flat with
  | nil => rfl
  | cons step past inductionHypothesis =>
      rw [List.cons_append, run, inductionHypothesis, run, List.cons_append]
      rfl

/-- The answers of a registry, from the steps before. -/
structure Remembers (flat : FlatRegistry Kind) (past : List (RegistryStep Kind)) : Prop where
  read : ∀ handle key kind, ∃ found, flat.answer (.read handle key kind) = .content kind found ∧
    ∀ content, found = some content ↔
      RegistryStep.lastWrite? past (handle.place key) = some ⟨kind, content⟩
  lookup : ∀ key kind, ∃ found, flat.answer (.lookup key kind) = .content kind found ∧
    ∀ content, found = some content ↔
      RegistryStep.lastWrite? past ((TableHandle.ofKind kind).place key) = some ⟨kind, content⟩
  write : ∀ handle key witness, flat.answer (.write handle key witness)
    = .flag (RegistryStep.lastWrite? past (handle.place key)).isSome
  remove : ∀ handle key, flat.answer (.remove handle key)
    = .flag (RegistryStep.lastWrite? past (handle.place key)).isSome
  contains : ∀ handle key, flat.answer (.contains handle key)
    = .flag (RegistryStep.lastWrite? past (handle.place key)).isSome
  view : ∀ handle, ∃ view, flat.answer (.view handle) = .table view ∧
    view.keys.Pairwise WitnessKey.Before ∧
    (∀ key, key ∈ view.keys ↔ (RegistryStep.lastWrite? past (handle.place key)).isSome) ∧
    view.size = view.keys.length
  tableNames : ∃ names, flat.answer .tableNames = .names names ∧ names.Pairwise (· < ·) ∧
    ∀ name, name ∈ names ↔ ∃ step ∈ past, step.created? = some name

theorem remembers_afterAll_initial (past : List (RegistryStep Kind)) :
    (initial.afterAll past).Remembers past := by
  have stored (place : Place) : (initial.afterAll past).entries.lookup place
      = RegistryStep.lastWrite? past place := lookup_afterAll_initial past
  have present (place : Place) : decide (place ∈ (initial.afterAll past).entries)
      = (RegistryStep.lastWrite? past place).isSome := by
    rw [← stored, Bool.eq_iff_iff, decide_eq_true_iff]
    exact Finmap.lookup_isSome.symm
  refine ⟨?_, ?_, ?_, ?_, ?_, ?_, ?_⟩
  · intro handle key kind
    refine ⟨_, rfl, fun content => ?_⟩
    rw [read_eq_some_iff, stored]
  · intro key kind
    refine ⟨_, rfl, fun content => ?_⟩
    rw [read_eq_some_iff, stored]
  · intro handle key witness
    rw [answer, present]
  · intro handle key
    rw [answer, present]
  · intro handle key
    rw [answer, present]
  · intro handle
    refine ⟨_, rfl, (pairwise_ascending _).imp WitnessKey.compare_eq_lt_iff.mp, ?_,
      (length_ascending _).symm⟩
    intro key
    rw [← present, decide_eq_true_iff]
    simp [FlatRegistry.view]
  · refine ⟨_, rfl, ?_, ?_⟩
    · exact (pairwise_ascending _).imp WitnessKey.compare_string_eq_lt_iff.mp
    · simp [mem_names_afterAll_initial]

end FlatRegistry

namespace RegistrySession

variable [DecidableEq Kind]

/-- Among the kinds that share a table, a witness is found by its own kind alone,
whatever the names of the others. -/
theorem run_register_lookup (past : List (RegistryStep Kind)) (key : WitnessKey)
    {witness : StoredWitness Kind} {kind : Kind}
    (shared : WitnessKind.tableName kind = WitnessKind.tableName witness.kind) :
    initial.run (past ++ [.register key witness, .lookup key kind])
      = initial.run past ++ [.done, .content kind (witness.content? kind)] := by
  have samePlace : (TableHandle.ofKind witness.kind).place key
      = (TableHandle.ofKind kind).place key := by
    simp [TableHandle.place, shared]
  rw [represents_initial.run, represents_initial.run, FlatRegistry.run_append]
  simp [FlatRegistry.run, FlatRegistry.answer, FlatRegistry.read, FlatRegistry.lookup_after,
    RegistryStep.effect?, samePlace]

/-- A run that starts with an empty registry gives the answers of the flat map,
which are about the steps before. -/
theorem run_initial (past rest : List (RegistryStep Kind)) :
    initial.run (past ++ rest)
        = FlatRegistry.initial.run past ++ (FlatRegistry.initial.afterAll past).run rest ∧
      (FlatRegistry.initial.afterAll past).Remembers past := by
  refine ⟨?_, FlatRegistry.remembers_afterAll_initial past⟩
  rw [represents_initial.run, FlatRegistry.run_append]

end RegistrySession

end InterfaceWitness
