import Mathlib.Data.List.Forall2

/-!
Computations that may fail: what their steps have given when the whole has
given something.
-/

namespace InterfaceWitness

universe u v

variable {Fault : Type u} {Input Output : Type v}

theorem bind_eq_ok_iff {first : Except Fault Input} {next : Input → Except Fault Output}
    {output : Output} :
    first >>= next = .ok output ↔ ∃ value, first = .ok value ∧ next value = .ok output := by
  cases first with
  | error fault => simp [Bind.bind, Except.bind]
  | ok value => simp [Bind.bind, Except.bind]

@[simp]
theorem pure_eq_ok_iff {value output : Output} :
    (pure value : Except Fault Output) = .ok output ↔ value = output := by
  simp [Pure.pure, Except.pure]

/-- A computation fails at its first step or after it. -/
theorem bind_eq_error_iff {first : Except Fault Input} {next : Input → Except Fault Output}
    {fault : Fault} :
    first >>= next = .error fault ↔
      first = .error fault ∨ ∃ value, first = .ok value ∧ next value = .error fault := by
  cases first with
  | error found => simp [Bind.bind, Except.bind]
  | ok value => simp [Bind.bind, Except.bind]

@[simp]
theorem pure_ne_error {output : Output} {fault : Fault} :
    (pure output : Except Fault Output) ≠ .error fault := by
  simp [Pure.pure, Except.pure]

@[simp]
theorem throw_eq_error_iff {found fault : Fault} :
    (throw found : Except Fault Output) = .error fault ↔ found = fault := by
  simp [throw, throwThe, MonadExceptOf.throw]

theorem toOption_eq_some_iff {result : Except Fault Output} {output : Output} :
    result.toOption = some output ↔ result = .ok output := by
  cases result <;> simp [Except.toOption]

/-- A step that refuses some inputs has passed the others on. -/
theorem refuse_eq_ok_iff {refused : Prop} [Decidable refused] {fault : Fault}
    {next : Input → Except Fault Output} {rest : Except Fault Output} {output : Output} :
    (if refused then throw fault >>= next else rest) = .ok output ↔
      ¬refused ∧ rest = .ok output := by
  split
  case isTrue holds => simp [holds, throw, throwThe, MonadExceptOf.throw, Bind.bind, Except.bind]
  case isFalse fails => simp [fails]

theorem refuse_eq_error_iff {refused : Prop} [Decidable refused] {fault found : Fault}
    {next : Input → Except Fault Output} {rest : Except Fault Output} :
    (if refused then throw fault >>= next else rest) = .error found ↔
      (refused ∧ fault = found) ∨ (¬refused ∧ rest = .error found) := by
  split
  case isTrue holds => simp [holds, bind_eq_error_iff]
  case isFalse fails => simp [fails]

/-- A loop that stops at the first fault gives one output for each input, in
order. -/
theorem mapM_eq_ok_iff {step : Input → Except Fault Output} {inputs : List Input}
    {outputs : List Output} :
    inputs.mapM step = .ok outputs ↔
      List.Forall₂ (fun input output => step input = .ok output) inputs outputs := by
  induction inputs generalizing outputs with
  | nil => cases outputs <;> simp [Pure.pure, Except.pure]
  | cons input rest inductionHypothesis =>
      simp only [List.mapM_cons, bind_eq_ok_iff, pure_eq_ok_iff, inductionHypothesis,
        List.forall₂_cons_left_iff]
      constructor
      · rintro ⟨output, stepped, others, restStepped, rfl⟩
        exact ⟨output, others, stepped, restStepped, rfl⟩
      · rintro ⟨output, others, stepped, restStepped, rfl⟩
        exact ⟨output, stepped, others, restStepped, rfl⟩

/-- Steps that agree on the inputs give the same. -/
theorem mapM_congr {step other : Input → Except Fault Output} {inputs : List Input}
    (same : ∀ input ∈ inputs, step input = other input) : inputs.mapM step = inputs.mapM other := by
  induction inputs with
  | nil => rfl
  | cons input rest inductionHypothesis =>
      have later := inductionHypothesis fun other member =>
        same other (List.mem_cons_of_mem _ member)
      rw [List.mapM_cons, List.mapM_cons, same input (List.mem_cons_self ..), later]

theorem exists_of_mapM_eq_ok {step : Input → Except Fault Output} {inputs : List Input}
    {outputs : List Output} (ran : inputs.mapM step = .ok outputs) {input : Input}
    (member : input ∈ inputs) : ∃ output, step input = .ok output := by
  induction mapM_eq_ok_iff.mp ran with
  | nil => simp at member
  | cons stepped rest inductionHypothesis =>
      rcases List.mem_cons.mp member with rfl | inRest
      · exact ⟨_, stepped⟩
      · exact inductionHypothesis (mapM_eq_ok_iff.mpr rest) inRest

/-- A loop fails with the fault of the first input that has one. -/
theorem mapM_eq_error_iff {step : Input → Except Fault Output} {inputs : List Input}
    {fault : Fault} :
    inputs.mapM step = .error fault ↔ ∃ before input after, inputs = before ++ input :: after ∧
      (∀ earlier ∈ before, ∃ output, step earlier = .ok output) ∧ step input = .error fault := by
  induction inputs with
  | nil => simp
  | cons first rest inductionHypothesis =>
      simp only [List.mapM_cons, bind_eq_error_iff, pure_ne_error, and_false, exists_false,
        or_false, inductionHypothesis]
      constructor
      · rintro (failed | ⟨output, stepped, before, input, after, rfl, passed, failed⟩)
        · exact ⟨[], first, rest, rfl, by simp, failed⟩
        · refine ⟨first :: before, input, after, rfl, ?_, failed⟩
          intro earlier member
          rcases List.mem_cons.mp member with rfl | inBefore
          · exact ⟨output, stepped⟩
          · exact passed earlier inBefore
      · rintro ⟨before, input, after, equal, passed, failed⟩
        cases before with
        | nil =>
            obtain ⟨rfl, rfl⟩ := List.cons.inj equal
            exact .inl failed
        | cons _ before =>
            obtain ⟨rfl, rfl⟩ := List.cons.inj equal
            obtain ⟨output, stepped⟩ := passed first (List.mem_cons_self ..)
            refine .inr ⟨output, stepped, before, input, after, rfl, ?_, failed⟩
            intro earlier inBefore
            exact passed earlier (List.mem_cons_of_mem _ inBefore)

/-- A loop gets through exactly if every step does. -/
theorem exists_mapM_eq_ok_iff {step : Input → Except Fault Output} {inputs : List Input} :
    (∃ outputs, inputs.mapM step = .ok outputs) ↔
      ∀ input ∈ inputs, ∃ output, step input = .ok output := by
  constructor
  · rintro ⟨outputs, ran⟩ input member
    exact exists_of_mapM_eq_ok ran member
  · intro stepped
    cases ran : inputs.mapM step with
    | ok outputs => exact ⟨outputs, rfl⟩
    | error fault =>
        obtain ⟨before, input, after, rfl, _, failed⟩ := mapM_eq_error_iff.mp ran
        obtain ⟨output, passed⟩ := stepped input (by simp)
        simp [passed] at failed

/-- Among inputs of which some step fails there is a first one. -/
theorem exists_first_failing {step : Input → Except Fault Output} {inputs : List Input}
    (failing : ∃ input ∈ inputs, ¬∃ output, step input = .ok output) :
    ∃ before input after fault, inputs = before ++ input :: after ∧
      (∀ earlier ∈ before, ∃ output, step earlier = .ok output) ∧ step input = .error fault := by
  cases ran : inputs.mapM step with
  | ok outputs =>
      obtain ⟨input, member, failed⟩ := failing
      exact absurd (exists_of_mapM_eq_ok ran member) failed
  | error fault =>
      obtain ⟨before, input, after, split⟩ := mapM_eq_error_iff.mp ran
      exact ⟨before, input, after, fault, split⟩

theorem eq_map_of_mapM_eq_ok {step : Input → Except Fault Output} {inputs : List Input}
    {outputs : List Output} (make : Input → Output)
    (same : ∀ input output, step input = .ok output → output = make input)
    (ran : inputs.mapM step = .ok outputs) : outputs = inputs.map make := by
  induction mapM_eq_ok_iff.mp ran with
  | nil => rfl
  | cons stepped rest inductionHypothesis =>
      rw [List.map_cons, same _ _ stepped, inductionHypothesis (mapM_eq_ok_iff.mpr rest)]

end InterfaceWitness
