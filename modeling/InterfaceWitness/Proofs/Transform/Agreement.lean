import InterfaceWitness.Proofs.Transform.Needs
import InterfaceWitness.Proofs.Transform.Votes

/-!
Where only declared positions count, the analysis of an interface and the routes
of its witness find the same directions.  The transformer is then of the kind of
the interface, and what it takes is what it uses.
-/

namespace InterfaceWitness

namespace TransformKind

variable {kind : TransformKind} {takes gives : Prop}

theorem Follows.takesTo_iff (follows : kind.Follows takes gives) : kind.TakesTo ↔ takes := by
  constructor
  · intro taken
    rcases taken with isPullback | isIso
    · exact (follows.pullback.mp isPullback).1
    · exact (follows.iso.mp isIso).1
  · intro taken
    by_cases given : gives
    · exact .inr (follows.iso.mpr ⟨taken, given⟩)
    · exact .inl (follows.pullback.mpr ⟨taken, given⟩)

theorem Follows.takesFrom_iff (follows : kind.Follows takes gives) : kind.TakesFrom ↔ gives := by
  constructor
  · intro given
    rcases given with isMap | isIso
    · exact (follows.map.mp isMap).2
    · exact (follows.iso.mp isIso).2
  · intro given
    by_cases taken : takes
    · exact .inr (follows.iso.mpr ⟨taken, given⟩)
    · exact .inl (follows.map.mpr ⟨taken, given⟩)

/-- A kind that follows the needs supplies them as it is. -/
theorem Follows.covering_eq {needsTo needsFrom : Bool}
    (follows : kind.Follows (needsTo = true) (needsFrom = true)) :
    kind.covering needsTo needsFrom = kind := by
  cases kind with
  | iso => rfl
  | none => rfl
  | pullback =>
      obtain ⟨needed, unneeded⟩ := follows.pullback.mp rfl
      simp [covering, needed, unneeded]
  | map =>
      obtain ⟨unneeded, needed⟩ := follows.map.mp rfl
      simp [covering, needed, unneeded]

end TransformKind

theorem TypeExpr.involves_selfType_iff {type : TypeExpr} :
    type.Involves [selfType] ↔ type.HasSubject := by
  constructor
  · rintro ⟨formers, name, occurs, subject, isSelf, stands⟩
    obtain rfl := List.mem_singleton.mp isSelf
    obtain rfl := stands.resolve_right fun projected => projected.1 rfl
    exact ⟨formers, occurs⟩
  · rintro ⟨formers, occurs⟩
    exact ⟨formers, selfType, occurs, selfType, List.mem_singleton_self _, .inl rfl⟩

/-- A transformer of the kind that its interface has, which takes exactly the
conversions that it uses. -/
structure TransformDef.Exact (definition : TransformDef) : Prop where
  kept : definition.promotedFrom = none
  usesTo : definition.usesTo = true ↔ definition.kind = .pullback ∨ definition.kind = .iso
  usesFrom : definition.usesFrom = true ↔ definition.kind = .map ∨ definition.kind = .iso

/-- The routes need what the kind follows, so that the kind is left. -/
theorem WitnessSpec.exact_transformOf {spec : WitnessSpec} {routes : List FieldRoute}
    (follows : spec.transformKind.Follows (routes.any (·.transport.needsTo) = true)
      (routes.any (·.transport.needsFrom) = true)) : (spec.transformOf routes).Exact := by
  have kept : (spec.transformOf routes).kind = spec.transformKind := follows.covering_eq
  refine ⟨?_, ?_, ?_⟩
  · exact if_pos kept
  · rw [kept]
    exact follows.takesTo_iff.symm
  · rw [kept]
    exact follows.takesFrom_iff.symm

namespace Interface

variable {interface : Interface} {config : Config} {generated : Generated}
  {definition : TransformDef} {requirement : Requirement} {method : Method}

/-- Only declared positions count: there are no associated types, and every
requirement is a method without a receiver. -/
structure Freestanding (interface : Interface) : Prop where
  associatedTypes : interface.associatedTypes = []
  requirements : ∀ requirement ∈ interface.requirements, ∃ method,
    requirement = .method method ∧ method.receiver = .static

theorem Freestanding.subjectsOf_eq (free : interface.Freestanding) (own : method.generics = []) :
    interface.subjectsOf method = [selfType] := by
  simp [subjectsOf, free.associatedTypes, own]

theorem Freestanding.isStatic (free : interface.Freestanding)
    (required : requirement ∈ interface.requirements) : requirement.isStatic = true := by
  obtain ⟨method, rfl, isStatic⟩ := free.requirements requirement required
  exact decide_eq_true isStatic

theorem Freestanding.not_changesReceiver (free : interface.Freestanding)
    (required : requirement ∈ interface.requirements) : ¬requirement.ChangesReceiver := by
  obtain ⟨method, rfl, isStatic⟩ := free.requirements requirement required
  intro changes
  exact absurd (isStatic.symm.trans changes) (by decide)

/-- What is said of some method of a freestanding interface can be said of some
requirement. -/
theorem Freestanding.exists_method_iff (free : interface.Freestanding) {Holds : Method → Prop}
    {Demands : Requirement → Prop}
    (same : ∀ method, .method method ∈ interface.requirements →
      (Holds method ↔ Demands (.method method))) :
    (∃ method, .method method ∈ interface.requirements ∧ Holds method) ↔
      ∃ requirement ∈ interface.requirements, Demands requirement := by
  constructor
  · rintro ⟨method, required, holds⟩
    exact ⟨_, required, (same method required).mp holds⟩
  · rintro ⟨requirement, required, demands⟩
    obtain ⟨method, rfl, -⟩ := free.requirements requirement required
    exact ⟨method, required, (same method required).mpr demands⟩

theorem Freestanding.anyTakes_iff (free : interface.Freestanding)
    (own : ∀ method, .method method ∈ interface.requirements → method.generics = []) :
    interface.AnyTakes interface.requirements ↔
      ∃ requirement ∈ interface.requirements, requirement.TakesSubject := by
  apply free.exists_method_iff
  intro method required
  simp only [Takes, free.subjectsOf_eq (own method required), TypeExpr.involves_selfType_iff,
    Requirement.TakesSubject]

theorem Freestanding.anyGives_iff (free : interface.Freestanding)
    (own : ∀ method, .method method ∈ interface.requirements → method.generics = []) :
    interface.AnyGives interface.requirements ↔
      ∃ requirement ∈ interface.requirements, requirement.GivesSubject := by
  apply free.exists_method_iff
  intro method required
  simp only [Gives, free.subjectsOf_eq (own method required), TypeExpr.involves_selfType_iff,
    Requirement.GivesSubject, Requirement.fieldOutput]

variable {fields : List WitnessField} {routes : List FieldRoute}

theorem Freestanding.needsTo_iff (free : interface.Freestanding)
    (own : ∀ method, .method method ∈ interface.requirements → method.generics = [])
    (routed : List.Forall₂ (fun field route => WitnessField.route field interface.name = .ok route)
      interface.fields routes) :
    routes.any (·.transport.needsTo) = true ↔ interface.AnyTakes interface.requirements := by
  rw [WitnessSpec.any_routes_iff rfl FunctionField.needsTo_iff routed, exists_function_iff,
    free.anyTakes_iff own]
  refine exists_congr fun requirement => and_congr_right fun required => ?_
  simp only [Requirement.function, Requirement.fieldParameters_mention_iff,
    free.isStatic required, Bool.true_eq_false, false_or]

theorem Freestanding.needsFrom_iff (free : interface.Freestanding)
    (own : ∀ method, .method method ∈ interface.requirements → method.generics = [])
    (routed : List.Forall₂ (fun field route => WitnessField.route field interface.name = .ok route)
      interface.fields routes) :
    routes.any (·.transport.needsFrom) = true ↔ interface.AnyGives interface.requirements := by
  rw [WitnessSpec.any_routes_iff rfl
      (fun transported => (FunctionField.needsFrom_iff transported).trans
        (or_congr_right (FunctionField.hasInout_iff transported))) routed, exists_function_iff,
    free.anyGives_iff own]
  refine exists_congr fun requirement => and_congr_right fun required => ?_
  simp only [Requirement.function, Requirement.fieldOutput_mention_iff,
    Requirement.fieldParameters_changed_iff, free.not_changesReceiver required, or_false]

/-- Only receivers, properties and associated types make the routes of a witness
call for another transformer than the methods of the interface do. -/
theorem exact_of_generate (free : interface.Freestanding)
    (ok : interface.generate config = .ok generated) (member : definition ∈ generated.transforms) :
    definition.Exact := by
  simp only [generate, bind_eq_ok_iff, pure_eq_ok_iff] at ok
  obtain ⟨spec, emitted, definitions, transformed, rfl⟩ := ok
  have own : ∀ method, .method method ∈ interface.requirements → method.generics = [] :=
    fun _ required => generics_of_emit emitted required
  obtain ⟨_, rfl⟩ := emit_eq_ok emitted
  obtain ⟨_, rfl⟩ | ⟨_, routes, routed, rfl⟩ := WitnessSpec.transforms_eq_ok_iff.mp transformed
  · simp at member
  obtain rfl := List.mem_singleton.mp member
  apply WitnessSpec.exact_transformOf
  rw [free.needsTo_iff own routed, free.needsFrom_iff own routed]
  exact follows_transformKind interface

/-- One method takes the subject and another one gives it, so that the witness
is converted in both directions. -/
theorem exact_of_generate_parsing :
    let parsing : Interface :=
      { name := "Parsing"
        access := .exported
        requirements := [
          .method ⟨"parse", [⟨"text", .identifier "String", .borrowed⟩], .static, [],
            some (.optional (.tuple [.identifier "Self", .identifier "usize"]))⟩,
          .method ⟨"length", [⟨"value", .identifier "Self", .borrowed⟩], .static, [],
            some (.identifier "usize")⟩,
          .method ⟨"limit", [], .static, [], some (.generic "Vec" [.identifier "u8"])⟩]
        associatedTypes := []
        options := {} }
    let definition : TransformDef :=
      { kind := .iso
        promotedFrom := none
        routes := [⟨"parse", .rebuild [.pass] .map⟩, ⟨"length", .rebuild [.pullBack] .pass⟩,
          ⟨"limit", .forward⟩]
        clonesTarget := false }
    let generated : Generated := ⟨parsing.witness {}, [definition], {}⟩
    parsing.Freestanding ∧ parsing.generate {} = .ok generated ∧
      definition ∈ generated.transforms ∧ definition.Exact := by
  intro parsing definition generated
  have free : parsing.Freestanding := by
    refine ⟨rfl, ?_⟩
    simp [parsing]
  have ok : parsing.generate {} = .ok generated := by decide +kernel
  have member : definition ∈ generated.transforms := List.mem_singleton.mpr rfl
  exact ⟨free, ok, member, exact_of_generate free ok member⟩

end Interface

end InterfaceWitness
