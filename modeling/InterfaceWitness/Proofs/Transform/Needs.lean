import InterfaceWitness.Proofs.Emission
import InterfaceWitness.Proofs.Transform.Positions

/-!
The directions of a transformer, read off the interface: what its requirements
take, give and change decides which conversions the routes need.
-/

namespace InterfaceWitness

namespace Requirement

/-- Whether the subject stands in a declared parameter. -/
def TakesSubject : Requirement → Prop
  | .method declared => ∃ parameter ∈ declared.parameters, parameter.type.HasSubject
  | .property _ => False

/-- Whether the subject stands in the result, or in the type of a property. -/
def GivesSubject (requirement : Requirement) : Prop :=
  ∃ type ∈ requirement.fieldOutput, type.HasSubject

/-- Whether a method changes what it is called on. -/
def ChangesReceiver : Requirement → Prop
  | .method declared => declared.receiver = .mutable
  | .property _ => False

variable {requirement : Requirement} {names : SubjectNames} {transport : Transport}

theorem fieldParameters_mention_iff :
    (∃ parameter ∈ requirement.fieldParameters,
      parameter.type.mentions SubjectNames.primary = true) ↔
      requirement.isStatic = false ∨ requirement.TakesSubject := by
  simp only [TypeExpr.mentions_primary_iff_hasSubject]
  cases requirement with
  | property declared =>
      cases isStatic : declared.isStatic with
      | true => simp [fieldParameters, Requirement.isStatic, TakesSubject, isStatic]
      | false =>
          simp [fieldParameters, Requirement.isStatic, TakesSubject, isStatic]
  | method declared =>
      cases receiver : declared.receiver <;>
        simp [fieldParameters, Requirement.isStatic, TakesSubject, receiver, Receiver.passing?]

theorem fieldOutput_mention_iff :
    (∃ type ∈ requirement.fieldOutput, type.mentions SubjectNames.primary = true) ↔
      requirement.GivesSubject := by
  simp only [GivesSubject, TypeExpr.mentions_primary_iff_hasSubject]

theorem fieldParameters_changed_iff :
    (∃ parameter ∈ requirement.fieldParameters, parameter.passing = .inout ∧
      parameter.type.mentions SubjectNames.primary = true) ↔ requirement.ChangesReceiver := by
  simp only [TypeExpr.mentions_primary_iff_hasSubject]
  cases requirement with
  | property declared =>
      cases isStatic : declared.isStatic <;> simp [fieldParameters, ChangesReceiver, isStatic]
  | method declared =>
      cases receiver : declared.receiver <;>
        simp [fieldParameters, ChangesReceiver, receiver, Receiver.passing?,
          Passing.forField_ne_inout]

end Requirement

namespace WitnessSpec

/-- A need of some route is a need of some function, as nested witnesses need
nothing. -/
theorem any_routes_iff {interface : String} {fields : List WitnessField} {routes : List FieldRoute}
    {needs : Transport → Bool} {Demands : FunctionField → Prop}
    (nested : needs .nested = false)
    (transported : ∀ {function : FunctionField} {transport},
      function.transport SubjectNames.primary = .ok transport →
      (needs transport = true ↔ Demands function))
    (routed : List.Forall₂ (fun field route => WitnessField.route field interface = .ok route)
      fields routes) :
    routes.any (needs ·.transport) = true ↔
      ∃ field ∈ fields, ∃ function, field.kind = .function function ∧ Demands function := by
  induction routed with
  | nil => simp
  | @cons field route fields routes isRoute _ inductionHypothesis =>
      have first : needs route.transport = true ↔
          ∃ function, field.kind = .function function ∧ Demands function := by
        cases isKind : field.kind with
        | nested constraint witness associated =>
            obtain rfl : (⟨field.name, .nested⟩ : FieldRoute) = route := by
              simpa [WitnessField.route, isKind] using isRoute
            simp [nested]
        | function function =>
            simp [transported (WitnessField.transport_eq_ok isRoute isKind)]
      simp only [List.any_cons, Bool.or_eq_true, first, inductionHypothesis, List.mem_cons,
        exists_eq_or_imp]

end WitnessSpec

namespace Interface

variable {interface : Interface} {config : Config} {generated : Generated}
  {definition : TransformDef}

/-- The directions of a transformer are those that the requirements call for. -/
structure Directs (interface : Interface) (definition : TransformDef) : Prop where
  usesTo : definition.usesTo = true ↔
    (∃ requirement ∈ interface.requirements, requirement.isStatic = false) ∨
      ∃ requirement ∈ interface.requirements, requirement.TakesSubject
  usesFrom : definition.usesFrom = true ↔
    (∃ requirement ∈ interface.requirements, requirement.ChangesReceiver) ∨
      ∃ requirement ∈ interface.requirements, requirement.GivesSubject
  clonesTarget : definition.clonesTarget = true ↔
    ∃ requirement ∈ interface.requirements, requirement.ChangesReceiver
  promotedFrom : ∀ aggregate, definition.promotedFrom = some aggregate ↔
    aggregate = interface.transformKind ∧ definition.kind ≠ interface.transformKind

theorem exists_function_iff {Demands : FunctionField → Prop} :
    (∃ field ∈ interface.fields, ∃ function, field.kind = .function function ∧
        Demands function) ↔
      ∃ requirement ∈ interface.requirements,
        Demands (requirement.function (SubjectNames.ofInterface interface)) := by
  constructor
  · rintro ⟨field, member, function, isFunction, demands⟩
    rcases mem_fields.mp member with ⟨_, _, _, _, rfl⟩ | ⟨requirement, required, rfl⟩
    · simp at isFunction
    · obtain rfl := FieldKind.function.inj isFunction
      exact ⟨requirement, required, demands⟩
  · rintro ⟨requirement, required, demands⟩
    exact ⟨_, mem_fields.mpr (.inr ⟨requirement, required, rfl⟩), _, rfl, demands⟩

/-- What a transformer converts is read off the requirements. -/
theorem directs_of_generate (ok : interface.generate config = .ok generated)
    (member : definition ∈ generated.transforms) : interface.Directs definition := by
  obtain ⟨_, definitions, transformed, rfl⟩ := generate_eq_ok ok
  obtain ⟨_, rfl⟩ | ⟨_, routes, routed, rfl⟩ := WitnessSpec.transforms_eq_ok_iff.mp transformed
  · simp at member
  obtain rfl := List.mem_singleton.mp member
  -- Each need of the routes is one of the fields' functions, and so of the requirements.
  have takes : routes.any (·.transport.needsTo) = true ↔ ∃ requirement ∈ interface.requirements,
      requirement.isStatic = false ∨ requirement.TakesSubject := by
    rw [WitnessSpec.any_routes_iff rfl FunctionField.needsTo_iff routed]
    exact exists_function_iff.trans
      (by simp only [Requirement.function, Requirement.fieldParameters_mention_iff])
  have changes : routes.any (·.transport.hasInout) = true ↔
      ∃ requirement ∈ interface.requirements, requirement.ChangesReceiver := by
    rw [WitnessSpec.any_routes_iff rfl FunctionField.hasInout_iff routed]
    exact exists_function_iff.trans
      (by simp only [Requirement.function, Requirement.fieldParameters_changed_iff])
  have gives : routes.any (·.transport.needsFrom) = true ↔ ∃ requirement ∈ interface.requirements,
      requirement.GivesSubject ∨ requirement.ChangesReceiver := by
    rw [WitnessSpec.any_routes_iff rfl
      (fun transported => (FunctionField.needsFrom_iff transported).trans
        (or_congr_right (FunctionField.hasInout_iff transported))) routed]
    exact exists_function_iff.trans
      (by simp only [Requirement.function, Requirement.fieldOutput_mention_iff,
        Requirement.fieldParameters_changed_iff])
  refine
    { usesTo := takes.trans (by simp only [and_or_left, exists_or])
      usesFrom := gives.trans (by simp only [and_or_left, exists_or, or_comm])
      clonesTarget := changes
      promotedFrom := fun aggregate => ?_ }
  have aggregated : (interface.witness config).transformKind = interface.transformKind := rfl
  simp only [WitnessSpec.transformOf, aggregated]
  split
  case isTrue kept => simp [kept]
  case isFalse changed => simp [changed, eq_comm]

/-- Both methods only take subjects, which makes a pullback; that `advance`
changes its receiver calls for the other direction and for copies of the target. -/
theorem directs_of_generate_advancing :
    let advancing : Interface :=
      { name := "Advancing"
        access := .exported
        requirements := [
          .method ⟨"advance", [⟨"by", .identifier "Self::Stride", .borrowed⟩], .mutable, [], none⟩,
          .method ⟨"isAfter", [⟨"other", .optional (.identifier "Self"), .owned⟩], .borrowed, [],
            some (.identifier "bool")⟩,
          .property ⟨"origin", .identifier "u8", true, true⟩]
        associatedTypes := [⟨"Stride", none⟩]
        options := {} }
    let definition : TransformDef :=
      { kind := .iso
        promotedFrom := some .pullback
        routes := [⟨"advance", .rebuild [.inout, .pass] .pass⟩,
          ⟨"is_after", .rebuild [.pullBack, .pullBack] .pass⟩, ⟨"origin", .forward⟩]
        clonesTarget := true }
    let generated : Generated := ⟨advancing.witness {}, [definition], {}⟩
    advancing.generate {} = .ok generated ∧ definition ∈ generated.transforms ∧
      advancing.Directs definition := by
  intro advancing definition generated
  have ok : advancing.generate {} = .ok generated := by decide +kernel
  have member : definition ∈ generated.transforms := List.mem_singleton.mpr rfl
  exact ⟨ok, member, directs_of_generate ok member⟩

end Interface

end InterfaceWitness
