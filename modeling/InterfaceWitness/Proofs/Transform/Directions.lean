import InterfaceWitness.Proofs.Failing
import InterfaceWitness.Transform

/-!
The directions of a transformer.  Its kind supplies every conversion that one
of its routes needs.
-/

namespace InterfaceWitness

namespace TransformKind

/-- Whether the transformer takes a conversion from the target to the subject. -/
def TakesTo (kind : TransformKind) : Prop := kind = .pullback ∨ kind = .iso

/-- Whether the transformer takes a conversion from the subject to the target. -/
def TakesFrom (kind : TransformKind) : Prop := kind = .map ∨ kind = .iso

end TransformKind

namespace TransformDef

end TransformDef

namespace WitnessSpec

variable {spec : WitnessSpec} {interface : String} {definitions : List TransformDef}

/-- The transformer of a witness whose fields have the given routes. -/
def transformOf (spec : WitnessSpec) (routes : List FieldRoute) : TransformDef :=
  let kind := spec.transformKind.covering (routes.any (·.transport.needsTo))
    (routes.any (·.transport.needsFrom))
  { kind := kind
    promotedFrom := if kind = spec.transformKind then none else some spec.transformKind
    routes := routes
    clonesTarget := routes.any (·.transport.hasInout) }

/-- Routing fails or gives a route to every field, in the order of the fields. -/
theorem transforms_eq_ok_iff :
    spec.transforms interface = .ok definitions ↔
      (spec.transformKind = .none ∧ definitions = []) ∨
      (spec.transformKind ≠ .none ∧ ∃ routes,
        List.Forall₂ (fun field route => WitnessField.route field interface = .ok route)
          spec.fields routes ∧
        definitions = [spec.transformOf routes]) := by
  unfold transforms
  by_cases unused : spec.transformKind = .none
  · simp [unused, eq_comm]
  · simp only [unused, if_false, false_and, false_or, ne_eq, not_false_eq_true, true_and,
      bind_eq_ok_iff, pure_eq_ok_iff, mapM_eq_ok_iff, eq_comm (a := definitions)]
    rfl

/-- Routing fails at the first field that has no route. -/
theorem transforms_eq_error_iff {error : GenerateError} :
    spec.transforms interface = .error error ↔
      spec.transformKind ≠ .none ∧ ∃ before field after, spec.fields = before ++ field :: after ∧
        (∀ earlier ∈ before, ∃ route, WitnessField.route earlier interface = .ok route) ∧
        WitnessField.route field interface = .error error := by
  unfold transforms
  by_cases unused : spec.transformKind = .none
  · simp [unused]
  · simp only [unused, if_false, bind_eq_error_iff, pure_ne_error, and_false, exists_false,
      or_false, mapM_eq_error_iff, ne_eq, not_false_eq_true, true_and]

end WitnessSpec

end InterfaceWitness
