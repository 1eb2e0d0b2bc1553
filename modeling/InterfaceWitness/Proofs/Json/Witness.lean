import InterfaceWitness.Json.Witness
import InterfaceWitness.Proofs.Json.Interface

/-!
Witness specifications and transformers are recovered from the JSON that is
written for them.
-/

namespace InterfaceWitness

open Json (Recovers)

theorem Variance.recovers : Recovers Variance.ofJson Variance.toJson :=
  Json.recovers_named? Variance.ofWord?_display

theorem TransformKind.recovers : Recovers TransformKind.ofJson TransformKind.toJson :=
  Json.recovers_named? TransformKind.ofWord?_display

theorem FieldPassing.recovers : Recovers FieldPassing.ofJson FieldPassing.toJson :=
  Json.recovers_named? FieldPassing.ofWord?_word

theorem MemberAccess.recovers : Recovers MemberAccess.ofJson MemberAccess.toJson :=
  Json.recovers_named? MemberAccess.ofWord?_word

theorem ParameterRoute.recovers : Recovers ParameterRoute.ofJson ParameterRoute.toJson :=
  Json.recovers_named? ParameterRoute.ofWord?_word

theorem OutputRoute.recovers : Recovers OutputRoute.ofJson OutputRoute.toJson :=
  Json.recovers_named? OutputRoute.ofWord?_word

theorem FieldParameter.recovers : Recovers FieldParameter.ofJson FieldParameter.toJson := by
  intro parameter json same
  obtain ⟨_, fields, values⟩ := Json.fields?_of_reordered
    [["type"], ["passing"]] same (by simp [Json.Spelled])
  obtain _ | ⟨type, _ | ⟨passing, _ | _⟩⟩ := values
  simp [ofJson, fields, TypeExpr.recovers _ _ type, FieldPassing.recovers _ _ passing]

theorem FunctionField.recovers : Recovers FunctionField.ofJson FunctionField.toJson := by
  intro function json same
  obtain ⟨_, fields, values⟩ := Json.fields?_of_reordered
    [["requirement"], ["parameters"], ["output"], ["member"], ["variance"]] same
    (by simp [Json.Spelled])
  obtain _ | ⟨requirement, _ | ⟨parameters, _ | ⟨output, _ | ⟨member, _ | ⟨variance, _ | _⟩⟩⟩⟩⟩ :=
    values
  simp [ofJson, fields, Json.recovers_text? _ _ requirement,
    FieldParameter.recovers.list _ _ parameters, TypeExpr.recovers.nullable rfl _ _ output,
    MemberAccess.recovers _ _ member, Variance.recovers _ _ variance]

theorem FieldKind.recovers : Recovers FieldKind.ofJson FieldKind.toJson := by
  intro kind json same
  cases kind with
  | function function =>
      obtain ⟨_, rfl, content⟩ := Json.single_reordered.mp same
      simp [ofJson, FunctionField.recovers _ _ content]
  | nested interface witness associatedType =>
      obtain ⟨_, rfl, content⟩ := Json.single_reordered.mp same
      obtain ⟨_, fields, values⟩ := Json.fields?_of_reordered
        [["interface"], ["witness"], ["associated_type"]] content (by simp [Json.Spelled])
      obtain _ | ⟨interface, _ | ⟨witness, _ | ⟨associatedType, _ | _⟩⟩⟩ := values
      obtain ⟨-, others, rfl, -, -⟩ := Json.object_reordered.mp content
      simp [ofJson, nestedOfJson, fields, Json.recovers_text? _ _ interface,
        Json.recovers_text? _ _ witness, Json.recovers_text? _ _ associatedType]

theorem WitnessField.recovers : Recovers WitnessField.ofJson WitnessField.toJson := by
  intro field json same
  obtain ⟨_, fields, values⟩ := Json.fields?_of_reordered
    [["name"], ["kind"]] same (by simp [Json.Spelled])
  obtain _ | ⟨name, _ | ⟨kind, _ | _⟩⟩ := values
  simp [ofJson, fields, Json.recovers_text? _ _ name, FieldKind.recovers _ _ kind]

theorem WitnessSpec.recovers : Recovers WitnessSpec.ofJson WitnessSpec.toJson := by
  intro spec json same
  obtain ⟨_, fields, values⟩ := Json.fields?_of_reordered
    [["interface"], ["struct_name"], ["access"], ["generic_parameters"], ["fields"],
      ["constructor_parameters"], ["transform_kind"], ["options"]] same (by simp [Json.Spelled])
  obtain _ | ⟨interface, _ | ⟨structName, _ | ⟨access, _ | ⟨genericParameters, _ | ⟨given, _ |
    ⟨constructorParameters, _ | ⟨transformKind, _ | ⟨options, _ | _⟩⟩⟩⟩⟩⟩⟩⟩ := values
  simp [ofJson, fields, Json.recovers_text? _ _ interface, Json.recovers_text? _ _ structName,
    Access.recovers _ _ access, Json.recovers_texts _ _ genericParameters,
    WitnessField.recovers.list _ _ given, Json.recovers_texts _ _ constructorParameters,
    TransformKind.recovers _ _ transformKind, GenerationOptions.recovers _ _ options]

theorem Transport.recovers : Recovers Transport.ofJson Transport.toJson := by
  intro transport json same
  cases transport with
  | forward =>
      obtain rfl := Json.string_reordered.mp same
      rfl
  | nested =>
      obtain rfl := Json.string_reordered.mp same
      rfl
  | rebuild parameters output =>
      obtain ⟨_, rfl, content⟩ := Json.single_reordered.mp same
      obtain ⟨_, fields, values⟩ := Json.fields?_of_reordered
        [["parameters"], ["output"]] content (by simp [Json.Spelled])
      obtain _ | ⟨parameters, _ | ⟨output, _ | _⟩⟩ := values
      obtain ⟨-, others, rfl, -, -⟩ := Json.object_reordered.mp content
      simp [ofJson, rebuildOfJson, fields, ParameterRoute.recovers.list _ _ parameters,
        OutputRoute.recovers _ _ output]

theorem FieldRoute.recovers : Recovers FieldRoute.ofJson FieldRoute.toJson := by
  intro route json same
  obtain ⟨_, fields, values⟩ := Json.fields?_of_reordered
    [["field"], ["rewrite"]] same (by simp [Json.Spelled])
  obtain _ | ⟨field, _ | ⟨transport, _ | _⟩⟩ := values
  simp [ofJson, fields, Json.recovers_text? _ _ field, Transport.recovers _ _ transport]

theorem TransformDef.recovers : Recovers TransformDef.ofJson TransformDef.toJson := by
  intro definition json same
  obtain ⟨_, fields, values⟩ := Json.fields?_of_reordered
    [["kind"], ["promoted_from"], ["routes"], ["clones_target"]] same (by simp [Json.Spelled])
  obtain _ | ⟨kind, _ | ⟨promotedFrom, _ | ⟨routes, _ | ⟨clonesTarget, _ | _⟩⟩⟩⟩ := values
  simp [ofJson, fields, TransformKind.recovers _ _ kind,
    TransformKind.recovers.nullable rfl _ _ promotedFrom, FieldRoute.recovers.list _ _ routes,
    Json.recovers_bool? _ _ clonesTarget]

/-- Nothing is lost in what is written. -/
theorem Json.keeps_written (interface : Interface) (spec : WitnessSpec)
    (definition : TransformDef) :
    Interface.ofJson interface.toJson = some interface ∧
    WitnessSpec.ofJson spec.toJson = some spec ∧
    TransformDef.ofJson definition.toJson = some definition ∧
    ∀ json,
      (interface.toJson.Reordered json → Interface.ofJson json = some interface) ∧
      (spec.toJson.Reordered json → WitnessSpec.ofJson json = some spec) ∧
      (definition.toJson.Reordered json → TransformDef.ofJson json = some definition) := by
  refine ⟨Interface.recovers.read_write interface, WitnessSpec.recovers.read_write spec,
    TransformDef.recovers.read_write definition, fun json => ⟨?_, ?_, ?_⟩⟩
  · exact Interface.recovers interface json
  · exact WitnessSpec.recovers spec json
  · exact TransformDef.recovers definition json

end InterfaceWitness
