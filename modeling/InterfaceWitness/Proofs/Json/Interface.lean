import InterfaceWitness.Json.Interface
import InterfaceWitness.Proofs.Json.Recovery

/-!
Types and interfaces are recovered from the JSON that is written for them.
-/

namespace InterfaceWitness

open Json (Recovers)

namespace TypeExpr

theorem outputMember_output (json : Json) (rest : List (String × Json)) :
    outputMember (("output", json) :: rest) = json.nullable? ofJson := by
  cases json <;> simp [outputMember, Json.nullable?]

theorem outputMember_other {key : String} (other : key ≠ "output") (json : Json)
    (rest : List (String × Json)) : outputMember ((key, json) :: rest) = outputMember rest := by
  cases json <;> simp [outputMember, other]

mutual

theorem recovers_type : (type : TypeExpr) → (json : Json) →
    (toJson type).Reordered json → ofJson json = some type
  | .identifier name, json, same => by
      obtain ⟨_, rfl, content⟩ := Json.single_reordered.mp same
      obtain rfl := Json.string_reordered.mp content
      simp [ofJson, ofMember]
  | .generic base arguments, json, same => by
      obtain ⟨_, rfl, content⟩ := Json.single_reordered.mp same
      obtain ⟨_, _, sameBase, sameArguments, equal⟩ := Json.pair_reordered content
      obtain rfl := Json.string_reordered.mp sameBase
      obtain ⟨others, rfl, alike⟩ := Json.array_reordered.mp sameArguments
      have given := recovers_types arguments others alike
      obtain rfl | rfl := equal
      all_goals simp [ofJson, ofMember, baseMember, typesMember, ofArray, Json.text?, given]
  | .function parameters output, json, same => by
      obtain ⟨_, rfl, content⟩ := Json.single_reordered.mp same
      obtain ⟨_, outputOther, sameParameters, sameOutput, equal⟩ := Json.pair_reordered content
      obtain ⟨others, rfl, alike⟩ := Json.array_reordered.mp sameParameters
      have given := recovers_types parameters others alike
      have givenOutput := recovers_output output outputOther sameOutput
      have skipped := outputMember_other (show "parameters" ≠ "output" by decide)
      obtain rfl | rfl := equal
      all_goals simp [ofJson, ofMember, typesMember, ofArray, outputMember_output, skipped, given,
        givenOutput]
  | .tuple elements, json, same => by
      obtain ⟨_, rfl, content⟩ := Json.single_reordered.mp same
      obtain ⟨others, rfl, alike⟩ := Json.array_reordered.mp content
      simp [ofJson, ofMember, recovers_types elements others alike]
  | .optional inner, json, same => by
      obtain ⟨other, rfl, content⟩ := Json.single_reordered.mp same
      simp [ofJson, recovers_type inner other content]

theorem recovers_types : (types : List TypeExpr) → (others : List Json) →
    List.Forall₂ Json.Reordered (toJsons types) others → ofJsons others = some types
  | [], others, alike => by
      cases alike
      rfl
  | type :: rest, others, alike => by
      cases alike with
      | cons first later =>
          simp [ofJsons, recovers_type type _ first, recovers_types rest _ later]

theorem recovers_output : (output : Option TypeExpr) → (json : Json) →
    (outputToJson output).Reordered json → json.nullable? ofJson = some output
  | none, json, same => by
      obtain rfl := Json.null_reordered.mp same
      rfl
  | some type, json, same => by
      have given := recovers_type type json same
      unfold Json.nullable?
      split
      · cases given
      · simp [given]

end

theorem recovers : Recovers ofJson toJson := recovers_type

end TypeExpr

theorem Access.recovers : Recovers Access.ofJson Access.toJson :=
  Json.recovers_named? Access.ofWord?_word

theorem Receiver.recovers : Recovers Receiver.ofJson Receiver.toJson :=
  Json.recovers_named? Receiver.ofWord?_word

theorem Passing.recovers : Recovers Passing.ofJson Passing.toJson :=
  Json.recovers_named? Passing.ofWord?_word

theorem GenerationOptions.recovers :
    Recovers GenerationOptions.ofJson GenerationOptions.toJson := by
  intro options json same
  obtain ⟨_, fields, values⟩ := Json.fields?_of_reordered
    [["utilities"], ["conformance_init", "conformanceInit"]] same (by simp [Json.Spelled])
  obtain _ | ⟨utilities, _ | ⟨conformance, _ | _⟩⟩ := values
  simp [ofJson, fields, Json.recovers_bool? _ _ utilities, Json.recovers_bool? _ _ conformance]

theorem Parameter.recovers : Recovers Parameter.ofJson Parameter.toJson := by
  intro parameter json same
  obtain ⟨_, fields, values⟩ := Json.fields?_of_reordered
    [["label"], ["type"], ["passing"]] same (by simp [Json.Spelled])
  obtain _ | ⟨label, _ | ⟨type, _ | ⟨passing, _ | _⟩⟩⟩ := values
  simp [ofJson, fields, Json.recovers_text? _ _ label, TypeExpr.recovers _ _ type,
    Passing.recovers _ _ passing]

namespace Requirement

/-- The tag stands beside the fields of a method. -/
theorem recovers_method (method : Method) (tag : Json) {json : Json}
    (same : (Json.object (("kind", tag) :: method.members)).Reordered json) :
    Method.ofJson json = some method := by
  obtain ⟨_, fields, values⟩ := Json.fields?_of_spelled
    (show Json.Spelled [["name"], ["parameters"], ["receiver"], ["generics"], ["return_type"]]
      _ method.members by simp [Json.Spelled, Method.members]) same
  obtain _ | ⟨name, _ | ⟨parameters, _ | ⟨receiver, _ | ⟨generics, _ | ⟨output, _ | _⟩⟩⟩⟩⟩ :=
    values
  simp [Method.ofJson, fields, Json.recovers_text? _ _ name,
    Parameter.recovers.list _ _ parameters, Receiver.recovers _ _ receiver,
    Json.recovers_texts _ _ generics, TypeExpr.recovers.nullable rfl _ _ output]

theorem recovers_property (property : Property) (tag : Json) {json : Json}
    (same : (Json.object (("kind", tag) :: property.members)).Reordered json) :
    Property.ofJson json = some property := by
  obtain ⟨_, fields, values⟩ := Json.fields?_of_spelled
    (show Json.Spelled [["name"], ["type"], ["is_static"], ["constant"]]
      _ property.members by simp [Json.Spelled, Property.members]) same
  obtain _ | ⟨name, _ | ⟨type, _ | ⟨isStatic, _ | ⟨isConstant, _ | _⟩⟩⟩⟩ := values
  simp [Property.ofJson, fields, Json.recovers_text? _ _ name, TypeExpr.recovers _ _ type,
    Json.recovers_bool? _ _ isStatic, Json.recovers_bool? _ _ isConstant]

/-- The tag decides what is read, wherever it stands. -/
theorem ofJson_of_tagged {kind : String} {members : List (String × Json)} {json : Json}
    (same : (Json.object (("kind", .string kind) :: members)).Reordered json)
    (untagged : ∀ member ∈ members, member.1 ≠ "kind") : ofJson json = ofKind kind json := by
  obtain ⟨-, others, rfl, -, -⟩ := Json.object_reordered.mp same
  have alone : (("kind", Json.string kind) :: members).filter
      (fun member => decide (member.1 = "kind")) = [("kind", .string kind)] := by
    simpa [List.filter_cons_of_pos, List.filter_eq_nil_iff] using untagged
  obtain ⟨_, tag, found⟩ := Json.filter_of_reordered (· = "kind") same alone
  obtain rfl := Json.string_reordered.mp tag
  simp only [ofJson, found]

theorem recovers : Recovers ofJson toJson := by
  intro requirement json same
  cases requirement with
  | method declared =>
      rw [ofJson_of_tagged same (by simp [Method.members]), ofKind,
        recovers_method declared _ same]
      rfl
  | property declared =>
      rw [ofJson_of_tagged same (by simp [Property.members]), ofKind,
        recovers_property declared _ same]
      rfl

end Requirement

theorem AssociatedType.recovers : Recovers AssociatedType.ofJson AssociatedType.toJson := by
  intro associated json same
  obtain ⟨_, fields, values⟩ := Json.fields?_of_reordered
    [["name"], ["constraint"]] same (by simp [Json.Spelled])
  obtain _ | ⟨name, _ | ⟨constraint, _ | _⟩⟩ := values
  simp [ofJson, fields, Json.recovers_text? _ _ name,
    Json.recovers_text?.nullable rfl _ _ constraint]

theorem Interface.recovers : Recovers Interface.ofJson Interface.toJson := by
  intro interface json same
  obtain ⟨_, fields, values⟩ := Json.fields?_of_reordered
    [["name"], ["access"], ["requirements"], ["associated_types"], ["options"]] same
    (by simp [Json.Spelled])
  obtain _ | ⟨name, _ | ⟨access, _ | ⟨requirements, _ | ⟨associatedTypes, _ |
    ⟨options, _ | _⟩⟩⟩⟩⟩ := values
  simp [ofJson, fields, Json.recovers_text? _ _ name, Access.recovers _ _ access,
    Requirement.recovers.list _ _ requirements, AssociatedType.recovers.list _ _ associatedTypes,
    GenerationOptions.recovers _ _ options]

end InterfaceWitness
