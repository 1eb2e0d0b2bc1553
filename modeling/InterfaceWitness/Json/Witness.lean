import InterfaceWitness.Json.Interface
import InterfaceWitness.Transform

/-!
Witness specifications and transformers as JSON.
-/

namespace InterfaceWitness

namespace Variance

def ofWord? : String → Option Variance
  | "contravariant" => some .contravariant
  | "covariant" => some .covariant
  | "invariant" => some .invariant
  | _ => none

@[simp]
theorem ofWord?_display (variance : Variance) : ofWord? variance.display = some variance := by
  cases variance <;> rfl

def toJson (variance : Variance) : Json := .string variance.display

def ofJson : Json → Option Variance := Json.named? ofWord?

end Variance

namespace TransformKind

def ofWord? : String → Option TransformKind
  | "map" => some .map
  | "pullback" => some .pullback
  | "iso" => some .iso
  | "none" => some .none
  | _ => Option.none

@[simp]
theorem ofWord?_display (kind : TransformKind) : ofWord? kind.display = some kind := by
  cases kind <;> rfl

def toJson (kind : TransformKind) : Json := .string kind.display

def ofJson : Json → Option TransformKind := Json.named? ofWord?

end TransformKind

namespace FieldPassing

def word : FieldPassing → String
  | .owned => "owned"
  | .borrowed => "borrowed"
  | .inout => "inout"

def ofWord? : String → Option FieldPassing
  | "owned" => some .owned
  | "borrowed" => some .borrowed
  | "inout" => some .inout
  | _ => none

@[simp]
theorem ofWord?_word (passing : FieldPassing) : ofWord? passing.word = some passing := by
  cases passing <;> rfl

def toJson (passing : FieldPassing) : Json := .string passing.word

def ofJson : Json → Option FieldPassing := Json.named? ofWord?

end FieldPassing

namespace MemberAccess

def word : MemberAccess → String
  | .call => "call"
  | .constant => "constant"

def ofWord? : String → Option MemberAccess
  | "call" => some .call
  | "constant" => some .constant
  | _ => none

@[simp]
theorem ofWord?_word (access : MemberAccess) : ofWord? access.word = some access := by
  cases access <;> rfl

def toJson (access : MemberAccess) : Json := .string access.word

def ofJson : Json → Option MemberAccess := Json.named? ofWord?

end MemberAccess

namespace FieldParameter

def toJson (parameter : FieldParameter) : Json :=
  .object [("type", parameter.type.toJson), ("passing", parameter.passing.toJson)]

def ofJson (json : Json) : Option FieldParameter :=
  match json.fields? [["type"], ["passing"]] with
  | some [type, passing] => do
      pure
        { type := ← type.required TypeExpr.ofJson
          passing := ← passing.required FieldPassing.ofJson }
  | _ => none

end FieldParameter

namespace FunctionField

def toJson (function : FunctionField) : Json :=
  .object [("requirement", .string function.requirement),
    ("parameters", .array (function.parameters.map FieldParameter.toJson)),
    ("output", Json.ofOption TypeExpr.toJson function.output),
    ("member", function.member.toJson), ("variance", function.variance.toJson)]

def ofJson (json : Json) : Option FunctionField :=
  match json.fields? [["requirement"], ["parameters"], ["output"], ["member"],
      ["variance"]] with
  | some [requirement, parameters, output, member, variance] => do
      pure
        { requirement := ← requirement.required Json.text?
          parameters := ← parameters.required (Json.list? FieldParameter.ofJson)
          output := ← output.optional TypeExpr.ofJson
          member := ← member.required MemberAccess.ofJson
          variance := ← variance.required Variance.ofJson }
  | _ => none

end FunctionField

namespace FieldKind

def toJson : FieldKind → Json
  | .function content => .object [("function", content.toJson)]
  | .nested interface witness associatedType =>
      .object [("nested", .object [("interface", .string interface),
        ("witness", .string witness), ("associated_type", .string associatedType)])]

def nestedOfJson (json : Json) : Option FieldKind :=
  match json.fields? [["interface"], ["witness"], ["associated_type"]] with
  | some [interface, witness, associatedType] => do
      pure (.nested (← interface.required Json.text?) (← witness.required Json.text?)
        (← associatedType.required Json.text?))
  | _ => none

/-- The content of a nested field has to be an object. -/
def ofJson : Json → Option FieldKind
  | .object [("function", content)] => (FunctionField.ofJson content).map .function
  | .object [("nested", .object members)] => nestedOfJson (.object members)
  | _ => none

end FieldKind

namespace WitnessField

def toJson (field : WitnessField) : Json :=
  .object [("name", .string field.name), ("kind", field.kind.toJson)]

def ofJson (json : Json) : Option WitnessField :=
  match json.fields? [["name"], ["kind"]] with
  | some [name, kind] => do
      pure { name := ← name.required Json.text?, kind := ← kind.required FieldKind.ofJson }
  | _ => none

end WitnessField

namespace WitnessSpec

def toJson (spec : WitnessSpec) : Json :=
  .object [("interface", .string spec.interface), ("struct_name", .string spec.structName),
    ("access", spec.access.toJson),
    ("generic_parameters", Json.ofTexts spec.genericParameters),
    ("fields", .array (spec.fields.map WitnessField.toJson)),
    ("constructor_parameters", Json.ofTexts spec.constructorParameters),
    ("transform_kind", spec.transformKind.toJson), ("options", spec.options.toJson)]

def ofJson (json : Json) : Option WitnessSpec :=
  match json.fields? [["interface"], ["struct_name"], ["access"], ["generic_parameters"],
      ["fields"], ["constructor_parameters"], ["transform_kind"], ["options"]] with
  | some [interface, structName, access, genericParameters, fields, constructorParameters,
      transformKind, options] => do
      pure
        { interface := ← interface.required Json.text?
          structName := ← structName.required Json.text?
          access := ← access.required Access.ofJson
          genericParameters := ← genericParameters.required (Json.list? Json.text?)
          fields := ← fields.required (Json.list? WitnessField.ofJson)
          constructorParameters := ← constructorParameters.required (Json.list? Json.text?)
          transformKind := ← transformKind.required TransformKind.ofJson
          options := ← options.required GenerationOptions.ofJson }
  | _ => none

end WitnessSpec

namespace ParameterRoute

def word : ParameterRoute → String
  | .pass => "pass"
  | .pullBack => "pull_back"
  | .inout => "inout"

def ofWord? : String → Option ParameterRoute
  | "pass" => some .pass
  | "pull_back" => some .pullBack
  | "inout" => some .inout
  | _ => none

@[simp]
theorem ofWord?_word (route : ParameterRoute) : ofWord? route.word = some route := by
  cases route <;> rfl

def toJson (route : ParameterRoute) : Json := .string route.word

def ofJson : Json → Option ParameterRoute := Json.named? ofWord?

end ParameterRoute

namespace OutputRoute

def word : OutputRoute → String
  | .pass => "pass"
  | .map => "map"

def ofWord? : String → Option OutputRoute
  | "pass" => some .pass
  | "map" => some .map
  | _ => none

@[simp]
theorem ofWord?_word (route : OutputRoute) : ofWord? route.word = some route := by
  cases route <;> rfl

def toJson (route : OutputRoute) : Json := .string route.word

def ofJson : Json → Option OutputRoute := Json.named? ofWord?

end OutputRoute

namespace Transport

def toJson : Transport → Json
  | .forward => .string "forward"
  | .nested => .string "nested"
  | .rebuild parameters output =>
      .object [("rebuild", .object
        [("parameters", .array (parameters.map ParameterRoute.toJson)),
          ("output", output.toJson)])]

def unitOfWord? : String → Option Transport
  | "forward" => some .forward
  | "nested" => some .nested
  | _ => none

def rebuildOfJson (json : Json) : Option Transport :=
  match json.fields? [["parameters"], ["output"]] with
  | some [parameters, output] => do
      pure (.rebuild (← parameters.required (Json.list? ParameterRoute.ofJson))
        (← output.required OutputRoute.ofJson))
  | _ => none

/-- The content of a rebuilt field has to be an object. -/
def ofJson : Json → Option Transport
  | .object [("rebuild", .object members)] => rebuildOfJson (.object members)
  | json => Json.named? unitOfWord? json

end Transport

namespace FieldRoute

def toJson (route : FieldRoute) : Json :=
  .object [("field", .string route.field), ("rewrite", route.transport.toJson)]

def ofJson (json : Json) : Option FieldRoute :=
  match json.fields? [["field"], ["rewrite"]] with
  | some [field, transport] => do
      pure
        { field := ← field.required Json.text?
          transport := ← transport.required Transport.ofJson }
  | _ => none

end FieldRoute

namespace TransformDef

def toJson (definition : TransformDef) : Json :=
  .object [("kind", definition.kind.toJson),
    ("promoted_from", Json.ofOption TransformKind.toJson definition.promotedFrom),
    ("routes", .array (definition.routes.map FieldRoute.toJson)),
    ("clones_target", .bool definition.clonesTarget)]

def ofJson (json : Json) : Option TransformDef :=
  match json.fields? [["kind"], ["promoted_from"], ["routes"], ["clones_target"]] with
  | some [kind, promotedFrom, routes, clonesTarget] => do
      pure
        { kind := ← kind.required TransformKind.ofJson
          promotedFrom := ← promotedFrom.optional TransformKind.ofJson
          routes := ← routes.required (Json.list? FieldRoute.ofJson)
          clonesTarget := ← clonesTarget.required Json.bool? }
  | _ => none

end TransformDef

end InterfaceWitness
