import InterfaceWitness.Config
import InterfaceWitness.Interface
import InterfaceWitness.Json

/-!
Interfaces and configurations as JSON.
-/

namespace InterfaceWitness

namespace TypeExpr

mutual

def toJson : TypeExpr → Json
  | .identifier name => .object [("identifier", .string name)]
  | .generic base arguments =>
      .object [("generic", .object
        [("base", .string base), ("arguments", .array (toJsons arguments))])]
  | .function parameters output =>
      .object [("function", .object
        [("parameters", .array (toJsons parameters)), ("output", outputToJson output)])]
  | .tuple elements => .object [("tuple", .array (toJsons elements))]
  | .optional inner => .object [("optional", toJson inner)]

def toJsons : List TypeExpr → List Json
  | [] => []
  | type :: rest => toJson type :: toJsons rest

def outputToJson : Option TypeExpr → Json
  | none => .null
  | some output => toJson output

end

def baseMember : List (String × Json) → Option String
  | [] => none
  | (key, value) :: rest => if key = "base" then value.text? else baseMember rest

mutual

def ofJson : Json → Option TypeExpr
  | .object [(key, value)] =>
      if key = "optional" then (ofJson value).map .optional else ofMember key value
  | _ => none

/-- The type that the content of a one-member object stands for. -/
def ofMember (key : String) : Json → Option TypeExpr
  | .string name => if key = "identifier" then some (.identifier name) else none
  | .array elements => if key = "tuple" then (ofJsons elements).map .tuple else none
  | .object members =>
      if key = "generic" then
        match baseMember members, typesMember "arguments" members with
        | some base, some arguments => some (.generic base arguments)
        | _, _ => none
      else if key = "function" then
        match typesMember "parameters" members, outputMember members with
        | some parameters, some output => some (.function parameters output)
        | _, _ => none
      else none
  | _ => none

def ofJsons : List Json → Option (List TypeExpr)
  | [] => some []
  | json :: rest =>
      match ofJson json, ofJsons rest with
      | some type, some types => some (type :: types)
      | _, _ => none

def ofArray : Json → Option (List TypeExpr)
  | .array elements => ofJsons elements
  | _ => none

def typesMember (name : String) : List (String × Json) → Option (List TypeExpr)
  | [] => none
  | (key, value) :: rest => if key = name then ofArray value else typesMember name rest

def outputMember : List (String × Json) → Option (Option TypeExpr)
  | [] => some none
  | (key, value) :: rest =>
      if key = "output" then
        match value with
        | .null => some none
        | value => (ofJson value).map some
      else outputMember rest

end

end TypeExpr

namespace Access

def word : Access → String
  | .unmarked => "default"
  | .internal => "internal"
  | .exported => "public"
  | .hidden => "private"

def ofWord? : String → Option Access
  | "default" => some .unmarked
  | "internal" => some .internal
  | "public" => some .exported
  | "private" => some .hidden
  | _ => none

@[simp]
theorem ofWord?_word (access : Access) : ofWord? access.word = some access := by
  cases access <;> rfl

def toJson (access : Access) : Json := .string access.word

def ofJson : Json → Option Access := Json.named? ofWord?

end Access

namespace Receiver

def word : Receiver → String
  | .static => "static"
  | .borrowed => "borrowed"
  | .owned => "owned"
  | .mutable => "mutable"

def ofWord? : String → Option Receiver
  | "static" => some .static
  | "borrowed" => some .borrowed
  | "owned" => some .owned
  | "mutable" => some .mutable
  | _ => none

@[simp]
theorem ofWord?_word (receiver : Receiver) : ofWord? receiver.word = some receiver := by
  cases receiver <;> rfl

def toJson (receiver : Receiver) : Json := .string receiver.word

def ofJson : Json → Option Receiver := Json.named? ofWord?

end Receiver

namespace Passing

def word : Passing → String
  | .owned => "owned"
  | .borrowed => "borrowed"

def ofWord? : String → Option Passing
  | "owned" => some .owned
  | "borrowed" => some .borrowed
  | _ => none

@[simp]
theorem ofWord?_word (passing : Passing) : ofWord? passing.word = some passing := by
  cases passing <;> rfl

def toJson (passing : Passing) : Json := .string passing.word

def ofJson : Json → Option Passing := Json.named? ofWord?

end Passing

namespace GenerationOptions

def toJson (options : GenerationOptions) : Json :=
  .object [("utilities", .bool options.utilities), ("conformance_init", .bool options.conformance)]

def ofJson (json : Json) : Option GenerationOptions :=
  match json.fields? [["utilities"], ["conformance_init", "conformanceInit"]] with
  | some [utilities, conformance] => do
      pure
        { utilities := ← utilities.orDefault false Json.bool?
          conformance := ← conformance.orDefault false Json.bool? }
  | _ => none

end GenerationOptions

namespace Parameter

def toJson (parameter : Parameter) : Json :=
  .object [("label", .string parameter.label), ("type", parameter.type.toJson),
    ("passing", parameter.passing.toJson)]

def ofJson (json : Json) : Option Parameter :=
  match json.fields? [["label"], ["type"], ["passing"]] with
  | some [label, type, passing] => do
      pure
        { label := ← label.required Json.text?
          type := ← type.required TypeExpr.ofJson
          passing := ← passing.orDefault .owned Passing.ofJson }
  | _ => none

end Parameter

namespace Method

def members (method : Method) : List (String × Json) :=
  [("name", .string method.name), ("parameters", .array (method.parameters.map Parameter.toJson)),
    ("receiver", method.receiver.toJson), ("generics", Json.ofTexts method.generics),
    ("return_type", Json.ofOption TypeExpr.toJson method.output)]

def ofJson (json : Json) : Option Method :=
  match json.fields? [["name"], ["parameters"], ["receiver"], ["generics"], ["return_type"]] with
  | some [name, parameters, receiver, generics, output] => do
      pure
        { name := ← name.required Json.text?
          parameters := ← parameters.orDefault [] (Json.list? Parameter.ofJson)
          receiver := ← receiver.orDefault .static Receiver.ofJson
          generics := ← generics.orDefault [] (Json.list? Json.text?)
          output := ← output.orDefault none (Json.nullable? TypeExpr.ofJson) }
  | _ => none

end Method

namespace Property

def members (property : Property) : List (String × Json) :=
  [("name", .string property.name), ("type", property.type.toJson),
    ("is_static", .bool property.isStatic), ("constant", .bool property.isConstant)]

def ofJson (json : Json) : Option Property :=
  match json.fields? [["name"], ["type"], ["is_static"], ["constant"]] with
  | some [name, type, isStatic, isConstant] => do
      pure
        { name := ← name.required Json.text?
          type := ← type.required TypeExpr.ofJson
          isStatic := ← isStatic.orDefault false Json.bool?
          isConstant := ← isConstant.orDefault false Json.bool? }
  | _ => none

end Property

namespace Requirement

def toJson : Requirement → Json
  | .method declared => .object (("kind", .string "method") :: declared.members)
  | .property declared => .object (("kind", .string "property") :: declared.members)

def ofKind (kind : String) (content : Json) : Option Requirement :=
  if kind = "method" then (Method.ofJson content).map .method
  else if kind = "property" then (Property.ofJson content).map .property
  else none

/-- The kind is a member of an object and the first element of an array. -/
def ofJson : Json → Option Requirement
  | .object members =>
      match members.filter fun member => member.1 = "kind" with
      | [(_, .string kind)] => ofKind kind (.object members)
      | _ => none
  | .array (.string kind :: content) => ofKind kind (.array content)
  | _ => none

end Requirement

namespace AssociatedType

def toJson (associated : AssociatedType) : Json :=
  .object [("name", .string associated.name),
    ("constraint", Json.ofOption Json.string associated.constraint)]

def ofJson (json : Json) : Option AssociatedType :=
  match json.fields? [["name"], ["constraint"]] with
  | some [name, constraint] => do
      pure
        { name := ← name.required Json.text?
          constraint := ← constraint.orDefault none (Json.nullable? Json.text?) }
  | _ => none

end AssociatedType

namespace Interface

def toJson (interface : Interface) : Json :=
  .object [("name", .string interface.name), ("access", interface.access.toJson),
    ("requirements", .array (interface.requirements.map Requirement.toJson)),
    ("associated_types", .array (interface.associatedTypes.map AssociatedType.toJson)),
    ("options", interface.options.toJson)]

def ofJson (json : Json) : Option Interface :=
  match json.fields? [["name"], ["access"], ["requirements"], ["associated_types"],
      ["options"]] with
  | some [name, access, requirements, associatedTypes, options] => do
      pure
        { name := ← name.required Json.text?
          access := ← access.orDefault .unmarked Access.ofJson
          requirements := ← requirements.orDefault [] (Json.list? Requirement.ofJson)
          associatedTypes := ← associatedTypes.orDefault [] (Json.list? AssociatedType.ofJson)
          options := ← options.orDefault {} GenerationOptions.ofJson }
  | _ => none

end Interface

namespace Config

def toJson (config : Config) : Json :=
  .object [("subject_param", .string config.subject), ("target_param", .string config.target),
    ("runtime_crate", .string config.runtime)]

def ofJson (json : Json) : Option Config :=
  match json.fields? [["subject_param"], ["target_param"], ["runtime_crate"]] with
  | some [subject, target, runtime] => do
      pure
        { subject := ← subject.orDefault "A" Json.text?
          target := ← target.orDefault "B" Json.text?
          runtime := ← runtime.orDefault "witness" Json.text? }
  | _ => none

end Config

end InterfaceWitness
