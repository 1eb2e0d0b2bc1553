import InterfaceWitness.Code.Conversion
import InterfaceWitness.Config

/-!
The generated items of a witness: a record, its copy, its constructor, its
transformers and its optional helpers.
-/

namespace InterfaceWitness.Code

/-- A conversion that a transformer takes: the parameter that it comes in by
and the variable that the closures capture. -/
structure ConversionParameter where
  parameter : String
  captured : String
  /-- Whether it leads from the target to the subject. -/
  intoSubject : Bool
  deriving DecidableEq, Repr

def conversionParameters : TransformKind → List ConversionParameter
  | .map => [⟨"transform", "from", false⟩]
  | .pullback => [⟨"transform", "to", true⟩]
  | .iso => [⟨"to", "to", true⟩, ⟨"from", "from", false⟩]
  | .none => [⟨"to", "to", true⟩, ⟨"from", "from", false⟩]

structure Transformer where
  name : String
  kind : TransformKind
  clonesTarget : Bool
  inits : List (String × FieldInit)

def transformer (scope : Scope) (spec : WitnessSpec) (definition : TransformDef) : Transformer :=
  { name := definition.methodName
    kind := definition.kind
    clonesTarget := definition.clonesTarget
    inits := List.zipWith
      (fun field route => (field.name, fieldInit scope field route.transport))
      spec.fields definition.routes }

/-- What the conforming constructor passes on for a field. -/
inductive ConformingArgument where
  /-- The conforming witness of an associated type. -/
  | nested (witness associatedType : String)
  | constant (member : String)
  /-- A closure that calls a member.  Each argument says whether it is passed
  on by reference. -/
  | call (member : String) (arguments : List Bool)
  deriving DecidableEq, Repr

def conformingArgument (field : WitnessField) : ConformingArgument :=
  match field.kind with
  | .nested _ witness associatedType => .nested witness associatedType
  | .function function =>
      match function.member with
      | .constant => .constant function.requirement
      | .call =>
          .call function.requirement (function.parameters.map (·.passing = .borrowed))

/-- Two subjects in, neither changed in place, and one out. -/
def isBinaryOperation (function : FunctionField) : Bool :=
  function.parameters.length = 2
    && function.parameters.all (fun parameter =>
      parameter.type.isNamed selfType && parameter.passing ≠ .inout)
    && function.output.any (·.isNamed selfType)

/-- The registry and folding helpers. -/
structure Utilities where
  /-- The fields that can be folded with. -/
  folds : List String
  runtime : List Token

structure Conformance where
  interface : String
  arguments : List ConformingArgument

structure WitnessCode where
  interface : String
  name : String
  access : Access
  scope : Scope
  target : String
  fields : List WitnessField
  transformers : List Transformer
  utilities : Option Utilities
  conformance : Option Conformance

/-- A path from the root of all names, unless it begins at this crate or near
this module. -/
def runtimeTokens (config : Config) : List Token :=
  let rooted := ["crate", "self", "super"].any fun root =>
    config.runtime = root || (root ++ "::").toList.isPrefixOf config.runtime.toList
  match config.runtimePath with
  | .ok path =>
      if rooted then path.tokens else Surface.Path.tokens { path with rooted := true }
  | .error error => compileError error.message

namespace WitnessCode

def ofSpec (spec : WitnessSpec) (definitions : List TransformDef) (config : Config) :
    WitnessCode :=
  { interface := spec.interface
    name := spec.structName
    access := spec.access
    scope := ⟨spec.subject, spec.associatedParameters⟩
    target := config.target
    fields := spec.fields
    transformers :=
      definitions.map (transformer ⟨config.target, spec.associatedParameters⟩ spec)
    utilities :=
      if spec.options.utilities then
        some
          { folds := (spec.functionFields.filter fun entry => isBinaryOperation entry.2).map (·.1)
            runtime := runtimeTokens config }
      else none
    conformance :=
      if spec.options.conformance then
        some { interface := spec.interface, arguments := spec.fields.map conformingArgument }
      else none }

def foldName (field : String) : String := field ++ "_all"

/-- The names of the methods and associated functions. -/
def methodNames (code : WitnessCode) : List String :=
  "new" :: code.transformers.map Transformer.name
    ++ (match code.utilities with
      | some utilities => utilities.folds.map foldName ++ ["register", "registered"]
      | none => [])
    ++ (match code.conformance with
      | some _ => ["conforming"]
      | none => [])

/-- Every text that is printed as a word. -/
def wordsUsed (code : WitnessCode) : List String :=
  code.name :: code.target :: code.scope.parameters
    ++ code.fields.flatMap (fun field =>
      field.name :: match field.kind with
        | .nested _ witness associatedType => [witness, associatedType]
        | .function _ => [])
    ++ (match code.utilities with
      | some utilities => utilities.folds.map foldName
      | none => [])
    ++ (match code.conformance with
      | some conformance =>
          conformance.interface :: conformance.arguments.flatMap fun argument =>
            match argument with
            | .nested witness associatedType => [witness, associatedType]
            | .constant member => [member]
            | .call member _ => [member]
      | none => [])

/-- Whether every name can be printed as the word that it is. -/
def printable (code : WitnessCode) : Bool :=
  code.wordsUsed.all Surface.isWord

end WitnessCode

end InterfaceWitness.Code
