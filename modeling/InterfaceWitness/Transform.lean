import InterfaceWitness.GenerateError
import InterfaceWitness.WitnessSpec

/-!
Transformers between the witnesses of two subjects.  Each field has a route;
the directions in which the routes convert decide the kind of the transformer.
-/

namespace InterfaceWitness

inductive ParameterRoute where
  | pass
  /-- Converted from the target. -/
  | pullBack
  /-- Converted from the target, changed, and converted back. -/
  | inout
  deriving DecidableEq, Repr

inductive OutputRoute where
  | pass
  /-- Converted to the target. -/
  | map
  deriving DecidableEq, Repr

/-- How a field is carried over to the witness of the other subject. -/
inductive Transport where
  /-- The field never mentions the subject and is shared. -/
  | forward
  /-- An embedded witness, which is copied. -/
  | nested
  /-- A new function that calls the old one with converted values. -/
  | rebuild (parameters : List ParameterRoute) (output : OutputRoute)
  deriving DecidableEq, Repr

namespace Transport

def needsTo : Transport → Bool
  | .rebuild parameters _ => parameters.any (· ≠ .pass)
  | _ => false

def needsFrom : Transport → Bool
  | .rebuild parameters output => output = .map || parameters.contains .inout
  | _ => false

/-- Whether some parameter is changed in place. -/
def hasInout : Transport → Bool
  | .rebuild parameters _ => parameters.contains .inout
  | _ => false

end Transport

structure FieldRoute where
  field : String
  transport : Transport
  deriving DecidableEq, Repr

structure TransformDef where
  kind : TransformKind
  /-- The kind of the interface, if the routes call for another one. -/
  promotedFrom : Option TransformKind
  routes : List FieldRoute
  /-- Some field changes the subject in place, so the target is cloned. -/
  clonesTarget : Bool
  deriving DecidableEq, Repr

namespace TransformDef

def methodName (definition : TransformDef) : String :=
  definition.kind.methodName?.getD "iso"

def route? (definition : TransformDef) (field : String) : Option Transport :=
  (definition.routes.find? (·.field = field)).map FieldRoute.transport

/-- Whether some field converts from the target to the subject. -/
def usesTo (definition : TransformDef) : Bool :=
  definition.routes.any (·.transport.needsTo)

/-- Whether some field converts from the subject to the target. -/
def usesFrom (definition : TransformDef) : Bool :=
  definition.routes.any (·.transport.needsFrom)

end TransformDef

namespace TypeExpr

mutual

/-- Whether the subject can be converted wherever it occurs in a type: it
stands alone, under options or in tuples. -/
def routable (names : SubjectNames) (type : TypeExpr) : Bool :=
  if !type.mentions names then true
  else
    match type with
    | .identifier _ => true
    | .optional inner => routable names inner
    | .tuple elements => routableAll names elements
    | .generic .. => false
    | .function .. => false

def routableAll (names : SubjectNames) : List TypeExpr → Bool
  | [] => true
  | element :: rest => routable names element && routableAll names rest

end

end TypeExpr

def FieldParameter.route? (parameter : FieldParameter) (names : SubjectNames) :
    Option ParameterRoute :=
  match parameter.type.inputVariance names, parameter.passing with
  | .contravariant, .inout => if parameter.type.isNamed selfType then some .inout else none
  | .contravariant, _ => if parameter.type.routable names then some .pullBack else none
  | _, _ => some .pass

namespace FunctionField

/-- The routes of a field, or the type that has none. -/
def transport (function : FunctionField) (names : SubjectNames) : Except TypeExpr Transport :=
  if !function.parameters.any (·.type.mentions names)
      && !function.output.any (·.mentions names) then
    .ok .forward
  else do
    let parameters ← function.parameters.mapM fun parameter =>
      match parameter.route? names with
      | some route => .ok route
      | none => .error parameter.type
    let output ←
      match function.output with
      | some output =>
          if !output.mentions names then pure OutputRoute.pass
          else if output.routable names then pure OutputRoute.map
          else throw output
      | none => pure OutputRoute.pass
    pure (.rebuild parameters output)

end FunctionField

def WitnessField.route (field : WitnessField) (interface : String) :
    Except GenerateError FieldRoute :=
  match field.kind with
  | .nested .. => .ok ⟨field.name, .nested⟩
  | .function function =>
      match function.transport SubjectNames.primary with
      | .ok transport => .ok ⟨field.name, transport⟩
      | .error type =>
          .error (.unsupported interface function.requirement (.unconvertible type))

/-- The kind that supplies the directions that the routes need. -/
def TransformKind.covering (kind : TransformKind) (needsTo needsFrom : Bool) : TransformKind :=
  match kind, needsTo, needsFrom with
  | .map, true, true => .iso
  | .pullback, true, true => .iso
  | .map, true, false => .pullback
  | .pullback, false, true => .map
  | kind, _, _ => kind

/-- The transformer of a witness, if its interface uses the subject. -/
def WitnessSpec.transforms (spec : WitnessSpec) (interface : String) :
    Except GenerateError (List TransformDef) :=
  if spec.transformKind = .none then .ok []
  else do
    let routes ← spec.fields.mapM (·.route interface)
    let kind := spec.transformKind.covering (routes.any (·.transport.needsTo))
      (routes.any (·.transport.needsFrom))
    pure
      [{ kind := kind
         promotedFrom := if kind = spec.transformKind then none else some spec.transformKind
         routes := routes
         clonesTarget := routes.any (·.transport.hasInout) }]

end InterfaceWitness
