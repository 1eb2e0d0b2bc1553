import InterfaceWitness.Variance

/-!
Witness specifications: the fields and parameters of the record that stands
for an interface.
-/

namespace InterfaceWitness

/-- How an argument of a field reaches an implementation. -/
inductive FieldPassing where
  | owned
  | borrowed
  /-- Changed in place. -/
  | inout
  deriving DecidableEq, Repr

/-- How an implementation exposes a requirement. -/
inductive MemberAccess where
  | call
  | constant
  deriving DecidableEq, Repr

structure FieldParameter where
  type : TypeExpr
  passing : FieldPassing
  deriving DecidableEq, Repr

structure FunctionField where
  requirement : String
  parameters : List FieldParameter
  output : Option TypeExpr
  member : MemberAccess
  variance : Variance
  deriving DecidableEq, Repr

inductive FieldKind where
  | function (function : FunctionField)
  /-- The witness of the constraint of an associated type. -/
  | nested (interface witness associatedType : String)
  deriving DecidableEq, Repr

structure WitnessField where
  name : String
  kind : FieldKind
  deriving DecidableEq, Repr

structure WitnessSpec where
  interface : String
  structName : String
  access : Access
  /-- The subject, then the associated types that the fields need. -/
  genericParameters : List String
  fields : List WitnessField
  constructorParameters : List String
  transformKind : TransformKind
  options : GenerationOptions
  deriving DecidableEq, Repr

namespace WitnessSpec

def subject (spec : WitnessSpec) : String :=
  spec.genericParameters.head?.getD ""

def associatedParameters (spec : WitnessSpec) : List String :=
  spec.genericParameters.drop 1

def field? (spec : WitnessSpec) (name : String) : Option WitnessField :=
  spec.fields.find? (·.name = name)

def functionFields (spec : WitnessSpec) : List (String × FunctionField) :=
  spec.fields.filterMap fun field =>
    match field.kind with
    | .function function => some (field.name, function)
    | .nested .. => none

end WitnessSpec

end InterfaceWitness
