import InterfaceWitness.Interface

/-!
Why no witness can be generated, and how each cause is worded.
-/

namespace InterfaceWitness

/-- What is wrong with an interface. -/
inductive InterfaceFault where
  | interfaceName
  | associatedName (name : String)
  | associatedClash (name : String)
  | associatedTwice (name : String)
  | constraintName (constraint associated : String)
  | requirementName
  | type (fault : TypeFault)
  | unknownProjection (name : String)
  | shadowed (name parameter : String)
  /-- Two fields of one name; the first may be the nested witness of an
  associated type. -/
  | fieldTwice (name : String) (nested : Option String)
  | declaredTwice
  deriving DecidableEq, Repr

def InterfaceFault.message : InterfaceFault → String
  | .interfaceName => "interface name is not an identifier"
  | .associatedName name => "associated type `" ++ name ++ "` is not an identifier"
  | .associatedClash name =>
      "associated type `" ++ name ++ "` clashes with a generated type parameter"
  | .associatedTwice name => "associated type `" ++ name ++ "` is declared twice"
  | .constraintName constraint associated =>
      "constraint `" ++ constraint ++ "` of `" ++ associated ++ "` is not an interface name"
  | .requirementName => "requirement name does not form a field identifier"
  | .type fault => fault.message
  | .unknownProjection name => "`" ++ name ++ "` names no associated type"
  | .shadowed name parameter =>
      "type `" ++ name ++ "` would be shadowed by the generated type parameter `" ++ parameter
        ++ "`; rename the type or configure other parameter names"
  | .fieldTwice name none => "more than one field is named `" ++ name ++ "`"
  | .fieldTwice name (some associated) =>
      "more than one field is named `" ++ name ++ "`: the nested witness of associated type `"
        ++ associated ++ "` already takes it; rename the requirement or the associated type"
  | .declaredTwice => "interface is declared more than once in this unit"

/-- A well-formed requirement that no witness field can hold. -/
inductive RequirementFault where
  | ownGenerics (names : List String)
  | instanceConstant
  | unconvertible (type : TypeExpr)
  deriving DecidableEq, Repr

def RequirementFault.message : RequirementFault → String
  | .ownGenerics names =>
      "generic parameters <" ++ ", ".intercalate names ++ "> cannot be stored in a witness field"
  | .instanceConstant => "constants must be static"
  | .unconvertible type =>
      "the subject inside `" ++ type.description
        ++ "` cannot be converted; only bare, optional and tuple positions can"

inductive ConfigFault where
  | subjectName (name : String)
  | targetName (name : String)
  | sameParameter (name : String)
  | runtimePath (path : String)
  deriving DecidableEq, Repr

def ConfigFault.message : ConfigFault → String
  | .subjectName name => "subject_param `" ++ name ++ "` is not an identifier"
  | .targetName name => "target_param `" ++ name ++ "` is not an identifier"
  | .sameParameter name => "subject and target parameters are both `" ++ name ++ "`"
  | .runtimePath path => "runtime_crate `" ++ path ++ "` is not a path"

inductive GenerateError where
  | malformed (interface : String) (requirement : Option String) (fault : InterfaceFault)
  | unsupported (interface requirement : String) (fault : RequirementFault)
  | config (fault : ConfigFault)
  deriving DecidableEq, Repr

namespace GenerateError

def message : GenerateError → String
  | .malformed interface none fault => "interface `" ++ interface ++ "`: " ++ fault.message
  | .malformed interface (some requirement) fault =>
      "interface `" ++ interface ++ "`, requirement `" ++ requirement ++ "`: " ++ fault.message
  | .unsupported interface requirement fault =>
      "interface `" ++ interface ++ "`, requirement `" ++ requirement ++ "` is not supported: "
        ++ fault.message
  | .config fault => "invalid generator configuration: " ++ fault.message

def interface? : GenerateError → Option String
  | .malformed interface _ _ => some interface
  | .unsupported interface _ _ => some interface
  | .config _ => none

def requirement? : GenerateError → Option String
  | .malformed _ requirement _ => requirement
  | .unsupported _ requirement _ => some requirement
  | .config _ => none

end GenerateError

end InterfaceWitness
