import InterfaceWitness.Config
import InterfaceWitness.Text.SnakeCase
import InterfaceWitness.WitnessSpec

/-!
The witness specification of an interface, or what is wrong with the
interface.
-/

namespace InterfaceWitness

/-- The name of the record that stands for an interface. -/
def witnessName (interface : String) : String := interface ++ "Witness"

/-- The text before the first separator. -/
def pathHead : List Char → List Char
  | ':' :: ':' :: _ => []
  | char :: rest => char :: pathHead rest
  | [] => []

namespace TypeExpr

/-- The first identifier that is a projection from `Self` to no associated
type of the interface. -/
def unknownProjection? (type : TypeExpr) (interface : Interface) : Option String :=
  (type.nodes.find? fun node =>
    !node.isBase && (selfType ++ "::").toList.isPrefixOf node.name.toList
      && (interface.associatedType? (String.ofList (node.name.toList.drop 6))).isNone).map
    NamedNode.name

/-- The generated type parameter that would hide what `name` refers to. -/
def shadowingParameter? (name : String) (config : Config) : Option String :=
  let head := String.ofList (pathHead name.toList)
  if head ≠ "" ∧ (head = config.subject ∨ head = config.target) then some head else none

def shadowed? (type : TypeExpr) (config : Config) : Option (String × String) :=
  type.nodes.findSome? fun node =>
    (shadowingParameter? node.name config).map (node.name, ·)

/-- Checks a type of a requirement against the interface that declares it. -/
def checkIn (type : TypeExpr) (interface : Interface) (config : Config) :
    Except InterfaceFault Unit := do
  match type.check with
  | .ok () => pure ()
  | .error fault => throw (.type fault)
  match type.unknownProjection? interface with
  | some name => throw (.unknownProjection name)
  | none => pure ()
  match type.shadowed? config with
  | some (name, parameter) => throw (.shadowed name parameter)
  | none => pure ()

end TypeExpr

def Receiver.passing? : Receiver → Option FieldPassing
  | .static => none
  | .borrowed => some .borrowed
  | .owned => some .owned
  | .mutable => some .inout

def Passing.forField : Passing → FieldPassing
  | .owned => .owned
  | .borrowed => .borrowed

namespace Interface

/-- Checks the associated types after those of `earlier`. -/
def checkAssociatedTypes (interface : Interface) (config : Config) (earlier : List AssociatedType) :
    List AssociatedType → Except GenerateError Unit
  | [] => .ok ()
  | associated :: rest => do
      let refuse (fault : InterfaceFault) : Except GenerateError Unit :=
        throw (.malformed interface.name none fault)
      if !Surface.readsAsName associated.name then refuse (.associatedName associated.name)
      if associated.name = config.subject ∨ associated.name = config.target then
        refuse (.associatedClash associated.name)
      if earlier.any (·.name = associated.name) then refuse (.associatedTwice associated.name)
      match associated.constraint with
      | some constraint =>
          if !Surface.readsAsName constraint then
            refuse (.constraintName constraint associated.name)
      | none => pure ()
      checkAssociatedTypes interface config (earlier ++ [associated]) rest

/-- The field of a requirement as a function over the subject. -/
def functionField (interface : Interface) (config : Config) (requirement : Requirement) :
    Except GenerateError FunctionField := do
  let name := requirement.name
  let check (type : TypeExpr) : Except GenerateError Unit :=
    match type.checkIn interface config with
    | .ok () => .ok ()
    | .error fault => .error (.malformed interface.name (some name) fault)
  if !Surface.readsAsName name || !Surface.readsAsName (Text.snakeCase name) then
    throw (.malformed interface.name (some name) .requirementName)
  let variance := requirement.variance (SubjectNames.ofInterface interface)
  match requirement with
  | .method method =>
      if method.generics ≠ [] then
        throw (.unsupported interface.name name (.ownGenerics method.generics))
      let receiver := method.receiver.passing?.toList.map (⟨.identifier selfType, ·⟩)
      let parameters ← method.parameters.mapM fun parameter => do
        check parameter.type
        pure (⟨parameter.type, parameter.passing.forField⟩ : FieldParameter)
      match method.output with
      | some output => check output
      | none => pure ()
      pure ⟨name, receiver ++ parameters, method.output, .call, variance⟩
  | .property property =>
      check property.type
      if property.isConstant && !property.isStatic then
        throw (.unsupported interface.name name .instanceConstant)
      let receiver := if property.isStatic then [] else [⟨.identifier selfType, .borrowed⟩]
      pure ⟨name, receiver, some property.type,
        if property.isConstant then .constant else .call, variance⟩

/-- The embedded witnesses of the constrained associated types. -/
def nestedFields (interface : Interface) : List WitnessField :=
  interface.associatedTypes.filterMap fun associated =>
    associated.constraint.map fun constraint =>
      ⟨Text.snakeCase associated.name,
        .nested constraint (witnessName constraint) associated.name⟩

/-- The first field whose name an earlier one has, with that earlier one. -/
def repeatedField? (earlier : List WitnessField) :
    List WitnessField → Option (WitnessField × WitnessField)
  | [] => none
  | field :: rest =>
      match earlier.find? (·.name = field.name) with
      | some prior => some (prior, field)
      | none => repeatedField? (earlier ++ [field]) rest

def checkFieldNames (interface : Interface) (fields : List WitnessField) :
    Except GenerateError Unit :=
  match repeatedField? [] fields with
  | none => .ok ()
  | some (prior, field) =>
      let requirement :=
        match field.kind with
        | .function function => some function.requirement
        | .nested .. => none
      let nested :=
        match prior.kind with
        | .function _ => none
        | .nested _ _ associated => some associated
      .error (.malformed interface.name requirement (.fieldTwice field.name nested))

/-- The associated types that some field needs: those with a nested witness
and those that a requirement mentions. -/
def retainedTypes (interface : Interface) : List String :=
  let names : SubjectNames := Std.TreeSet.ofList (interface.associatedTypes.map AssociatedType.name)
  let mentioned : SubjectNames := Std.TreeSet.ofList <|
    interface.requirements.flatMap fun requirement =>
      requirement.types.flatMap fun type => (type.subjects names).toList
  (interface.associatedTypes.filter fun associated =>
    associated.constraint.isSome || mentioned.contains associated.name).map AssociatedType.name

def emit (interface : Interface) (config : Config) : Except GenerateError WitnessSpec := do
  if !Surface.readsAsName interface.name then
    throw (.malformed interface.name none .interfaceName)
  interface.checkAssociatedTypes config [] interface.associatedTypes
  let functions ← interface.requirements.mapM fun requirement => do
    let function ← interface.functionField config requirement
    pure (⟨Text.snakeCase requirement.name, .function function⟩ : WitnessField)
  let fields := interface.nestedFields ++ functions
  interface.checkFieldNames fields
  pure
    { interface := interface.name
      structName := witnessName interface.name
      access := interface.access
      genericParameters := config.subject :: interface.retainedTypes
      fields := fields
      constructorParameters := fields.map WitnessField.name
      transformKind := interface.transformKind
      options := interface.options }

end Interface

end InterfaceWitness
