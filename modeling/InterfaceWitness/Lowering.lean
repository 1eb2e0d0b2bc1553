import InterfaceWitness.Interface
import InterfaceWitness.Surface.Depth

/-!
The interface that a trait declares.
-/

namespace InterfaceWitness

open Surface

inductive LoweringFault where
  | genericTrait
  | notAssociated (name trait : String)
  | genericAssociatedType
  | missingConstraint (name : String)
  | itemKind
  | asyncFunction
  | unsafeFunction
  | parameterKind
  | typedReceiver
  | returnedReference
  | mutableReference
  | typeForm
  | innerArguments
  | argumentKind
  deriving DecidableEq, Repr

def LoweringFault.message : LoweringFault → String
  | .genericTrait => "witnessed traits cannot have generic parameters"
  | .notAssociated name trait =>
      "`" ++ name ++ "` is not an associated type of `" ++ trait ++ "`"
  | .genericAssociatedType => "generic associated types cannot be witnessed"
  | .missingConstraint name =>
      "nested associated type `" ++ name ++ "` needs a bound naming a witnessed trait"
  | .itemKind => "only methods, constants and associated types can be witnessed"
  | .asyncFunction => "async requirements cannot be witnessed"
  | .unsafeFunction => "unsafe requirements cannot be witnessed"
  | .parameterKind => "only type parameters are allowed on witnessed requirements"
  | .typedReceiver => "typed receivers cannot be witnessed"
  | .returnedReference => "requirements cannot return references"
  | .mutableReference => "only the receiver can be taken by `&mut`"
  | .typeForm => "this type cannot appear in a witnessed requirement"
  | .innerArguments => "generic arguments are only supported on the last path segment"
  | .argumentKind => "only type arguments can appear in a witnessed requirement"

/-- The paths of the option type. -/
def isOptionPath (base : String) : Bool :=
  let name :=
    if "::".toList.isPrefixOf base.toList then String.ofList (base.toList.drop 2) else base
  name = "Option" || name = "std::option::Option" || name = "core::option::Option"

/-- The text of a path without arguments. -/
def pathText (rooted : Bool) (names : List String) : String :=
  (if rooted then "::" else "") ++ "::".intercalate names

/-- A generic type, or an option if it is one of a single argument. -/
def TypeExpr.applied (base : String) : List TypeExpr → TypeExpr
  | [inner] => if isOptionPath base then .optional inner else .generic base [inner]
  | arguments => .generic base arguments

mutual

def TypeExpr.ofSource : SourceType → Except LoweringFault TypeExpr
  | .parenthesized inner => TypeExpr.ofSource inner
  | .grouped inner => TypeExpr.ofSource inner
  | .tuple elements _ => do pure (.tuple (← TypeExpr.ofSources elements))
  | .path rooted segments => TypeExpr.ofSegments rooted [] segments
  | .reference .. => .error .typeForm
  | .slice _ => .error .typeForm
  | .bareBound .. => .error .typeForm
  | .other _ => .error .typeForm

def TypeExpr.ofSources : List SourceType → Except LoweringFault (List TypeExpr)
  | [] => .ok []
  | type :: rest => do
      let first ← TypeExpr.ofSource type
      pure (first :: (← TypeExpr.ofSources rest))

/-- The type that a path names, where `names` are the segments read so far.
Only the last segment may have arguments.  They stand in angle brackets: in
parentheses they are read in bounds only, so no segment of a type has them. -/
def TypeExpr.ofSegments (rooted : Bool) (names : List String) :
    List Segment → Except LoweringFault TypeExpr
  | [] => .ok (.identifier (pathText rooted names))
  | [.applied name _ arguments _] => do
      pure (.applied (pathText rooted (names ++ [name])) (← TypeExpr.ofArguments arguments))
  | .applied .. :: _ => .error .innerArguments
  | .plain name :: rest => TypeExpr.ofSegments rooted (names ++ [name]) rest

def TypeExpr.ofArguments : List Argument → Except LoweringFault (List TypeExpr)
  | [] => .ok []
  | .type type :: rest => do
      let first ← TypeExpr.ofSource type
      pure (first :: (← TypeExpr.ofArguments rest))
  | .lifetime _ :: _ => .error .argumentKind
  | .other _ :: _ => .error .argumentKind

end

/-- The owned type that a field holds for a borrowed parameter. -/
def TypeExpr.ofBorrowed : SourceType → Except LoweringFault TypeExpr
  | .path false [.plain "str"] => .ok (.identifier "String")
  | .slice element => do pure (.generic "Vec" [← TypeExpr.ofSource element])
  | type => TypeExpr.ofSource type

/-- The type of a parameter and how it is passed. -/
def loweredParameter : SourceType → Except LoweringFault (TypeExpr × Passing)
  | .reference _ true _ => .error .mutableReference
  | .reference _ false referent => do pure (← TypeExpr.ofBorrowed referent, .borrowed)
  | type => do pure (← TypeExpr.ofSource type, .owned)

def Receiver.ofInput (receiver : ReceiverInput) : Receiver :=
  match receiver.reference, receiver.isMutable with
  | some _, true => .mutable
  | some _, false => .borrowed
  | none, _ => .owned

/-- A parameter is called what its pattern binds, or else after its place. -/
def inputLabel (pattern : Pattern) (index : Nat) : String :=
  pattern.boundName?.getD ("arg" ++ toString index)

namespace Method

/-- Adds the inputs of a function, of which `index` came before. -/
def addInputs (method : Method) (index : Nat) : List Input → Except LoweringFault Method
  | [] => .ok method
  | .receiver _ receiver :: rest =>
      if receiver.type.isSome then .error .typedReceiver
      else addInputs { method with receiver := .ofInput receiver } (index + 1) rest
  | .typed _ pattern type :: rest => do
      let (lowered, passing) ← loweredParameter type
      let parameter : Parameter := ⟨inputLabel pattern index, lowered, passing⟩
      addInputs { method with parameters := method.parameters ++ [parameter] } (index + 1) rest
  | .variadic _ :: rest => addInputs method (index + 1) rest

def ofSignature (signature : Signature) : Except LoweringFault Method := do
  if signature.isAsync then throw .asyncFunction
  if signature.isUnsafe then throw .unsafeFunction
  if signature.generics.items.any (·.kind ≠ .type) then throw .parameterKind
  let method ← addInputs
    ⟨signature.name, [], .static, signature.generics.items.map GenericParameter.name, none⟩ 0
    signature.inputs.items
  match signature.output with
  | none => pure method
  | some (.reference ..) => throw .returnedReference
  | some type => pure { method with output := some (← TypeExpr.ofSource type) }

end Method

/-- The traits of the standard library that are never witnessed. -/
def standardTraits : List String :=
  ["Send", "Sync", "Sized", "Unpin", "Clone", "Copy", "Debug", "Default", "PartialEq", "Eq",
    "PartialOrd", "Ord", "Hash"]

/-- The trait that a bound names, if a witness of it can be embedded. -/
def witnessedTrait? : Bound → Option String
  | .trait path true _ =>
      match path.segments.getLast? with
      | some (.plain name) => if standardTraits.contains name then none else some name
      | _ => none
  | _ => none

def Access.ofVisibility : Visibility → Access
  | .everywhere => .exported
  | .restricted _ => .internal
  | .inherited => .unmarked

namespace AssociatedType

/-- Only the associated types in `nested` have their witness embedded. -/
def ofItem (item : AssociatedTypeItem) (nested : List String) :
    Except LoweringFault AssociatedType :=
  if !item.generics.items.isEmpty then .error .genericAssociatedType
  else if item.name ∈ nested then
    match item.bounds.items.findSome? witnessedTrait? with
    | some constraint => .ok ⟨item.name, some constraint⟩
    | none => .error (.missingConstraint item.name)
  else .ok ⟨item.name, none⟩

end AssociatedType

namespace Interface

def addItem (interface : Interface) (nested : List String) :
    TraitItem → Except LoweringFault Interface
  | .associatedType _ item => do
      let associated ← AssociatedType.ofItem item nested
      pure { interface with associatedTypes := interface.associatedTypes ++ [associated] }
  | .constant _ item => do
      let property : Property := ⟨item.name, ← TypeExpr.ofSource item.type, true, true⟩
      pure { interface with requirements := interface.requirements ++ [.property property] }
  | .function _ signature _ => do
      let method ← Method.ofSignature signature
      pure { interface with requirements := interface.requirements ++ [.method method] }
  | .other _ => .error .itemKind

/-- Whether a declaration has an associated type of this name. -/
def declares (declaration : TraitDeclaration) (name : String) : Bool :=
  declaration.items.any fun item =>
    match item with
    | .associatedType _ associated => associated.name = name
    | _ => false

def ofTrait (declaration : TraitDeclaration) (options : GenerationOptions)
    (nested : List String) : Except LoweringFault Interface := do
  if !declaration.generics.items.isEmpty || declaration.constraints.isSome then
    throw .genericTrait
  match nested.find? (!declares declaration ·) with
  | some missing => throw (.notAssociated missing declaration.name)
  | none => pure ()
  declaration.items.foldlM (·.addItem nested ·)
    ⟨declaration.name, .ofVisibility declaration.visibility, [], [], options⟩

end Interface

end InterfaceWitness
