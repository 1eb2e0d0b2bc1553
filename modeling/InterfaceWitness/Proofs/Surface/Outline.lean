import InterfaceWitness.Surface.Trait

/-!
Declarations without the groups around their types.  Types also occur in what
is kept as tokens, which is left out; so two declarations that differ in groups
alone have the same outline.
-/

namespace InterfaceWitness.Surface

mutual

/-- A type without groups in it. -/
def SourceType.outline : SourceType → SourceType
  | .parenthesized inner => inner.outline
  | .grouped inner => inner.outline
  | .tuple elements trailing => .tuple (SourceType.outlineAll elements) trailing
  | .path rooted segments => .path rooted (Segment.outlineAll segments)
  | .reference lifetime isMutable referent => .reference lifetime isMutable referent.outline
  | .slice element => .slice element.outline
  | .bareBound _ _ => .bareBound [] false
  | .other _ => .other []

def SourceType.outlineAll : List SourceType → List SourceType
  | [] => []
  | type :: rest => type.outline :: SourceType.outlineAll rest

def Segment.outline : Segment → Segment
  | .plain name => .plain name
  | .applied name separated arguments trailing =>
      .applied name separated (Argument.outlineAll arguments) trailing

def Segment.outlineAll : List Segment → List Segment
  | [] => []
  | segment :: rest => segment.outline :: Segment.outlineAll rest

def Argument.outline : Argument → Argument
  | .lifetime name => .lifetime name
  | .type type => .type type.outline
  | .other _ => .other []

def Argument.outlineAll : List Argument → List Argument
  | [] => []
  | argument :: rest => argument.outline :: Argument.outlineAll rest

end

theorem Segment.outlineAll_eq_map (segments : List Segment) :
    Segment.outlineAll segments = segments.map Segment.outline := by
  induction segments with
  | nil => rfl
  | cons segment rest inductionHypothesis =>
      rw [Segment.outlineAll, inductionHypothesis, List.map_cons]

def Path.outline (path : Path) : Path := ⟨path.rooted, Segment.outlineAll path.segments⟩

def Separated.outlined {α : Type} (outline : α → α) (separated : Separated α) : Separated α :=
  ⟨separated.items.map outline, separated.trailing⟩

def Bound.outline : Bound → Bound
  | .lifetime name => .lifetime name
  | .trait path isPlain _ => .trait path.outline isPlain []
  | .constantTrait _ => .constantTrait []
  | .captures _ => .captures []

def GenericParameter.outline (parameter : GenericParameter) : GenericParameter :=
  { parameter with tokens := [] }

@[simp]
theorem GenericParameter.kind_outline (parameter : GenericParameter) :
    parameter.outline.kind = parameter.kind := rfl

@[simp]
theorem GenericParameter.name_outline (parameter : GenericParameter) :
    parameter.outline.name = parameter.name := rfl

def WhereClause.outline (constraints : WhereClause) : WhereClause :=
  constraints.map fun _ => []

def Pattern.outline (pattern : Pattern) : Pattern :=
  { pattern with tokens := [] }

def Input.outline : Input → Input
  | .receiver attributes found =>
      .receiver attributes { found with type := found.type.map SourceType.outline }
  | .typed attributes pattern type => .typed attributes pattern.outline type.outline
  | .variadic _ => .variadic []

def Signature.outline (signature : Signature) : Signature :=
  { signature with
    generics := signature.generics.outlined GenericParameter.outline
    inputs := signature.inputs.outlined Input.outline
    output := signature.output.map SourceType.outline
    constraints := signature.constraints.outline }

def AssociatedTypeItem.outline (item : AssociatedTypeItem) : AssociatedTypeItem :=
  { item with
    generics := item.generics.outlined GenericParameter.outline
    bounds := item.bounds.outlined Bound.outline
    default := item.default.map SourceType.outline
    constraints := item.constraints.outline }

def ConstantItem.outline (item : ConstantItem) : ConstantItem :=
  { item with type := item.type.outline, value := [] }

def TraitItem.outline : TraitItem → TraitItem
  | .associatedType attributes item => .associatedType attributes item.outline
  | .constant attributes item => .constant attributes item.outline
  | .function attributes signature _ => .function attributes signature.outline []
  | .other _ => .other []

def TraitDeclaration.outline (declaration : TraitDeclaration) : TraitDeclaration :=
  { declaration with
    generics := declaration.generics.outlined GenericParameter.outline
    supertraits := declaration.supertraits.outlined Bound.outline
    constraints := declaration.constraints.outline
    items := declaration.items.map TraitItem.outline }

/-- Whether a type is a text or a slice, and in no group. -/
def SourceType.isUnsized : SourceType → Bool
  | .path false [.plain "str"] => true
  | .slice _ => true
  | _ => false

/-- What a type shows outside of groups: whether it is a reference, and if it
is, whether to a text or a slice. -/
inductive Appearance where
  | value
  | reference (isUnsized : Bool)
  deriving DecidableEq, Repr

def SourceType.appearance : SourceType → Appearance
  | .reference _ _ referent => .reference referent.isUnsized
  | _ => .value

def Input.appearance? : Input → Option Appearance
  | .typed _ _ type => some type.appearance
  | _ => none

def TraitItem.appearances : TraitItem → List (Option Appearance)
  | .function _ signature _ => signature.inputs.items.map Input.appearance?
  | _ => []

/-- How the parameters of each item appear. -/
def TraitDeclaration.appearances (declaration : TraitDeclaration) :
    List (List (Option Appearance)) :=
  declaration.items.map TraitItem.appearances

namespace SourceType

variable {type : SourceType}

theorem exists_of_appearance_eq_reference {isUnsized : Bool}
    (appears : type.appearance = .reference isUnsized) :
    ∃ lifetime isMutable referent, type = .reference lifetime isMutable referent ∧
      referent.isUnsized = isUnsized := by
  cases type with
  | reference lifetime isMutable referent =>
      exact ⟨lifetime, isMutable, referent, rfl, Appearance.reference.inj appears⟩
  | _ => cases appears

theorem isUnsized_eq_true : type.isUnsized = true ↔
    type = .path false [.plain "str"] ∨ ∃ element, type = .slice element := by
  fun_cases isUnsized type <;> simp_all

end SourceType

end InterfaceWitness.Surface
