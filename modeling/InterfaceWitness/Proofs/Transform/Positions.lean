import InterfaceWitness.Proofs.Code.Spelling
import InterfaceWitness.Proofs.Transform.Directions
import InterfaceWitness.Proofs.Transform.Routes

/-!
The routes of a transformer fit the types at their positions.  Where nothing is
converted the printed type is the same for every subject, and where something
is, the subject stands where a conversion reaches it.
-/

namespace InterfaceWitness

/-- What types are put together by. -/
inductive TypeFormer where
  | generic
  | function
  | tuple
  | optional
  deriving DecidableEq, Repr

namespace TypeExpr

/-- A name stands in a type, within these formers from the outside in.  The base
of a generic type is within it. -/
inductive Occurs (name : String) : List TypeFormer → TypeExpr → Prop where
  | identifier : Occurs name [] (.identifier name)
  | base {arguments} : Occurs name [.generic] (.generic name arguments)
  | argument {formers base arguments type} : type ∈ arguments → Occurs name formers type →
      Occurs name (.generic :: formers) (.generic base arguments)
  | parameter {formers parameters output type} : type ∈ parameters → Occurs name formers type →
      Occurs name (.function :: formers) (.function parameters output)
  | output {formers parameters output} : Occurs name formers output →
      Occurs name (.function :: formers) (.function parameters (some output))
  | element {formers elements type} : type ∈ elements → Occurs name formers type →
      Occurs name (.tuple :: formers) (.tuple elements)
  | inner {formers type} : Occurs name formers type →
      Occurs name (.optional :: formers) (.optional type)

variable {name : String} {type : TypeExpr} {formers : List TypeFormer} {node : NamedNode}

theorem Occurs.mem_nodes (occurs : Occurs name formers type) :
    ∃ node ∈ type.nodes, node.name = name := by
  induction occurs with
  | identifier => exact ⟨_, List.mem_singleton.mpr rfl, rfl⟩
  | base => exact ⟨_, List.mem_cons_self .., rfl⟩
  | argument member _ inductionHypothesis =>
      obtain ⟨node, inside, named⟩ := inductionHypothesis
      exact ⟨node, List.mem_cons_of_mem _ (mem_nodesOfAll.mpr ⟨_, member, inside⟩), named⟩
  | parameter member _ inductionHypothesis =>
      obtain ⟨node, inside, named⟩ := inductionHypothesis
      exact ⟨node, List.mem_append_left _ (mem_nodesOfAll.mpr ⟨_, member, inside⟩), named⟩
  | output _ inductionHypothesis =>
      obtain ⟨node, inside, named⟩ := inductionHypothesis
      exact ⟨node, List.mem_append_right _ inside, named⟩
  | element member _ inductionHypothesis =>
      obtain ⟨node, inside, named⟩ := inductionHypothesis
      exact ⟨node, mem_nodesOfAll.mpr ⟨_, member, inside⟩, named⟩
  | inner _ inductionHypothesis => exact inductionHypothesis

mutual

theorem occurs_of_mem_nodes : (type : TypeExpr) → node ∈ type.nodes →
    ∃ formers, Occurs node.name formers type
  | .identifier name, member => by
      obtain rfl := List.mem_singleton.mp member
      exact ⟨_, .identifier⟩
  | .generic base arguments, member => by
      rcases List.mem_cons.mp member with rfl | inside
      · exact ⟨_, .base⟩
      · obtain ⟨argument, isArgument, formers, occurs⟩ := occurs_of_mem_nodesOfAll arguments inside
        exact ⟨_, .argument isArgument occurs⟩
  | .function parameters output, member => by
      rcases List.mem_append.mp member with inside | inside
      · obtain ⟨parameter, isParameter, formers, occurs⟩ :=
          occurs_of_mem_nodesOfAll parameters inside
        exact ⟨_, .parameter isParameter occurs⟩
      · cases output with
        | none => simp [nodesOfOutput] at inside
        | some output =>
            obtain ⟨formers, occurs⟩ := occurs_of_mem_nodes output inside
            exact ⟨_, .output occurs⟩
  | .tuple elements, member => by
      obtain ⟨element, isElement, formers, occurs⟩ := occurs_of_mem_nodesOfAll elements member
      exact ⟨_, .element isElement occurs⟩
  | .optional inner, member => by
      obtain ⟨formers, occurs⟩ := occurs_of_mem_nodes inner member
      exact ⟨_, .inner occurs⟩

theorem occurs_of_mem_nodesOfAll : (types : List TypeExpr) → node ∈ nodesOfAll types →
    ∃ type ∈ types, ∃ formers, Occurs node.name formers type
  | type :: rest, member => by
      rcases List.mem_append.mp member with here | later
      · exact ⟨type, List.mem_cons_self .., occurs_of_mem_nodes type here⟩
      · obtain ⟨other, isLater, occurs⟩ := occurs_of_mem_nodesOfAll rest later
        exact ⟨other, List.mem_cons_of_mem _ isLater, occurs⟩

end

theorem mentions_primary_iff_occurs :
    type.mentions SubjectNames.primary = true ↔ ∃ formers, Occurs selfType formers type := by
  rw [mentions_primary_iff]
  constructor
  · rintro ⟨node, member, isSelf⟩
    exact isSelf ▸ occurs_of_mem_nodes type member
  · rintro ⟨formers, occurs⟩
    exact occurs.mem_nodes

/-- The subject stands somewhere in a type. -/
def HasSubject (type : TypeExpr) : Prop := ∃ formers, Occurs selfType formers type

theorem mentions_primary_iff_hasSubject :
    type.mentions SubjectNames.primary = true ↔ type.HasSubject :=
  mentions_primary_iff_occurs

@[simp]
theorem hasSubject_selfType : (identifier selfType).HasSubject := ⟨_, .identifier⟩

/-- The subject stands in a type, and a conversion reaches it everywhere. -/
def Convertible (type : TypeExpr) : Prop :=
  (∃ formers, Occurs selfType formers type) ∧
    ∀ formers, Occurs selfType formers type → ∀ former ∈ formers,
      former = .tuple ∨ former = .optional

/-- No occurrence is inside a generic or a function type: these are not
converted. -/
theorem formers_of_routable (occurs : Occurs selfType formers type)
    (routable : type.routable SubjectNames.primary = true) :
    ∀ former ∈ formers, former = .tuple ∨ former = .optional := by
  have converted {type : TypeExpr} {formers : List TypeFormer}
      (occurs : Occurs selfType formers type) :
      type.mentions SubjectNames.primary ≠ false := by
    rw [ne_eq, Bool.not_eq_false]
    exact mentions_primary_iff_occurs.mpr ⟨formers, occurs⟩
  induction occurs with
  | identifier => simp
  | base => exact absurd (routable_generic.mp routable) (converted .base)
  | argument member inside =>
      exact absurd (routable_generic.mp routable) (converted (.argument member inside))
  | parameter member inside =>
      exact absurd (routable_function.mp routable) (converted (.parameter member inside))
  | output inside => exact absurd (routable_function.mp routable) (converted (.output inside))
  | element member _ inductionHypothesis =>
      have elementRoutable := routable_tuple.mp routable _ member
      simpa using inductionHypothesis elementRoutable
  | inner _ inductionHypothesis =>
      simpa using inductionHypothesis (routable_optional.mp routable)

theorem convertible_of_routable (mentioned : type.mentions SubjectNames.primary = true)
    (routable : type.routable SubjectNames.primary = true) : type.Convertible :=
  ⟨mentions_primary_iff_occurs.mp mentioned, fun _ occurs => formers_of_routable occurs routable⟩

theorem isNamed_selfType : type.isNamed selfType = true ↔ type = .identifier selfType := by
  cases type <;> simp [isNamed, namesSubject]

end TypeExpr

section Printed

open Code

variable {type : TypeExpr} {associated : List String}

/-- The subject is printed nowhere but where it is mentioned. -/
theorem typeTokens_of_not_mentions (unmentioned : type.mentions SubjectNames.primary = false)
    (left right : String) :
    typeTokens ⟨left, associated⟩ type = typeTokens ⟨right, associated⟩ type := by
  rw [typeTokens_eq_spelledBy, typeTokens_eq_spelledBy]
  apply TypeExpr.spelledBy_congr
  intro node member
  have different : node.name ≠ selfType := by
    intro isSelf
    have mentioned := TypeExpr.mentions_primary_iff.mpr ⟨node, member, isSelf⟩
    rw [unmentioned] at mentioned
    cases mentioned
  simp only [Scope.spelling, Scope.resolve, Scope.parameter?, different, if_false]

theorem parameterTokens_of_not_mentions {parameter : FieldParameter}
    (unmentioned : parameter.type.mentions SubjectNames.primary = false) (left right : String) :
    parameterTokens ⟨left, associated⟩ parameter
      = parameterTokens ⟨right, associated⟩ parameter := by
  have same : typeTokens ⟨left, associated⟩ parameter.type
      = typeTokens ⟨right, associated⟩ parameter.type :=
    typeTokens_of_not_mentions unmentioned left right
  cases passing : parameter.passing <;> simp [parameterTokens, passing, same]

theorem signatureTokens_of_not_mentions {function : FunctionField}
    (unmentioned : ∀ parameter ∈ function.parameters,
      parameter.type.mentions SubjectNames.primary = false)
    (output : ∀ type ∈ function.output, type.mentions SubjectNames.primary = false)
    (left right : String) :
    signatureTokens ⟨left, associated⟩ function = signatureTokens ⟨right, associated⟩ function := by
  have parameters : function.parameters.map (parameterTokens ⟨left, associated⟩)
      = function.parameters.map (parameterTokens ⟨right, associated⟩) :=
    List.map_congr_left fun parameter member =>
      parameterTokens_of_not_mentions (unmentioned parameter member) left right
  have result : function.output.map (typeTokens ⟨left, associated⟩)
      = function.output.map (typeTokens ⟨right, associated⟩) :=
    Option.map_congr fun type isOutput =>
      typeTokens_of_not_mentions (output type isOutput) left right
  rw [signatureTokens, signatureTokens, parameters, result]

end Printed

/-- A parameter that is passed on has one printed type for all subjects, and one
that is changed in place is the subject itself. -/
def FieldParameter.Fits (parameter : FieldParameter) (associated : List String) :
    ParameterRoute → Prop
  | .pass => ∀ left right, Code.parameterTokens ⟨left, associated⟩ parameter
      = Code.parameterTokens ⟨right, associated⟩ parameter
  | .pullBack => parameter.type.Convertible
  | .inout => parameter.passing = .inout ∧ parameter.type = .identifier selfType

/-- A result that is passed on has one printed type for all subjects. -/
def FunctionField.OutputFits (function : FunctionField) (associated : List String) :
    OutputRoute → Prop
  | .pass => ∀ type ∈ function.output, ∀ left right,
      Code.typeTokens ⟨left, associated⟩ type = Code.typeTokens ⟨right, associated⟩ type
  | .map => ∃ type, function.output = some type ∧ type.Convertible

/-- A field that is shared or copied has one printed type for all subjects, and
one that is rebuilt has a route for each of its parameters. -/
def WitnessField.Fits (field : WitnessField) (associated : List String) : Transport → Prop
  | .forward => (∃ function, field.kind = .function function) ∧
      ∀ left right, Code.fieldTypeTokens ⟨left, associated⟩ field
        = Code.fieldTypeTokens ⟨right, associated⟩ field
  | .nested => (∃ interface witness name, field.kind = .nested interface witness name) ∧
      ∀ left right, Code.fieldTypeTokens ⟨left, associated⟩ field
        = Code.fieldTypeTokens ⟨right, associated⟩ field
  | .rebuild parameters output => ∃ function, field.kind = .function function ∧
      List.Forall₂ (fun parameter route => FieldParameter.Fits parameter associated route)
        function.parameters parameters ∧
      function.OutputFits associated output

section Fitting

variable {parameter : FieldParameter} {function : FunctionField} {field : WitnessField}
  {associated : List String} {interface : String} {route : FieldRoute}

theorem FieldParameter.fits_of_route? {route : ParameterRoute}
    (routed : parameter.route? SubjectNames.primary = some route) :
    parameter.Fits associated route := by
  have found := FieldParameter.route?_eq_some.mp routed
  cases route with
  | pass => exact parameterTokens_of_not_mentions found
  | pullBack => exact TypeExpr.convertible_of_routable found.1 found.2.2
  | inout => exact ⟨found.2.1, TypeExpr.isNamed_selfType.mp found.2.2⟩

theorem FunctionField.outputFits_of_transport {parameters : List ParameterRoute}
    {output : OutputRoute}
    (routed : function.transport SubjectNames.primary = .ok (.rebuild parameters output)) :
    function.OutputFits associated output := by
  have found := FunctionField.output_of_transport routed
  cases output with
  | pass =>
      intro type isOutput
      exact typeTokens_of_not_mentions (found type isOutput)
  | map =>
      obtain ⟨type, isOutput, mentioned, routable⟩ := found
      exact ⟨type, isOutput, TypeExpr.convertible_of_routable mentioned routable⟩

theorem WitnessField.field_of_route (routed : field.route interface = .ok route) :
    route.field = field.name := by
  unfold WitnessField.route at routed
  split at routed
  case h_1 => exact congrArg FieldRoute.field (Except.ok.inj routed).symm
  case h_2 =>
    split at routed
    case h_1 => exact congrArg FieldRoute.field (Except.ok.inj routed).symm
    case h_2 => cases routed

theorem WitnessField.fits_of_route (routed : field.route interface = .ok route) :
    field.Fits associated route.transport := by
  cases isKind : field.kind with
  | nested interface witness name =>
      simp only [WitnessField.route, isKind, Except.ok.injEq] at routed
      subst routed
      refine ⟨⟨interface, witness, name, isKind⟩, ?_⟩
      intro left right
      simp only [Code.fieldTypeTokens, isKind]
  | function function =>
      have transported := WitnessField.transport_eq_ok routed isKind
      rcases FunctionField.transport_eq_ok transported with
        ⟨forwarded, unmentioned, output⟩ | ⟨parameters, output, rebuilt, routes, _⟩
      · rw [forwarded]
        refine ⟨⟨function, isKind⟩, ?_⟩
        intro left right
        simp only [Code.fieldTypeTokens, isKind]
        rw [signatureTokens_of_not_mentions unmentioned output left right]
      · rw [rebuilt] at transported ⊢
        exact ⟨function, isKind, routes.imp fun _ _ => FieldParameter.fits_of_route?,
          FunctionField.outputFits_of_transport transported⟩

end Fitting

namespace WitnessSpec

/-- Every field has a route of its name, in order, and every route fits the
field that it is for. -/
theorem fit_of_transforms {spec : WitnessSpec} {interface : String}
    {definitions : List TransformDef} (routed : spec.transforms interface = .ok definitions) :
    ∀ definition ∈ definitions,
      definition.routes.map FieldRoute.field = spec.fields.map WitnessField.name ∧
      List.Forall₂ (fun field route => field.Fits spec.associatedParameters route.transport)
        spec.fields definition.routes := by
  intro definition member
  obtain ⟨_, rfl⟩ | ⟨_, routes, fields, rfl⟩ := transforms_eq_ok_iff.mp routed
  · simp at member
  · obtain rfl := List.mem_singleton.mp member
    constructor
    · symm
      rw [← List.forall₂_eq_eq_eq, List.forall₂_map_left_iff, List.forall₂_map_right_iff]
      exact fields.imp fun _ _ routed => (WitnessField.field_of_route routed).symm
    · exact fields.imp fun _ _ routed => WitnessField.fits_of_route routed

theorem fit_of_transforms_shelving :
    let shelving : WitnessSpec :=
      { interface := "Shelving"
        structName := "ShelvingWitness"
        access := .exported
        genericParameters := ["A", "Label"]
        fields := [
          ⟨"label", .nested "Labelling" "LabellingWitness" "Label"⟩,
          ⟨"capacity", .function ⟨"capacity", [], some (.identifier "usize"), .call, .invariant⟩⟩,
          ⟨"push", .function ⟨"push",
            [⟨.identifier "Self", .inout⟩, ⟨.optional (.identifier "Self"), .owned⟩,
              ⟨.identifier "Self::Label", .borrowed⟩], none, .call, .contravariant⟩⟩,
          ⟨"split", .function ⟨"split", [⟨.identifier "Self", .owned⟩],
            some (.tuple [.identifier "Self", .identifier "u8"]), .call, .invariant⟩⟩]
        constructorParameters := ["label", "capacity", "push", "split"]
        transformKind := .iso
        options := {} }
    let definitions := [shelving.transformOf
      [⟨"label", .nested⟩, ⟨"capacity", .forward⟩,
        ⟨"push", .rebuild [.inout, .pullBack, .pass] .pass⟩,
        ⟨"split", .rebuild [.pullBack] .map⟩]]
    shelving.transforms "Shelving" = .ok definitions ∧ ∀ definition ∈ definitions,
      definition.routes.map FieldRoute.field = shelving.fields.map WitnessField.name ∧
      List.Forall₂ (fun field route => field.Fits shelving.associatedParameters route.transport)
        shelving.fields definition.routes := by
  intro shelving definitions
  have routed : shelving.transforms "Shelving" = .ok definitions := by decide +kernel
  exact ⟨routed, fit_of_transforms routed⟩

end WitnessSpec

end InterfaceWitness
