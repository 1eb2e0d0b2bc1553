import InterfaceWitness.Proofs.Code.Spelling
import InterfaceWitness.Proofs.Printing
import InterfaceWitness.Proofs.Subject

/-!
The analysis of an interface and the printing of its witness agree on which
names stand for the subject, but only identifiers are replaced: the base of a
generic type stays as it is written.
-/

namespace InterfaceWitness

open Code

namespace Interface

variable {interface : Interface} {config : Config} {spec : WitnessSpec}
  {requirement : Requirement} {type : TypeExpr} {node : NamedNode} {field : WitnessField}
  {subject name : String}

/-- The type parameter that stands for a subject. -/
def parameterOf (config : Config) (subject : String) : String :=
  if subject = selfType then config.subject else subject

/-- A node that the analysis leaves as it is written. -/
def Keeps (interface : Interface) (node : NamedNode) : Prop :=
  node.isBase = true ∨ (SubjectNames.ofInterface interface).resolve? node.name = none

/-- How the analysis has a node spelled. -/
def spelling (interface : Interface) (config : Config) (node : NamedNode) : List Token :=
  if node.isBase then pathTokens node.name
  else
    match (SubjectNames.ofInterface interface).resolve? node.name with
    | some subject => [.identifier (parameterOf config subject)]
    | none => pathTokens node.name

/-- The scope of a witness finds the parameter of the subject that a name is
resolved to. -/
theorem parameter?_eq (config : Config) {retained : List String} (named : interface.Named)
    (associated : retained ⊆ interface.associatedTypes.map AssociatedType.name)
    (complete : ∀ subject, (SubjectNames.ofInterface interface).resolve? name = some subject →
      subject ≠ selfType → subject ∈ retained) :
    Scope.parameter? ⟨config.subject, retained⟩ name
      = ((SubjectNames.ofInterface interface).resolve? name).map (parameterOf config) := by
  have resolves : ∀ subject, (SubjectNames.ofInterface interface).resolve? name = some subject ↔
      subject ∈ selfType :: interface.associatedTypes.map AssociatedType.name ∧
        namesSubject name subject = true := fun _ =>
    SubjectNames.resolve?_ofList_eq_some_iff named.apart
  have apart : SubjectNames.Apart retained :=
    named.apart.of_subset fun _ member => List.mem_cons_of_mem _ (associated member)
  by_cases isSelf : name = selfType
  · have resolved := (resolves selfType).mpr
      ⟨List.mem_cons_self .., namesSubject_iff.mpr (.inl isSelf)⟩
    simp [Scope.parameter?, isSelf, isSelf ▸ resolved, parameterOf]
  · rw [Scope.parameter?, if_neg isSelf]
    cases resolved : (SubjectNames.ofInterface interface).resolve? name with
    | none =>
        refine List.find?_eq_none.mpr fun subject member names => ?_
        have found := (resolves subject).mpr ⟨List.mem_cons_of_mem _ (associated member), names⟩
        simp [found] at resolved
    | some subject =>
        obtain ⟨member, names⟩ := (resolves subject).mp resolved
        have different : subject ≠ selfType := by
          rintro rfl
          exact isSelf ((namesSubject_iff.mp names).resolve_right fun absurd => absurd.1 rfl)
        rw [Option.map_some, parameterOf, if_neg different]
        exact (SubjectNames.find?_eq_some_iff apart).mpr
          ⟨complete subject resolved different, names⟩

theorem retainedTypes_subset :
    interface.retainedTypes ⊆ interface.associatedTypes.map AssociatedType.name := by
  intro name retained
  obtain ⟨associated, declared, rfl⟩ := exists_of_mem_retainedTypes retained
  exact List.mem_map_of_mem declared

/-- The scope of the witness of an interface spells every node of a requirement
as the analysis has it. -/
theorem spelling_eq (named : interface.Named) (required : requirement ∈ interface.requirements)
    (isType : type ∈ requirement.types) (member : node ∈ type.nodes) :
    Scope.spelling ⟨config.subject, interface.retainedTypes⟩ node
      = interface.spelling config node := by
  have parameter := parameter?_eq config named retainedTypes_subset fun subject =>
    mem_retainedTypes_of_resolve? named required isType member
  rw [Scope.spelling, spelling, Scope.resolve, parameter]
  cases (SubjectNames.ofInterface interface).resolve? node.name <;> rfl

theorem typeTokens_eq (named : interface.Named) (required : requirement ∈ interface.requirements)
    (isType : type ∈ requirement.types) :
    typeTokens ⟨config.subject, interface.retainedTypes⟩ type
      = type.spelledBy (interface.spelling config) := by
  rw [typeTokens_eq_spelledBy]
  exact TypeExpr.spelledBy_congr type fun node member => spelling_eq named required isType member

theorem subject_ne_selfType (valid : config.validate = .ok ()) : config.subject ≠ selfType := by
  intro isSelf
  have reads := (Config.validate_eq_ok valid).1
  simp [isSelf, readsAsName_selfType] at reads

theorem selfType_mem_spelling (valid : config.validate = .ok ()) :
    .identifier selfType ∈ interface.spelling config node ↔
      interface.Keeps node ∧ .identifier selfType ∈ pathTokens node.name := by
  have other : ∀ subject, (SubjectNames.ofInterface interface).resolve? node.name = some subject →
      parameterOf config subject ≠ selfType := by
    intro subject resolved
    rw [parameterOf]
    split
    case isTrue => exact subject_ne_selfType valid
    case isFalse different => exact different
  rw [spelling, Keeps]
  split
  case isTrue isBase => simp [isBase]
  case isFalse isIdentifier =>
    split
    case h_1 subject resolved => simp [isIdentifier, resolved, (other subject resolved).symm]
    case h_2 unresolved => simp [unresolved]

theorem selfType_mem_parameterTokens {scope : Scope} {parameter : FieldParameter} :
    .identifier selfType ∈ parameterTokens scope parameter ↔
      .identifier selfType ∈ typeTokens scope parameter.type := by
  cases passing : parameter.passing <;>
    simp [parameterTokens, passing, Token.operator, show selfType ≠ "mut" by decide]

/-- The receiver adds the subject alone to the types of a requirement, which is
always replaced. -/
theorem selfType_mem_functionType {scope : Scope} {names : SubjectNames} {label : String}
    (replaced : scope.subject ≠ selfType) :
    .identifier selfType ∈ fieldTypeTokens scope
        ⟨label, .function (requirement.function names)⟩ ↔
      ∃ type ∈ requirement.types, .identifier selfType ∈ typeTokens scope type := by
  have receiver : .identifier selfType ∉ typeTokens scope (.identifier selfType) := by
    simp [typeTokens, Scope.resolve, Scope.parameter?, replaced.symm]
  have foreign : selfType ∉ typeWords := by decide
  rw [fieldTypeTokens, identifier_mem_sharedFunction foreign, signatureTokens,
    identifier_mem_functionTrait foreign]
  cases requirement with
  | property declared =>
      cases isStatic : declared.isStatic <;>
        simp [Requirement.function, Requirement.fieldParameters, Requirement.fieldOutput,
          Requirement.types, isStatic, selfType_mem_parameterTokens, receiver]
  | method declared =>
      cases declared.receiver <;>
        simp [Requirement.function, Requirement.fieldParameters, Requirement.fieldOutput,
          Requirement.types, selfType_mem_parameterTokens, receiver, Receiver.passing?,
          or_and_right, exists_or]

theorem selfType_not_mem_nestedType {scope : Scope} {associated : AssociatedType}
    {constraint label : String} (named : interface.Named)
    (declared : associated ∈ interface.associatedTypes) :
    .identifier selfType ∉ fieldTypeTokens scope
      ⟨label, .nested constraint (witnessName constraint) associated.name⟩ := by
  have notWitness : selfType ≠ witnessName constraint := by
    intro equal
    have lengths := congrArg List.length (congrArg String.toList equal)
    simp [selfType, witnessName] at lengths
  have notAssociated := ne_selfType_of_mem_associatedTypes named (List.mem_map_of_mem declared)
  simp [fieldTypeTokens, word, notWitness, notAssociated.symm]

/-- The types of an accepted interface are printed as its analysis has them:
every identifier as the parameter that it is resolved to, and every base as it
is written.  So `Self` is left in the type of a field exactly where a type of
the requirement has it in a base or in an identifier that is not resolved. -/
theorem printed_as_resolved (valid : config.validate = .ok ())
    (emitted : interface.emit config = .ok spec) (definitions : List TransformDef) :
    let scope := (WitnessCode.ofSpec spec definitions config).scope
    (∀ requirement ∈ interface.requirements, ∀ type ∈ requirement.types,
      typeTokens scope type = type.spelledBy (interface.spelling config)) ∧
    ∀ field ∈ spec.fields, .identifier selfType ∈ fieldTypeTokens scope field ↔
      ∃ requirement ∈ interface.requirements,
        field.kind = .function (requirement.function (SubjectNames.ofInterface interface)) ∧
        ∃ type ∈ requirement.types, ∃ node ∈ type.nodes,
          interface.Keeps node ∧ .identifier selfType ∈ pathTokens node.name := by
  intro scope
  obtain ⟨named, rfl⟩ := emit_eq_ok emitted
  have printed : ∀ requirement ∈ interface.requirements, ∀ type ∈ requirement.types,
      typeTokens scope type = type.spelledBy (interface.spelling config) :=
    fun _ required _ isType => typeTokens_eq named required isType
  have kept : ∀ requirement ∈ interface.requirements, ∀ type ∈ requirement.types,
      (.identifier selfType ∈ typeTokens scope type ↔ ∃ node ∈ type.nodes,
        interface.Keeps node ∧ .identifier selfType ∈ pathTokens node.name) := by
    intro requirement required type isType
    rw [printed requirement required type isType,
      TypeExpr.identifier_mem_spelledBy (by decide)]
    simp only [selfType_mem_spelling valid]
  have replaced : scope.subject ≠ selfType := subject_ne_selfType valid
  refine ⟨printed, fun field member => ?_⟩
  constructor
  · intro found
    rcases mem_fields.mp member with ⟨_, declared, _, _, rfl⟩ | ⟨requirement, required, rfl⟩
    · exact absurd found (selfType_not_mem_nestedType named declared)
    · obtain ⟨type, isType, found⟩ := (selfType_mem_functionType replaced).mp found
      exact ⟨requirement, required, rfl, type, isType, (kept _ required _ isType).mp found⟩
  · rintro ⟨requirement, required, isFunction, type, isType, found⟩
    obtain ⟨label, kind⟩ := field
    obtain rfl : kind = _ := isFunction
    exact (selfType_mem_functionType replaced).mpr
      ⟨type, isType, (kept _ required _ isType).mpr found⟩

theorem printed_as_resolved_stepping :
    let stepping : Interface :=
      { name := "Stepping"
        access := .exported
        requirements := [.method
          { name := "step"
            parameters := [⟨"by", .tuple [.identifier "Self::Step", .identifier "u8"], .owned⟩]
            receiver := .borrowed
            generics := []
            output := some (.optional (.identifier "Self")) }]
        associatedTypes := [⟨"Step", none⟩]
        options := {} }
    let scope := (WitnessCode.ofSpec (stepping.witness {}) [] {}).scope
    Config.validate {} = .ok () ∧ stepping.emit {} = .ok (stepping.witness {}) ∧
      (∀ requirement ∈ stepping.requirements, ∀ type ∈ requirement.types,
        typeTokens scope type = type.spelledBy (stepping.spelling {})) ∧
      ∀ field ∈ (stepping.witness {}).fields, .identifier selfType ∈ fieldTypeTokens scope field ↔
        ∃ requirement ∈ stepping.requirements,
          field.kind = .function (requirement.function (SubjectNames.ofInterface stepping)) ∧
          ∃ type ∈ requirement.types, ∃ node ∈ type.nodes,
            stepping.Keeps node ∧ .identifier selfType ∈ pathTokens node.name := by
  intro stepping scope
  have valid : Config.validate {} = .ok () := by decide +kernel
  have emitted : stepping.emit {} = .ok (stepping.witness {}) := by decide +kernel
  exact ⟨valid, emitted, printed_as_resolved valid emitted []⟩

/-- A base that stands for an associated type is printed as it is written. -/
theorem projected_base_kept :
    let config : Config := {}
    let applied : TypeExpr := .generic "Self::Item" [.identifier "u8"]
    let plain : Interface :=
      ⟨"X", .unmarked, [.property ⟨"p", applied, true, false⟩], [⟨"Item", none⟩], {}⟩
    config.validate = .ok () ∧ plain.emit config = .ok (plain.witness config) ∧
      (SubjectNames.ofInterface plain).resolve? "Self::Item" = some "Item" ∧
      typeTokens (WitnessCode.ofSpec (plain.witness config) [] config).scope applied
        = word "Self" ++ Token.pathSeparator ++ word "Item" ++ angled (word "u8") := by
  refine ⟨?_, ?_, ?_, ?_⟩ <;> decide +kernel

end Interface

end InterfaceWitness
