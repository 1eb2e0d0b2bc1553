import InterfaceWitness.Generation
import InterfaceWitness.Proofs.Transform.Routes

/-!
What an interface has passed when a witness is emitted for it, and what the
witness is then.
-/

namespace InterfaceWitness

/-- The parameters of a requirement as a function over the subject. -/
def Requirement.fieldParameters : Requirement → List FieldParameter
  | .method declared =>
      declared.receiver.passing?.toList.map (⟨.identifier selfType, ·⟩)
        ++ declared.parameters.map fun parameter => ⟨parameter.type, parameter.passing.forField⟩
  | .property declared =>
      if declared.isStatic then [] else [⟨.identifier selfType, .borrowed⟩]

def Requirement.fieldOutput : Requirement → Option TypeExpr
  | .method declared => declared.output
  | .property declared => some declared.type

def Requirement.access : Requirement → MemberAccess
  | .method _ => .call
  | .property declared => if declared.isConstant then .constant else .call

/-- The function that a requirement is as a field of a witness. -/
def Requirement.function (requirement : Requirement) (names : SubjectNames) : FunctionField :=
  { requirement := requirement.name
    parameters := requirement.fieldParameters
    output := requirement.fieldOutput
    member := requirement.access
    variance := requirement.variance names }

theorem Passing.forField_ne_inout (passing : Passing) : passing.forField ≠ .inout := by
  cases passing <;> simp [forField]

namespace Interface

variable {interface : Interface} {config : Config} {requirement : Requirement}
  {function : FunctionField} {spec : WitnessSpec}

theorem functionField_eq_ok (emitted : interface.functionField config requirement = .ok function) :
    Surface.readsAsName requirement.name = true ∧
    Surface.readsAsName (Text.snakeCase requirement.name) = true ∧
    function = requirement.function (SubjectNames.ofInterface interface) := by
  unfold functionField at emitted
  cases requirement with
  | property declared =>
      simp only [refuse_eq_ok_iff, bind_eq_ok_iff, pure_eq_ok_iff, Bool.or_eq_true,
        Bool.not_eq_true', not_or, Bool.not_eq_false] at emitted
      obtain ⟨⟨name, field⟩, _, _, _, rfl⟩ := emitted
      exact ⟨name, field, rfl⟩
  | method declared =>
      simp only [refuse_eq_ok_iff, bind_eq_ok_iff, Bool.or_eq_true, Bool.not_eq_true', not_or,
        Bool.not_eq_false] at emitted
      obtain ⟨⟨name, field⟩, _, parameters, ran, made⟩ := emitted
      obtain rfl := eq_map_of_mapM_eq_ok
        (fun parameter => ⟨parameter.type, parameter.passing.forField⟩)
        (by simp only [bind_eq_ok_iff, pure_eq_ok_iff]; rintro _ _ ⟨_, _, rfl⟩; rfl) ran
      refine ⟨name, field, ?_⟩
      split at made <;> simp only [bind_eq_ok_iff, pure_eq_ok_iff] at made
      case h_1 =>
        obtain ⟨_, _, rfl⟩ := made
        rfl
      case h_2 => exact made.symm

/-- No method with type parameters of its own becomes a field. -/
theorem generics_of_functionField {method : Method}
    (emitted : interface.functionField config (.method method) = .ok function) :
    method.generics = [] := by
  simp only [functionField, refuse_eq_ok_iff] at emitted
  exact not_not.mp emitted.2.1

/-- Every type of a requirement that becomes a field has passed its check. -/
theorem checkIn_of_functionField
    (emitted : interface.functionField config requirement = .ok function)
    {type : TypeExpr} (isType : type ∈ requirement.types) :
    type.checkIn interface config = .ok () := by
  unfold functionField at emitted
  cases requirement with
  | property declared =>
      simp only [refuse_eq_ok_iff, bind_eq_ok_iff] at emitted
      obtain ⟨_, _, checked, _⟩ := emitted
      obtain rfl := List.mem_singleton.mp isType
      split at checked
      case h_1 ok => exact ok
      case h_2 => simp at checked
  | method declared =>
      simp only [refuse_eq_ok_iff, bind_eq_ok_iff] at emitted
      obtain ⟨_, _, parameters, ran, made⟩ := emitted
      rcases List.mem_append.mp isType with isInput | isOutput
      · obtain ⟨parameter, member, rfl⟩ := List.mem_map.mp isInput
        obtain ⟨field, stepped⟩ := exists_of_mapM_eq_ok ran member
        obtain ⟨_, checked, _⟩ := bind_eq_ok_iff.mp stepped
        split at checked
        case h_1 ok => exact ok
        case h_2 => simp at checked
      · obtain isOutput := Option.mem_toList.mp isOutput
        rw [isOutput] at made
        obtain ⟨_, checked, _⟩ := bind_eq_ok_iff.mp made
        split at checked
        case h_1 ok => exact ok
        case h_2 => simp at checked

/-- What is checked of an associated type on its own. -/
structure Admits (config : Config) (associated : AssociatedType) : Prop where
  name : Surface.readsAsName associated.name = true
  apart : associated.name ≠ config.subject ∧ associated.name ≠ config.target
  constraint : ∀ constraint ∈ associated.constraint, Surface.readsAsName constraint = true

theorem checkAssociatedTypes_cons {earlier rest : List AssociatedType}
    {associated : AssociatedType} :
    interface.checkAssociatedTypes config earlier (associated :: rest) = .ok () ↔
      Admits config associated ∧ (∀ prior ∈ earlier, prior.name ≠ associated.name) ∧
        interface.checkAssociatedTypes config (earlier ++ [associated]) rest = .ok () := by
  simp only [checkAssociatedTypes, refuse_eq_ok_iff, Bool.not_eq_true', Bool.not_eq_false, not_or,
    List.any_eq_true, decide_eq_true_eq, not_exists, not_and]
  constructor
  · rintro ⟨name, apart, fresh, checked⟩
    split at checked
    case h_1 constraint isConstraint =>
      simp only [refuse_eq_ok_iff, Bool.not_eq_false] at checked
      exact ⟨⟨name, apart, by simpa [isConstraint] using checked.1⟩, fresh, checked.2⟩
    case h_2 unconstrained => exact ⟨⟨name, apart, by simp [unconstrained]⟩, fresh, checked⟩
  · rintro ⟨⟨name, apart, constraint⟩, fresh, checked⟩
    refine ⟨name, apart, fresh, ?_⟩
    split
    case h_1 isConstraint =>
      simpa only [refuse_eq_ok_iff, Bool.not_eq_false] using
        And.intro (constraint _ isConstraint) checked
    case h_2 => exact checked

/-- The associated types that are accepted after some others are in order each
by itself, and no two have one name. -/
theorem checkAssociatedTypes_eq_ok_iff {earlier associatedTypes : List AssociatedType} :
    interface.checkAssociatedTypes config earlier associatedTypes = .ok () ↔
      (∀ associated ∈ associatedTypes, Admits config associated) ∧
      (associatedTypes.map AssociatedType.name).Nodup ∧
      ∀ associated ∈ associatedTypes, ∀ prior ∈ earlier, prior.name ≠ associated.name := by
  induction associatedTypes generalizing earlier with
  | nil => simp [checkAssociatedTypes]
  | cons associated rest inductionHypothesis =>
      rw [checkAssociatedTypes_cons, inductionHypothesis]
      simp only [List.forall_mem_cons, List.map_cons, List.nodup_cons, List.forall_mem_append,
        List.mem_map, not_exists, not_and, List.not_mem_nil, false_implies, implies_true, and_true]
      constructor
      · rintro ⟨admitted, fresh, restAdmitted, distinct, restFresh⟩
        exact ⟨⟨admitted, restAdmitted⟩, ⟨fun other member equal =>
          (restFresh other member).2 equal.symm, distinct⟩, fresh,
          fun other member => (restFresh other member).1⟩
      · rintro ⟨⟨admitted, restAdmitted⟩, ⟨own, distinct⟩, fresh, restFresh⟩
        exact ⟨admitted, fresh, restAdmitted, distinct, fun other member =>
          ⟨restFresh other member, fun equal => own other member equal.symm⟩⟩

/-- No field repeats the name of an earlier one exactly if all names differ. -/
theorem repeatedField?_eq_none_iff {earlier fields : List WitnessField} :
    repeatedField? earlier fields = none ↔
      (fields.map WitnessField.name).Nodup ∧
        ∀ prior ∈ earlier, prior.name ∉ fields.map WitnessField.name := by
  induction fields generalizing earlier with
  | nil => simp [repeatedField?]
  | cons field rest inductionHypothesis =>
      have step : repeatedField? earlier (field :: rest) = none ↔
          (∀ prior ∈ earlier, prior.name ≠ field.name) ∧
            repeatedField? (earlier ++ [field]) rest = none := by
        rw [repeatedField?]
        split
        case h_1 prior found =>
          have same : prior.name = field.name := by simpa using List.find?_some found
          simp only [reduceCtorEq, false_iff, not_and]
          exact fun fresh => absurd same (fresh prior (List.mem_of_find?_eq_some found))
        case h_2 fresh => simpa using fun _ => List.find?_eq_none.mp fresh
      rw [step, inductionHypothesis]
      simp only [List.forall_mem_append, List.mem_cons, List.not_mem_nil, or_false, forall_eq,
        List.map_cons, List.nodup_cons, not_or]
      constructor
      · rintro ⟨fresh, distinct, restFresh, own⟩
        exact ⟨⟨own, distinct⟩, fun prior member => ⟨fresh prior member, restFresh prior member⟩⟩
      · rintro ⟨⟨own, distinct⟩, fresh⟩
        exact ⟨fun prior member => (fresh prior member).1, distinct,
          fun prior member => (fresh prior member).2, own⟩

theorem checkFieldNames_eq_ok_iff {fields : List WitnessField} :
    interface.checkFieldNames fields = .ok () ↔ (fields.map WitnessField.name).Nodup := by
  have distinct : repeatedField? [] fields = none ↔ (fields.map WitnessField.name).Nodup := by
    simp [repeatedField?_eq_none_iff]
  rw [← distinct, checkFieldNames]
  split <;> simp_all

/-- The requirements as fields. -/
def functionFields (interface : Interface) : List WitnessField :=
  interface.requirements.map fun requirement =>
    ⟨Text.snakeCase requirement.name,
      .function (requirement.function (SubjectNames.ofInterface interface))⟩

def fields (interface : Interface) : List WitnessField :=
  interface.nestedFields ++ interface.functionFields

theorem mem_fields {field : WitnessField} : field ∈ interface.fields ↔
    (∃ associated ∈ interface.associatedTypes, ∃ constraint,
      associated.constraint = some constraint ∧ field = ⟨Text.snakeCase associated.name,
        .nested constraint (witnessName constraint) associated.name⟩) ∨
    ∃ requirement ∈ interface.requirements, field = ⟨Text.snakeCase requirement.name,
      .function (requirement.function (SubjectNames.ofInterface interface))⟩ := by
  simp only [fields, nestedFields, functionFields, List.mem_append, List.mem_filterMap,
    Option.map_eq_some_iff, List.mem_map, eq_comm (a := field)]

/-- A requirement as a field of the witness. -/
def fieldOf (interface : Interface) (config : Config) (requirement : Requirement) :
    Except GenerateError WitnessField := do
  let function ← interface.functionField config requirement
  pure ⟨Text.snakeCase requirement.name, .function function⟩

theorem fieldOf_def : (fun requirement => do
      let function ← interface.functionField config requirement
      pure (⟨Text.snakeCase requirement.name, .function function⟩ : WitnessField))
    = interface.fieldOf config := rfl

theorem fieldOf_eq_ok_iff {field : WitnessField} :
    interface.fieldOf config requirement = .ok field ↔ ∃ function,
      interface.functionField config requirement = .ok function ∧
        ⟨Text.snakeCase requirement.name, .function function⟩ = field := by
  simp only [fieldOf, bind_eq_ok_iff, pure_eq_ok_iff]

theorem exists_fieldOf_eq_ok_iff : (∃ field, interface.fieldOf config requirement = .ok field) ↔
    ∃ function, interface.functionField config requirement = .ok function := by
  simp only [fieldOf_eq_ok_iff]
  constructor
  · rintro ⟨_, function, emitted, _⟩
    exact ⟨function, emitted⟩
  · rintro ⟨function, emitted⟩
    exact ⟨_, function, emitted, rfl⟩

theorem fieldOf_eq_error_iff {error : GenerateError} :
    interface.fieldOf config requirement = .error error ↔
      interface.functionField config requirement = .error error := by
  simp only [fieldOf, bind_eq_error_iff, pure_ne_error, and_false, exists_false, or_false]

/-- The loop over the requirements gets through if each of them becomes a field,
and it makes their fields. -/
theorem mapM_fieldOf_eq_ok_iff {functions : List WitnessField} :
    interface.requirements.mapM (interface.fieldOf config) = .ok functions ↔
      (∀ requirement ∈ interface.requirements, ∃ function,
        interface.functionField config requirement = .ok function) ∧
      functions = interface.functionFields := by
  have made : ∀ {functions}, interface.requirements.mapM (interface.fieldOf config)
      = .ok functions → functions = interface.functionFields := by
    intro functions ran
    refine eq_map_of_mapM_eq_ok _ ?_ ran
    intro requirement field became
    obtain ⟨function, emitted, rfl⟩ := fieldOf_eq_ok_iff.mp became
    rw [(functionField_eq_ok emitted).2.2]
  simp only [← exists_fieldOf_eq_ok_iff, ← exists_mapM_eq_ok_iff]
  constructor
  · exact fun ran => ⟨⟨functions, ran⟩, made ran⟩
  · rintro ⟨⟨others, ran⟩, rfl⟩
    rw [ran, made ran]

/-- The witness of an interface that passes every check. -/
def witness (interface : Interface) (config : Config) : WitnessSpec :=
  { interface := interface.name
    structName := witnessName interface.name
    access := interface.access
    genericParameters := config.subject :: interface.retainedTypes
    fields := interface.fields
    constructorParameters := interface.fields.map WitnessField.name
    transformKind := interface.transformKind
    options := interface.options }

/-- What emission has checked of the names of an interface. -/
structure Named (interface : Interface) : Prop where
  name : Surface.readsAsName interface.name = true
  associated : ∀ associated ∈ interface.associatedTypes,
    Surface.readsAsName associated.name = true
  constraints : ∀ associated ∈ interface.associatedTypes, ∀ constraint ∈ associated.constraint,
    Surface.readsAsName constraint = true
  requirements : ∀ requirement ∈ interface.requirements,
    Surface.readsAsName requirement.name = true
  functions : ∀ requirement ∈ interface.requirements,
    Surface.readsAsName (Text.snakeCase requirement.name) = true
  distinct : (interface.fields.map WitnessField.name).Nodup

/-- An interface is accepted if its name, its associated types and each of its
requirements are, and the names of its fields differ. -/
theorem emit_eq_ok_iff : interface.emit config = .ok spec ↔
    Surface.readsAsName interface.name = true ∧
    interface.checkAssociatedTypes config [] interface.associatedTypes = .ok () ∧
    (∀ requirement ∈ interface.requirements, ∃ function,
      interface.functionField config requirement = .ok function) ∧
    (interface.fields.map WitnessField.name).Nodup ∧ spec = interface.witness config := by
  simp only [emit, fieldOf_def, refuse_eq_ok_iff, bind_eq_ok_iff, pure_eq_ok_iff,
    mapM_fieldOf_eq_ok_iff, Bool.not_eq_true', Bool.not_eq_false]
  constructor
  · rintro ⟨name, _, associated, _, ⟨required, rfl⟩, _, distinct, rfl⟩
    exact ⟨name, associated, required, checkFieldNames_eq_ok_iff.mp distinct, rfl⟩
  · rintro ⟨name, associated, required, distinct, rfl⟩
    exact ⟨name, (), associated, _, ⟨required, rfl⟩, (),
      checkFieldNames_eq_ok_iff.mpr distinct, rfl⟩

theorem emit_eq_ok (emitted : interface.emit config = .ok spec) :
    interface.Named ∧ spec = interface.witness config := by
  obtain ⟨name, associated, required, distinct, made⟩ := emit_eq_ok_iff.mp emitted
  obtain ⟨admitted, -, -⟩ := checkAssociatedTypes_eq_ok_iff.mp associated
  refine ⟨⟨name, fun _ member => (admitted _ member).name,
    fun _ member => (admitted _ member).constraint, ?_, ?_, distinct⟩, made⟩
  · intro requirement member
    obtain ⟨function, emitted⟩ := required requirement member
    exact (functionField_eq_ok emitted).1
  · intro requirement member
    obtain ⟨function, emitted⟩ := required requirement member
    exact (functionField_eq_ok emitted).2.1

theorem exists_functionField_of_emit (emitted : interface.emit config = .ok spec)
    (member : requirement ∈ interface.requirements) :
    ∃ function, interface.functionField config requirement = .ok function :=
  (emit_eq_ok_iff.mp emitted).2.2.1 requirement member

theorem checkIn_of_emit (emitted : interface.emit config = .ok spec)
    (member : requirement ∈ interface.requirements) {type : TypeExpr}
    (isType : type ∈ requirement.types) : type.checkIn interface config = .ok () := by
  obtain ⟨function, emitted⟩ := exists_functionField_of_emit emitted member
  exact checkIn_of_functionField emitted isType

theorem generics_of_emit (emitted : interface.emit config = .ok spec) {method : Method}
    (member : .method method ∈ interface.requirements) : method.generics = [] := by
  obtain ⟨function, emitted⟩ := exists_functionField_of_emit emitted member
  exact generics_of_functionField emitted

/-- A witness is generated if it is emitted and its fields can be carried over. -/
theorem generate_eq_ok_iff {generated : Generated} :
    interface.generate config = .ok generated ↔
      interface.emit config = .ok (interface.witness config) ∧ ∃ definitions,
        (interface.witness config).transforms interface.name = .ok definitions ∧
        generated = ⟨interface.witness config, definitions, config⟩ := by
  simp only [generate, bind_eq_ok_iff, pure_eq_ok_iff]
  constructor
  · rintro ⟨spec, emitted, definitions, routed, rfl⟩
    obtain ⟨_, rfl⟩ := emit_eq_ok emitted
    exact ⟨emitted, definitions, routed, rfl⟩
  · rintro ⟨emitted, definitions, routed, rfl⟩
    exact ⟨_, emitted, definitions, routed, rfl⟩

theorem generate_eq_ok {generated : Generated}
    (ok : interface.generate config = .ok generated) :
    interface.Named ∧ ∃ definitions,
      (interface.witness config).transforms interface.name = .ok definitions ∧
      generated = ⟨interface.witness config, definitions, config⟩ := by
  obtain ⟨emitted, generates⟩ := generate_eq_ok_iff.mp ok
  exact ⟨(emit_eq_ok emitted).1, generates⟩

end Interface

end InterfaceWitness
