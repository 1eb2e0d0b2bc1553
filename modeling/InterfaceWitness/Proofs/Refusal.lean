import InterfaceWitness.Proofs.Emission
import InterfaceWitness.Proofs.Transform.Directions

/-!
Why no witness is generated for an interface: the error names the interface,
and a requirement of the interface if it names any.
-/

namespace InterfaceWitness

/-- An error that lays the blame on an interface itself or on one of its
requirements, whatever other interfaces there are. -/
inductive Interface.Blames (interface : Interface) : GenerateError → Prop where
  | whole {fault : InterfaceFault} (own : fault ≠ .declaredTwice) :
      Blames interface (.malformed interface.name none fault)
  | requirement {requirement : Requirement} {fault : InterfaceFault}
      (member : requirement ∈ interface.requirements) :
      Blames interface (.malformed interface.name (some requirement.name) fault)
  | unsupported {requirement : Requirement} {fault : RequirementFault}
      (member : requirement ∈ interface.requirements) :
      Blames interface (.unsupported interface.name requirement.name fault)

namespace Interface

variable {interface : Interface} {config : Config} {requirement : Requirement}
  {error : GenerateError}

theorem Blames.ne_declaredTwice (blames : interface.Blames error) :
    error ≠ .malformed interface.name none .declaredTwice := by
  rintro rfl
  cases blames with
  | whole own => exact own rfl

theorem checkAssociatedTypes_eq_error {earlier associatedTypes : List AssociatedType}
    (failed : interface.checkAssociatedTypes config earlier associatedTypes = .error error) :
    ∃ fault, fault ≠ .declaredTwice ∧ error = .malformed interface.name none fault := by
  induction associatedTypes generalizing earlier with
  | nil => simp [checkAssociatedTypes] at failed
  | cons associated rest inductionHypothesis =>
      simp only [checkAssociatedTypes, refuse_eq_error_iff] at failed
      rcases failed with ⟨_, rfl⟩ | ⟨_, ⟨_, rfl⟩ | ⟨_, ⟨_, rfl⟩ | ⟨_, failed⟩⟩⟩
      · exact ⟨_, by simp, rfl⟩
      · exact ⟨_, by simp, rfl⟩
      · exact ⟨_, by simp, rfl⟩
      · split at failed
        case h_1 constraint _ =>
          simp only [refuse_eq_error_iff] at failed
          rcases failed with ⟨_, rfl⟩ | ⟨_, failed⟩
          · exact ⟨_, by simp, rfl⟩
          · exact inductionHypothesis failed
        case h_2 => exact inductionHypothesis failed

/-- Why a requirement becomes no field: its name or one of its types is at
fault, or it has a shape that no field can hold, as a constant of a value does. -/
theorem functionField_eq_error
    (failed : interface.functionField config requirement = .error error) :
    (∃ fault, (fault = .requirementName ∨ ∃ type ∈ requirement.types,
        type.checkIn interface config = .error fault) ∧
      error = .malformed interface.name (some requirement.name) fault) ∨
    ∃ fault, (fault = .instanceConstant →
        ∃ declared, requirement = .property declared ∧ declared.isStatic = false) ∧
      error = .unsupported interface.name requirement.name fault := by
  unfold functionField at failed
  cases requirement with
  | property declared =>
      simp only [refuse_eq_error_iff, bind_eq_error_iff, pure_ne_error, and_false, or_false]
        at failed
      rcases failed with ⟨_, rfl⟩ | ⟨_, refused | ⟨_, _, constant, rfl⟩⟩
      · exact .inl ⟨_, .inl rfl, rfl⟩
      · split at refused
        case h_1 => cases refused
        case h_2 fault checked =>
          obtain rfl := Except.error.inj refused
          exact .inl ⟨fault, .inr ⟨_, List.mem_singleton_self _, checked⟩, rfl⟩
      · have ofValue : declared.isStatic = false := by
          simpa using (Bool.and_eq_true_iff.mp constant).2
        exact .inr ⟨_, fun _ => ⟨declared, rfl, ofValue⟩, rfl⟩
  | method declared =>
      simp only [refuse_eq_error_iff, bind_eq_error_iff] at failed
      rcases failed with ⟨_, rfl⟩ | ⟨_, ⟨_, rfl⟩ | ⟨_, looped | ⟨parameters, _, made⟩⟩⟩
      · exact .inl ⟨_, .inl rfl, rfl⟩
      · exact .inr ⟨.ownGenerics _, by simp, rfl⟩
      · obtain ⟨before, parameter, after, equal, _, stepped⟩ := mapM_eq_error_iff.mp looped
        simp only [bind_eq_error_iff, pure_ne_error, and_false, exists_false, or_false] at stepped
        split at stepped
        case h_1 => cases stepped
        case h_2 fault checked =>
          obtain rfl := Except.error.inj stepped
          have member : parameter ∈ declared.parameters := by simp [equal]
          exact .inl ⟨fault, .inr ⟨parameter.type,
            List.mem_append_left _ (List.mem_map_of_mem member), checked⟩, rfl⟩
      · split at made
        case h_1 output isOutput =>
          simp only [bind_eq_error_iff, pure_ne_error, and_false, exists_false, or_false] at made
          split at made
          case h_1 => cases made
          case h_2 fault checked =>
            obtain rfl := Except.error.inj made
            exact .inl ⟨fault, .inr ⟨output,
              List.mem_append_right _ (by simp [isOutput]), checked⟩, rfl⟩
        case h_2 => simp at made

/-- A requirement that becomes no field is named by the error. -/
theorem blames_of_functionField (member : requirement ∈ interface.requirements)
    (failed : interface.functionField config requirement = .error error) :
    interface.Blames error := by
  rcases functionField_eq_error failed with ⟨fault, _, rfl⟩ | ⟨fault, _, rfl⟩
  · exact .requirement member
  · exact .unsupported member

theorem repeatedField?_mem {earlier fields : List WitnessField} {prior field : WitnessField}
    (found : repeatedField? earlier fields = some (prior, field)) : field ∈ fields := by
  induction fields generalizing earlier with
  | nil => simp [repeatedField?] at found
  | cons first rest inductionHypothesis =>
      unfold repeatedField? at found
      split at found
      case h_1 =>
        obtain ⟨_, rfl⟩ := Prod.mk.inj (Option.some.inj found)
        exact List.mem_cons_self ..
      case h_2 => exact List.mem_cons_of_mem _ (inductionHypothesis found)

theorem blames_of_checkFieldNames
    (failed : interface.checkFieldNames interface.fields = .error error) :
    interface.Blames error := by
  unfold checkFieldNames at failed
  split at failed
  case h_1 => simp at failed
  case h_2 prior field found =>
    obtain rfl := Except.error.inj failed
    rcases mem_fields.mp (repeatedField?_mem found) with
      ⟨associated, _, constraint, _, rfl⟩ | ⟨requirement, member, rfl⟩
    · exact .whole (by simp)
    · exact .requirement member

/-- An interface is refused for its name, its associated types, the first of its
requirements that becomes no field, or a name that two of its fields have. -/
theorem emit_eq_error_iff : interface.emit config = .error error ↔
    (Surface.readsAsName interface.name = false ∧
      error = .malformed interface.name none .interfaceName) ∨
    (Surface.readsAsName interface.name = true ∧
      (interface.checkAssociatedTypes config [] interface.associatedTypes = .error error ∨
      interface.checkAssociatedTypes config [] interface.associatedTypes = .ok () ∧
        ((∃ before requirement after,
          interface.requirements = before ++ requirement :: after ∧
          (∀ earlier ∈ before, ∃ function,
            interface.functionField config earlier = .ok function) ∧
          interface.functionField config requirement = .error error) ∨
        (∀ requirement ∈ interface.requirements, ∃ function,
          interface.functionField config requirement = .ok function) ∧
          interface.checkFieldNames interface.fields = .error error))) := by
  simp only [emit, fieldOf_def, refuse_eq_error_iff, bind_eq_error_iff, pure_ne_error, and_false,
    exists_false, or_false, mapM_eq_error_iff, mapM_fieldOf_eq_ok_iff, exists_fieldOf_eq_ok_iff,
    fieldOf_eq_error_iff, Bool.not_eq_true', Bool.not_eq_false, eq_comm (b := error)]
  constructor
  · rintro (unnamed | ⟨name, associated | ⟨_, associated, first | ⟨_, ⟨required, rfl⟩, clash⟩⟩⟩)
    · exact .inl unnamed
    · exact .inr ⟨name, .inl associated⟩
    · exact .inr ⟨name, .inr ⟨associated, .inl first⟩⟩
    · exact .inr ⟨name, .inr ⟨associated, .inr ⟨required, clash⟩⟩⟩
  · rintro (unnamed | ⟨name, associated | ⟨associated, first | ⟨required, clash⟩⟩⟩)
    · exact .inl unnamed
    · exact .inr ⟨name, .inl associated⟩
    · exact .inr ⟨name, .inr ⟨(), associated, .inl first⟩⟩
    · exact .inr ⟨name, .inr ⟨(), associated, .inr ⟨_, ⟨required, rfl⟩, clash⟩⟩⟩

theorem blames_of_emit (failed : interface.emit config = .error error) :
    interface.Blames error := by
  rcases emit_eq_error_iff.mp failed with
    ⟨_, rfl⟩ | ⟨_, associated | ⟨_, ⟨before, requirement, after, equal, _, stepped⟩ | clash⟩⟩
  · exact .whole (by simp)
  · obtain ⟨fault, own, rfl⟩ := checkAssociatedTypes_eq_error associated
    exact .whole own
  · have member : requirement ∈ interface.requirements := by simp [equal]
    exact blames_of_functionField member stepped
  · exact blames_of_checkFieldNames clash.2

/-- Only a property that is read from a value is refused as a constant. -/
theorem exists_property_of_emit {owner name : String}
    (refused : interface.emit config = .error (.unsupported owner name .instanceConstant)) :
    ∃ declared, .property declared ∈ interface.requirements ∧ declared.isStatic = false := by
  rcases emit_eq_error_iff.mp refused with
    ⟨_, equal⟩ | ⟨_, associated | ⟨_, ⟨before, requirement, after, equal, _, failed⟩ | clash⟩⟩
  · cases equal
  · obtain ⟨_, _, equal⟩ := checkAssociatedTypes_eq_error associated
    cases equal
  · have member : requirement ∈ interface.requirements := by simp [equal]
    rcases functionField_eq_error failed with ⟨_, _, equal⟩ | ⟨_, constant, equal⟩
    · cases equal
    · obtain ⟨declared, rfl, ofValue⟩ := constant (GenerateError.unsupported.inj equal).2.2.symm
      exact ⟨declared, member, ofValue⟩
  · have clash := clash.2
    unfold checkFieldNames at clash
    split at clash
    case h_1 => cases clash
    case h_2 => cases clash

theorem blames_of_transforms
    (failed : (interface.witness config).transforms interface.name = .error error) :
    interface.Blames error := by
  obtain ⟨_, before, field, after, equal, _, unrouted⟩ :=
    WitnessSpec.transforms_eq_error_iff.mp failed
  obtain ⟨function, type, isFunction, _, rfl⟩ := WitnessField.route_eq_error unrouted
  have member : field ∈ interface.fields := by
    have inWitness : field ∈ (interface.witness config).fields := by
      rw [equal]
      exact List.mem_append_right _ (List.mem_cons_self ..)
    exact inWitness
  rcases mem_fields.mp member with
    ⟨associated, _, constraint, _, rfl⟩ | ⟨requirement, required, rfl⟩
  · simp at isFunction
  · obtain rfl := FieldKind.function.inj isFunction
    exact .unsupported required

/-- Whatever generation refuses an interface for is told of that interface. -/
theorem blames_of_generate (failed : interface.generate config = .error error) :
    interface.Blames error := by
  simp only [generate, bind_eq_error_iff, pure_ne_error, and_false, exists_false, or_false]
    at failed
  rcases failed with refused | ⟨spec, emitted, unrouted⟩
  · exact blames_of_emit refused
  · obtain ⟨_, rfl⟩ := emit_eq_ok emitted
    exact blames_of_transforms unrouted

end Interface

end InterfaceWitness
