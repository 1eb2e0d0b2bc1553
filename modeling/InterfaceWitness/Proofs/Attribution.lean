import InterfaceWitness.Proofs.Refusal

/-!
Errors are told of what they are about.  They name the interface, and a
requirement of it if any; and a requirement that is refused on its own is
refused in the same words wherever it stands, unless an earlier one is refused.
-/

namespace InterfaceWitness

/-- An error that says that two fields have one name. -/
def GenerateError.IsClash (error : GenerateError) : Prop :=
  ∃ interface requirement name nested,
    error = .malformed interface requirement (.fieldTwice name nested)

theorem TypeExpr.checkIn_ne_fieldTwice {type : TypeExpr} {interface : Interface} {config : Config}
    {name : String} {nested : Option String} :
    type.checkIn interface config ≠ .error (.fieldTwice name nested) := by
  unfold checkIn
  cases type.check with
  | error fault => simp [bind_eq_error_iff]
  | ok passed =>
      cases type.unknownProjection? interface with
      | some unknown => simp [bind_eq_error_iff]
      | none => cases type.shadowed? config <;> simp

namespace Interface

variable {interface : Interface} {config : Config} {requirement : Requirement}
  {error : GenerateError}

/-- An interface with one requirement alone. -/
def only (interface : Interface) (requirement : Requirement) : Interface :=
  { interface with requirements := [requirement] }

/-- Whether a requirement is refused by itself, and not for the name of its field. -/
def FailsAlone (interface : Interface) (config : Config) (requirement : Requirement) : Prop :=
  ∃ error, (interface.only requirement).emit config = .error error ∧ ¬error.IsClash

/-- Other requirements play no part in what becomes of a requirement. -/
theorem functionField_only (other : Requirement) :
    (interface.only other).functionField config requirement
      = interface.functionField config requirement := rfl

theorem not_isClash_of_functionField
    (failed : interface.functionField config requirement = .error error) : ¬error.IsClash := by
  rintro ⟨_, _, name, nested, rfl⟩
  rcases functionField_eq_error failed with ⟨fault, reason, equal⟩ | ⟨_, _, equal⟩
  · obtain ⟨-, -, rfl⟩ := GenerateError.malformed.inj equal
    rcases reason with unfit | ⟨type, _, refused⟩
    · cases unfit
    · exact TypeExpr.checkIn_ne_fieldTwice refused
  · cases equal

theorem isClash_of_checkFieldNames {fields : List WitnessField}
    (failed : interface.checkFieldNames fields = .error error) : error.IsClash := by
  unfold checkFieldNames at failed
  split at failed
  case h_1 => cases failed
  case h_2 => exact ⟨_, _, _, _, (Except.error.inj failed).symm⟩

/-- What has been checked of an interface before its requirements. -/
structure Begins (interface : Interface) (config : Config) : Prop where
  name : Surface.readsAsName interface.name = true
  associatedTypes :
    interface.checkAssociatedTypes config [] interface.associatedTypes = .ok ()

theorem Begins.only (begins : interface.Begins config) (requirement : Requirement) :
    (interface.only requirement).Begins config :=
  ⟨begins.name,
    checkAssociatedTypes_eq_ok_iff.mpr (checkAssociatedTypes_eq_ok_iff.mp begins.associatedTypes)⟩

/-- After its name and its associated types, an interface is refused for the
first requirement that becomes no field, or for a clash. -/
theorem Begins.emit_eq_error_iff (begins : interface.Begins config) :
    interface.emit config = .error error ↔
      (∃ before requirement after, interface.requirements = before ++ requirement :: after ∧
        (∀ earlier ∈ before, ∃ function, interface.functionField config earlier = .ok function) ∧
        interface.functionField config requirement = .error error) ∨
      (∀ requirement ∈ interface.requirements, ∃ function,
        interface.functionField config requirement = .ok function) ∧
        interface.checkFieldNames interface.fields = .error error := by
  simp [Interface.emit_eq_error_iff, begins.name, begins.associatedTypes]

theorem Begins.emit_only_eq_error_iff (begins : interface.Begins config) :
    (interface.only requirement).emit config = .error error ∧ ¬error.IsClash ↔
      interface.functionField config requirement = .error error := by
  rw [(begins.only requirement).emit_eq_error_iff]
  constructor
  · rintro ⟨⟨before, other, after, equal, _, failed⟩ | ⟨_, clash⟩, own⟩
    · have isOnly : other ∈ [requirement] := by
        rw [show [requirement] = before ++ other :: after from equal]
        exact List.mem_append_right _ (List.mem_cons_self ..)
      obtain rfl := List.mem_singleton.mp isOnly
      rwa [functionField_only] at failed
    · exact absurd (isClash_of_checkFieldNames clash) own
  · intro failed
    exact ⟨.inl ⟨[], requirement, [], rfl, by simp, (functionField_only requirement).trans failed⟩,
      not_isClash_of_functionField failed⟩

theorem Begins.not_failsAlone_iff (begins : interface.Begins config) :
    ¬interface.FailsAlone config requirement ↔
      ∃ function, interface.functionField config requirement = .ok function := by
  simp only [FailsAlone, begins.emit_only_eq_error_iff]
  cases interface.functionField config requirement <;> simp

/-- What the errors of an interface are about. -/
structure Attributes (interface : Interface) (config : Config) : Prop where
  namesInterface : ∀ error, interface.generate config = .error error →
    error.interface? = some interface.name
  namesRequirement : ∀ error, interface.generate config = .error error →
    ∀ name ∈ error.requirement?, ∃ requirement ∈ interface.requirements, requirement.name = name
  /-- The first requirement that is refused by itself decides, whatever else the
  interface requires. -/
  firstRefused : interface.Begins config →
    (∃ requirement ∈ interface.requirements, interface.FailsAlone config requirement) →
    ∃ before requirement after error, interface.requirements = before ++ requirement :: after ∧
      (∀ earlier ∈ before, ¬interface.FailsAlone config earlier) ∧
      ((interface.only requirement).emit config = .error error ∧ ¬error.IsClash) ∧
      interface.emit config = .error error
  /-- Where there is none, only two fields of one name are refused. -/
  noneRefused : interface.Begins config →
    (∀ requirement ∈ interface.requirements, ¬interface.FailsAlone config requirement) →
    ∀ error, interface.emit config = .error error → error.IsClash

theorem attributes_errors (interface : Interface) (config : Config) :
    interface.Attributes config where
  namesInterface error failed := by
    cases blames_of_generate failed <;> rfl
  namesRequirement error failed name named := by
    cases blames_of_generate failed with
    | whole => cases named
    | requirement member => exact ⟨_, member, Option.some.inj named⟩
    | unsupported member => exact ⟨_, member, Option.some.inj named⟩
  firstRefused begins failing := by
    have unmade : ∃ requirement ∈ interface.requirements,
        ¬∃ function, interface.functionField config requirement = .ok function := by
      simpa only [← begins.not_failsAlone_iff, not_not] using failing
    obtain ⟨before, requirement, after, error, equal, made, failed⟩ := exists_first_failing unmade
    have sound : ∀ earlier ∈ before, ¬interface.FailsAlone config earlier :=
      fun earlier member => begins.not_failsAlone_iff.mpr (made earlier member)
    exact ⟨before, requirement, after, error, equal, sound,
      begins.emit_only_eq_error_iff.mpr failed,
      begins.emit_eq_error_iff.mpr (.inl ⟨before, requirement, after, equal, made, failed⟩)⟩
  noneRefused begins sound error failed := by
    rcases begins.emit_eq_error_iff.mp failed with
      ⟨before, requirement, after, equal, _, refused⟩ | ⟨_, clash⟩
    · have member : requirement ∈ interface.requirements := by simp [equal]
      obtain ⟨function, became⟩ := begins.not_failsAlone_iff.mp (sound requirement member)
      rw [became] at refused
      cases refused
    · exact isClash_of_checkFieldNames clash

/-- Two fields of a spool have one name, and two other requirements are refused. -/
theorem attributes_errors_spool :
    let generic : Method := ⟨"drain", [], .owned, ["T"], none⟩
    let spool : Interface :=
      { name := "Spool"
        access := .exported
        requirements := [.property ⟨"thread", .identifier "u8", false, false⟩, .method generic,
          .property ⟨"length", .identifier "Self::Metre", true, false⟩]
        associatedTypes := [⟨"Thread", some "Fibre"⟩]
        options := {} }
    spool.Begins {} ∧ (∃ requirement ∈ spool.requirements, spool.FailsAlone {} requirement) ∧
      (∃ before requirement after error, spool.requirements = before ++ requirement :: after ∧
        (∀ earlier ∈ before, ¬spool.FailsAlone {} earlier) ∧
        ((spool.only requirement).emit {} = .error error ∧ ¬error.IsClash) ∧
        spool.emit {} = .error error) ∧
      spool.emit {} = .error (.unsupported "Spool" "drain" (.ownGenerics ["T"])) := by
  intro generic spool
  have begins : spool.Begins {} := ⟨by decide +kernel, by decide +kernel⟩
  have alone : (spool.only (.method generic)).emit {}
      = .error (.unsupported "Spool" "drain" (.ownGenerics ["T"])) := by decide +kernel
  have failing : ∃ requirement ∈ spool.requirements, spool.FailsAlone {} requirement :=
    ⟨.method generic, by simp [spool], _, alone, by simp [GenerateError.IsClash]⟩
  exact ⟨begins, failing, (attributes_errors spool {}).firstRefused begins failing,
    by decide +kernel⟩

end Interface

end InterfaceWitness
