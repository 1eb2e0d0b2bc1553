import InterfaceWitness.Proofs.Code.Methods
import InterfaceWitness.Proofs.Printing
import InterfaceWitness.Proofs.Subject
import InterfaceWitness.Proofs.Text.SnakeCase

/-!
What a witness holds: everything that its interface declares, once each, under
names that do not clash.
-/

namespace InterfaceWitness

open Code

variable {interface : Interface} {config : Config} {spec : WitnessSpec}
  {associated : AssociatedType} {earlier associatedTypes : List AssociatedType}

theorem Config.subject_ne_target (valid : config.validate = .ok ()) :
    config.subject ≠ config.target :=
  (validate_eq_ok_iff.mp valid).2.2.1

namespace Interface

/-- The associated types that are accepted after some others have names of
their own, which are not those of the generated parameters. -/
theorem apart_of_checkAssociatedTypes
    (checked : interface.checkAssociatedTypes config earlier associatedTypes = .ok ()) :
    (associatedTypes.map AssociatedType.name).Nodup ∧
      (∀ associated ∈ associatedTypes, ∀ prior ∈ earlier, prior.name ≠ associated.name) ∧
      ∀ associated ∈ associatedTypes,
        associated.name ≠ config.subject ∧ associated.name ≠ config.target := by
  obtain ⟨admitted, distinct, fresh⟩ := checkAssociatedTypes_eq_ok_iff.mp checked
  exact ⟨distinct, fresh, fun associated declared => (admitted associated declared).apart⟩

theorem checkAssociatedTypes_of_emit (emitted : interface.emit config = .ok spec) :
    interface.checkAssociatedTypes config [] interface.associatedTypes = .ok () :=
  (emit_eq_ok_iff.mp emitted).2.1

/-- Whether some type of a requirement has an associated type in it, by its
name or as a projection from the subject. -/
def Mentions (interface : Interface) (associated : AssociatedType) : Prop :=
  ∃ requirement ∈ interface.requirements, ∃ type ∈ requirement.types, ∃ node ∈ type.nodes,
    node.name = associated.name ∨ node.name = selfType ++ "::" ++ associated.name

instance (interface : Interface) (associated : AssociatedType) :
    Decidable (interface.Mentions associated) :=
  inferInstanceAs (Decidable (∃ requirement ∈ interface.requirements, ∃ type ∈ requirement.types,
    ∃ node ∈ type.nodes,
      node.name = associated.name ∨ node.name = selfType ++ "::" ++ associated.name))

theorem mentions_iff (named : interface.Named) (declared : associated ∈ interface.associatedTypes) :
    interface.Mentions associated ↔ ∃ requirement ∈ interface.requirements,
      ∃ type ∈ requirement.types, associated.name ∈ type.subjects
        (Std.TreeSet.ofList (interface.associatedTypes.map AssociatedType.name)) := by
  have isName := List.mem_map_of_mem (f := AssociatedType.name) declared
  have notSelf := ne_selfType_of_mem_associatedTypes named isName
  have apart := named.apart.of_subset (List.subset_cons_self ..)
  simp only [Mentions, TypeExpr.mem_subjects_iff, SubjectNames.resolve?_ofList_eq_some_iff apart,
    isName, true_and, namesSubject_iff, ne_eq, notSelf, not_false_eq_true]

/-- The parameters of a witness are its associated types but for those that no
field needs. -/
theorem retainedTypes_eq (named : interface.Named) : interface.retainedTypes
    = (interface.associatedTypes.filter fun associated =>
        associated.constraint.isSome ∨ interface.Mentions associated).map AssociatedType.name := by
  unfold retainedTypes
  refine congrArg (List.map AssociatedType.name) (List.filter_congr fun associated declared => ?_)
  rw [Bool.eq_iff_iff]
  simp only [Bool.or_eq_true, Std.TreeSet.contains_ofList, List.contains_eq_mem, decide_eq_true_eq,
    List.mem_flatMap, Std.TreeSet.mem_toList, mentions_iff named declared]

/-- What a witness holds. -/
structure Contents (interface : Interface) (config : Config) (spec : WitnessSpec) : Prop where
  fields : spec.fields
    = (interface.associatedTypes.filterMap fun associated =>
        associated.constraint.map fun constraint =>
          ⟨Text.snakeCase associated.name,
            .nested constraint (witnessName constraint) associated.name⟩)
      ++ interface.requirements.map fun requirement =>
        ⟨Text.snakeCase requirement.name,
          .function (requirement.function (SubjectNames.ofInterface interface))⟩
  constructorParameters : spec.constructorParameters = spec.fields.map WitnessField.name
  fieldsDistinct : (spec.fields.map WitnessField.name).Nodup
  noMarker : "_marker" ∉ spec.fields.map WitnessField.name
  genericParameters : spec.genericParameters = config.subject ::
    (interface.associatedTypes.filter fun associated =>
      associated.constraint.isSome ∨ interface.Mentions associated).map AssociatedType.name
  parametersDistinct : spec.genericParameters.Nodup
  noTarget : config.target ∉ spec.genericParameters
  /-- Where the witness is printed, the functions of its type differ in name. -/
  functionsDistinct : ∀ definitions output, spec.transforms interface.name = .ok definitions →
    Generated.tokens? ⟨spec, definitions, config⟩ = some output →
    let code := WitnessCode.ofSpec spec definitions config
    output = code.definitionTokens ++ code.cloneTokens
        ++ code.inherent.flatMap InherentImplementation.tokens ∧
      code.declaredNames = code.methodNames ∧ code.declaredNames.Nodup

/-- A witness holds all that its interface declares. -/
theorem contents_of_emit (valid : config.validate = .ok ())
    (emitted : interface.emit config = .ok spec) : interface.Contents config spec := by
  obtain ⟨named, rfl⟩ := emit_eq_ok emitted
  obtain ⟨distinct, _, apart⟩ :=
    apart_of_checkAssociatedTypes (checkAssociatedTypes_of_emit emitted)
  have kept : interface.retainedTypes.Sublist
      (interface.associatedTypes.map AssociatedType.name) := List.filter_sublist.map _
  have fromDeclared : ∀ name ∈ interface.retainedTypes, name ≠ config.subject ∧
      name ≠ config.target := by
    intro name retained
    obtain ⟨associated, declared, rfl⟩ := exists_of_mem_retainedTypes retained
    exact apart associated declared
  refine
    { fields := rfl
      constructorParameters := rfl
      fieldsDistinct := named.distinct
      noMarker := ?_
      genericParameters := congrArg (config.subject :: ·) (retainedTypes_eq named)
      parametersDistinct := ?_
      noTarget := ?_
      functionsDistinct := ?_ }
  · intro marked
    obtain ⟨field, member, marker⟩ := List.mem_map.mp marked
    obtain ⟨source, spelled⟩ : ∃ source, field.name = Text.snakeCase source := by
      rcases mem_fields.mp member with ⟨associated, _, _, _, rfl⟩ | ⟨requirement, _, rfl⟩
      · exact ⟨associated.name, rfl⟩
      · exact ⟨requirement.name, rfl⟩
    apply Text.head?_snakeCase source
    rw [← spelled, marker]
    decide
  · exact List.nodup_cons.mpr
      ⟨fun isSubject => (fromDeclared _ isSubject).1 rfl, distinct.sublist kept⟩
  · intro isTarget
    rcases List.mem_cons.mp isTarget with isSubject | retained
    · exact Config.subject_ne_target valid isSubject.symm
    · exact (fromDeclared _ retained).2 rfl
  · intro definitions output routed printed code
    refine ⟨?_, code.declaredNames_eq, ?_⟩
    · obtain ⟨_, shown⟩ := Option.ite_none_right_eq_some.mp printed
      rw [← code.tokens_eq]
      exact (Option.some.inj shown).symm
    · rw [code.declaredNames_eq]
      exact nodup_methodNames named.distinct routed config

theorem contents_of_emit_grading :
    let grading : Interface :=
      { name := "Grading"
        access := .exported
        requirements := [.method
            { name := "combineMarks"
              parameters := [⟨"other", .identifier "Self", .owned⟩]
              receiver := .borrowed
              generics := []
              output := some (.identifier "Self") },
          .property ⟨"scale", .generic "Vec" [.identifier "Self::Mark"], true, false⟩]
        associatedTypes := [⟨"Mark", none⟩, ⟨"Unused", none⟩, ⟨"Rule", some "Ruling"⟩]
        options := { utilities := true, conformance := true } }
    Config.validate {} = .ok () ∧ grading.emit {} = .ok (grading.witness {}) ∧
      (grading.witness {}).genericParameters = ["A", "Mark", "Rule"] ∧
      (∃ definitions, (grading.witness {}).transforms grading.name = .ok definitions ∧
        (Generated.tokens? ⟨grading.witness {}, definitions, {}⟩).isSome = true) ∧
      grading.Contents {} (grading.witness {}) := by
  intro grading
  have valid : Config.validate {} = .ok () := by decide +kernel
  have emitted : grading.emit {} = .ok (grading.witness {}) := by decide +kernel
  refine ⟨valid, emitted, by decide +kernel, ⟨?definitions, ?routed, ?printed⟩,
    contents_of_emit valid emitted⟩
  case definitions =>
    exact [(grading.witness {}).transformOf
      [⟨"rule", .nested⟩, ⟨"combine_marks", .rebuild [.pullBack, .pullBack] .map⟩,
        ⟨"scale", .forward⟩]]
  all_goals decide +kernel

end Interface

end InterfaceWitness
