import InterfaceWitness.Proofs.Contents
import InterfaceWitness.Proofs.Transform.Positions
import Mathlib.Data.List.Perm.Basic

/-!
The order of declarations decides nothing but the order of what is generated.
-/

namespace InterfaceWitness

namespace SubjectNames

variable {left right : SubjectNames}

/-- Subjects are tried in ascending order, however they have been collected. -/
theorem resolve?_congr (same : left.Equiv right) (name : String) :
    left.resolve? name = right.resolve? name := by
  rw [resolve?, resolve?, same.toList_eq]

end SubjectNames

section Analysis

variable {left right : SubjectNames}

theorem TypeExpr.subjects_congr (same : left.Equiv right) (type : TypeExpr) :
    type.subjects left = type.subjects right := by
  simp only [subjects, SubjectNames.resolve?_congr same]

theorem Requirement.occurrence_congr (same : left.Equiv right) (requirement : Requirement) :
    requirement.occurrence left = requirement.occurrence right := by
  have extended (generics : List String) :
      (left.extend generics).Equiv (right.extend generics) := same.insertMany_list generics
  have inputs : requirement.inputSubjects left = requirement.inputSubjects right := by
    cases requirement with
    | method declared =>
        simp only [inputSubjects, TypeExpr.subjects_congr (extended declared.generics)]
    | property => rfl
  have outputs : requirement.outputSubjects left = requirement.outputSubjects right := by
    cases requirement with
    | method declared =>
        simp only [outputSubjects, TypeExpr.subjects_congr (extended declared.generics)]
    | property => simp only [outputSubjects, TypeExpr.subjects_congr same]
  rw [occurrence, occurrence, inputs, outputs]

theorem Requirement.function_congr (same : left.Equiv right) (requirement : Requirement) :
    requirement.function left = requirement.function right := by
  simp only [function, variance, occurrence_congr same]

end Analysis

theorem TransformKind.ofVariances_congr {left right : List Variance} (permuted : left.Perm right) :
    ofVariances left = ofVariances right := by
  simp only [ofVariances, permuted.mem_iff]

namespace Interface

/-- Interfaces that differ in the order of their declarations at most. -/
structure Reordered (left right : Interface) : Prop where
  name : left.name = right.name
  access : left.access = right.access
  options : left.options = right.options
  requirements : left.requirements.Perm right.requirements
  associatedTypes : left.associatedTypes.Perm right.associatedTypes

namespace Reordered

variable {left right : Interface} {config : Config}

theorem symm (reordered : left.Reordered right) : right.Reordered left where
  name := reordered.name.symm
  access := reordered.access.symm
  options := reordered.options.symm
  requirements := reordered.requirements.symm
  associatedTypes := reordered.associatedTypes.symm

theorem ofInterface (reordered : left.Reordered right) :
    (SubjectNames.ofInterface left).Equiv (SubjectNames.ofInterface right) := by
  apply Std.TreeSet.Equiv.of_forall_mem_iff
  simp [SubjectNames.ofInterface, reordered.associatedTypes.mem_iff]

theorem isNone_associatedType? (reordered : left.Reordered right) (name : String) :
    (left.associatedType? name).isNone = (right.associatedType? name).isNone := by
  rw [Bool.eq_iff_iff]
  simp [associatedType?, reordered.associatedTypes.mem_iff]

theorem checkIn (reordered : left.Reordered right) (type : TypeExpr) :
    type.checkIn left config = type.checkIn right config := by
  simp only [TypeExpr.checkIn, TypeExpr.unknownProjection?, reordered.isNone_associatedType?]

/-- A requirement becomes the same field, or is refused in the same words. -/
theorem functionField (reordered : left.Reordered right) (requirement : Requirement) :
    left.functionField config requirement = right.functionField config requirement := by
  have variance : requirement.variance (SubjectNames.ofInterface left)
      = requirement.variance (SubjectNames.ofInterface right) := by
    simp only [Requirement.variance, Requirement.occurrence_congr reordered.ofInterface]
  simp only [Interface.functionField, reordered.checkIn, reordered.name, variance]

theorem fields (reordered : left.Reordered right) : left.fields.Perm right.fields := by
  refine (reordered.associatedTypes.filterMap _).append ?_
  simp only [functionFields, Requirement.function_congr reordered.ofInterface]
  exact reordered.requirements.map _

theorem transformKind (reordered : left.Reordered right) :
    left.transformKind = right.transformKind := by
  apply TransformKind.ofVariances_congr
  simp only [Requirement.occurrence_congr reordered.ofInterface]
  exact reordered.requirements.filterMap _

theorem retainedTypes (reordered : left.Reordered right) (named : left.Named)
    (renamed : right.Named) : left.retainedTypes.Perm right.retainedTypes := by
  have mentions (associated : AssociatedType) :
      left.Mentions associated ↔ right.Mentions associated := by
    simp only [Mentions, reordered.requirements.mem_iff]
  rw [retainedTypes_eq named, retainedTypes_eq renamed]
  simp only [mentions]
  exact (reordered.associatedTypes.filter _).map _

theorem checkAssociatedTypes (reordered : left.Reordered right)
    (checked : left.checkAssociatedTypes config [] left.associatedTypes = .ok ()) :
    right.checkAssociatedTypes config [] right.associatedTypes = .ok () := by
  obtain ⟨admitted, distinct, -⟩ := checkAssociatedTypes_eq_ok_iff.mp checked
  refine checkAssociatedTypes_eq_ok_iff.mpr ⟨fun associated declared => ?_, ?_, by simp⟩
  · exact admitted associated (reordered.associatedTypes.mem_iff.mpr declared)
  · exact (reordered.associatedTypes.map _).nodup_iff.mp distinct

theorem emit (reordered : left.Reordered right)
    (emitted : left.emit config = .ok (left.witness config)) :
    right.emit config = .ok (right.witness config) := by
  obtain ⟨name, associated, required, distinct, -⟩ := emit_eq_ok_iff.mp emitted
  refine emit_eq_ok_iff.mpr ⟨reordered.name ▸ name, reordered.checkAssociatedTypes associated,
    fun requirement member => ?_, (reordered.fields.map _).nodup_iff.mp distinct, rfl⟩
  rw [← reordered.functionField]
  exact required requirement (reordered.requirements.mem_iff.mpr member)

end Reordered

end Interface

/-- Transformers that treat every field alike. -/
structure TransformDef.Alike (left right : TransformDef) : Prop where
  kind : left.kind = right.kind
  promotedFrom : left.promotedFrom = right.promotedFrom
  clonesTarget : left.clonesTarget = right.clonesTarget
  route? : ∀ field, left.route? field = right.route? field

section Routes

variable {left right : List FieldRoute}

/-- Where no two routes are for one field, their order does not matter. -/
theorem find?_route_congr (permuted : left.Perm right) (field : String)
    (distinct : (left.map FieldRoute.field).Nodup) :
    left.find? (·.field = field) = right.find? (·.field = field) := by
  induction permuted with
  | nil => rfl
  | cons route _ inductionHypothesis =>
      simp only [List.map_cons, List.nodup_cons] at distinct
      simp only [List.find?_cons, inductionHypothesis distinct.2]
  | swap first second rest =>
      have different : second.field ≠ first.field := by simp_all
      by_cases isFirst : first.field = field <;> by_cases isSecond : second.field = field <;>
        simp_all
  | trans first _ firstHypothesis secondHypothesis =>
      have kept := (first.map FieldRoute.field).nodup_iff.mp distinct
      exact (firstHypothesis distinct).trans (secondHypothesis kept)

theorem WitnessSpec.alike_transformOf {spec other : WitnessSpec}
    (sameKind : spec.transformKind = other.transformKind) (permuted : left.Perm right)
    (distinct : (left.map FieldRoute.field).Nodup) :
    (spec.transformOf left).Alike (other.transformOf right) where
  kind := by simp only [transformOf, sameKind, permuted.any_eq]
  promotedFrom := by simp only [transformOf, sameKind, permuted.any_eq]
  clonesTarget := by simp only [transformOf, permuted.any_eq]
  route? field := congrArg (Option.map FieldRoute.transport)
    (find?_route_congr permuted field distinct)

end Routes

/-- What is generated for interfaces that differ in their order at most. -/
structure Generated.Reordered (left right : Generated) : Prop where
  config : left.config = right.config
  interface : left.spec.interface = right.spec.interface
  structName : left.spec.structName = right.spec.structName
  access : left.spec.access = right.spec.access
  options : left.spec.options = right.spec.options
  fields : left.spec.fields.Perm right.spec.fields
  constructorParameters :
    left.spec.constructorParameters.Perm right.spec.constructorParameters
  /-- The subject stays in front. -/
  genericParameters : ∃ associated others,
    left.spec.genericParameters = left.config.subject :: associated ∧
      right.spec.genericParameters = right.config.subject :: others ∧ associated.Perm others
  transformKind : left.spec.transformKind = right.spec.transformKind
  transforms : List.Forall₂ TransformDef.Alike left.transforms right.transforms

namespace Interface

variable {left right : Interface} {config : Config}

theorem Reordered.transforms {definitions : List TransformDef} (reordered : left.Reordered right)
    (distinct : (left.fields.map WitnessField.name).Nodup)
    (routed : (left.witness config).transforms left.name = .ok definitions) :
    ∃ others, (right.witness config).transforms right.name = .ok others ∧
      List.Forall₂ TransformDef.Alike definitions others := by
  have sameKind : (left.witness config).transformKind = (right.witness config).transformKind :=
    reordered.transformKind
  rcases WitnessSpec.transforms_eq_ok_iff.mp routed with ⟨unused, rfl⟩ | ⟨used, routes, found, rfl⟩
  · exact ⟨[], WitnessSpec.transforms_eq_ok_iff.mpr (.inl ⟨sameKind ▸ unused, rfl⟩), .nil⟩
  · -- A field has the same route in either order, so the routes are permuted as the fields are.
    obtain ⟨renewed, refound, permuted⟩ := List.perm_comp_forall₂ reordered.fields.symm found
    rw [reordered.name] at refound
    have names : routes.map FieldRoute.field = left.fields.map WitnessField.name := by
      rw [← List.forall₂_eq_eq_eq, List.forall₂_map_left_iff, List.forall₂_map_right_iff]
      exact found.flip.imp fun _ _ routed => WitnessField.field_of_route routed
    refine ⟨_, WitnessSpec.transforms_eq_ok_iff.mpr
      (.inr ⟨sameKind ▸ used, renewed, refound, rfl⟩), .cons ?_ .nil⟩
    exact WitnessSpec.alike_transformOf sameKind permuted.symm (names ▸ distinct)

/-- Whatever is generated for an interface is generated, in another order, when
its declarations are in another order. -/
theorem Reordered.generate {generated : Generated} (reordered : left.Reordered right)
    (ok : left.generate config = .ok generated) :
    ∃ other, right.generate config = .ok other ∧ generated.Reordered other := by
  obtain ⟨emitted, definitions, routed, rfl⟩ := generate_eq_ok_iff.mp ok
  have named := (emit_eq_ok emitted).1
  have reemitted := reordered.emit emitted
  obtain ⟨others, rerouted, alike⟩ := reordered.transforms named.distinct routed
  refine ⟨_, generate_eq_ok_iff.mpr ⟨reemitted, others, rerouted, rfl⟩, ?_⟩
  exact
    { config := rfl
      interface := reordered.name
      structName := congrArg witnessName reordered.name
      access := reordered.access
      options := reordered.options
      fields := reordered.fields
      constructorParameters := reordered.fields.map _
      genericParameters := ⟨left.retainedTypes, right.retainedTypes, rfl, rfl,
        reordered.retainedTypes named (emit_eq_ok reemitted).1⟩
      transformKind := reordered.transformKind
      transforms := alike }

/-- The order of declarations decides neither whether a witness is generated nor
anything but the order of its parts. -/
theorem generate_of_reordered (reordered : left.Reordered right) (config : Config) :
    ((∃ generated, left.generate config = .ok generated) ↔
      ∃ generated, right.generate config = .ok generated) ∧
    ∀ generated other, left.generate config = .ok generated →
      right.generate config = .ok other → generated.Reordered other := by
  refine ⟨⟨?_, ?_⟩, ?_⟩
  · rintro ⟨generated, ok⟩
    obtain ⟨other, reok, _⟩ := reordered.generate ok
    exact ⟨other, reok⟩
  · rintro ⟨generated, ok⟩
    obtain ⟨other, reok, _⟩ := reordered.symm.generate ok
    exact ⟨other, reok⟩
  · intro generated other ok reok
    obtain ⟨found, generates, same⟩ := reordered.generate ok
    obtain rfl := Except.ok.inj (reok.symm.trans generates)
    exact same

theorem generate_of_reordered_ledger :
    let post : Requirement := .method
      ⟨"post", [⟨"entry", .identifier "Entry", .borrowed⟩], .mutable, [], none⟩
    let balance : Requirement := .property ⟨"balance", .identifier "Amount", false, false⟩
    let opening : Requirement := .property ⟨"opening", .identifier "Self", true, true⟩
    let ledger : Interface :=
      { name := "Ledger"
        access := .exported
        requirements := [post, balance, opening]
        associatedTypes := [⟨"Entry", some "Posting"⟩, ⟨"Amount", none⟩]
        options := {} }
    let other : Interface :=
      { ledger with
        requirements := [opening, post, balance]
        associatedTypes := [⟨"Amount", none⟩, ⟨"Entry", some "Posting"⟩] }
    ledger.Reordered other ∧
      ((ledger.generate {}).toOption.map (·.spec.genericParameters)
        = some ["A", "Entry", "Amount"]) ∧
      ((other.generate {}).toOption.map (·.spec.genericParameters)
        = some ["A", "Amount", "Entry"]) ∧
      ((∃ generated, ledger.generate {} = .ok generated) ↔
        ∃ generated, other.generate {} = .ok generated) ∧
      ∀ generated again, ledger.generate {} = .ok generated → other.generate {} = .ok again →
        generated.Reordered again := by
  intro post balance opening ledger other
  have reordered : ledger.Reordered other :=
    { name := rfl
      access := rfl
      options := rfl
      requirements := by decide
      associatedTypes := List.Perm.swap .. }
  exact ⟨reordered, by decide +kernel, by decide +kernel,
    generate_of_reordered reordered {}⟩

end Interface

end InterfaceWitness
