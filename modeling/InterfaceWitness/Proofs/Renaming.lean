import InterfaceWitness.Proofs.Emission

/-!
The names of the type parameters are only names.  They may clash with what an
interface declares or with what its paths begin with; apart from that they
decide nothing but what the first parameter of the witness is called.
-/

namespace InterfaceWitness

/-- The same witness with another name for the subject. -/
def WitnessSpec.withSubject (spec : WitnessSpec) (subject : String) : WitnessSpec :=
  { spec with genericParameters := subject :: spec.associatedParameters }

theorem WitnessSpec.transforms_withSubject (spec : WitnessSpec) (subject interface : String) :
    (spec.withSubject subject).transforms interface = spec.transforms interface := rfl

namespace Interface

/-- A name that no associated type has and no path of a requirement begins
with, as far as its text tells. -/
structure Spares (interface : Interface) (parameter : String) : Prop where
  associated : ∀ associated ∈ interface.associatedTypes, associated.name ≠ parameter
  heads : ∀ requirement ∈ interface.requirements, ∀ type ∈ requirement.types,
    ∀ node ∈ type.nodes, ¬[':', ':'] <+: node.name.toList →
      String.ofList (pathHead node.name.toList) ≠ parameter

/-- An interface spares both type parameters of a configuration. -/
def SparesAll (interface : Interface) (config : Config) : Prop :=
  interface.Spares config.subject ∧ interface.Spares config.target

variable {interface : Interface} {config other : Config} {requirement : Requirement}
  {type : TypeExpr}

theorem SparesAll.shadowed?_eq_none (spares : interface.SparesAll config)
    (required : requirement ∈ interface.requirements) (isType : type ∈ requirement.types) :
    type.shadowed? config = none := by
  refine List.findSome?_eq_none_iff.mpr fun node member => ?_
  simp only [TypeExpr.shadowingParameter?, Option.map_eq_none_iff]
  refine if_neg fun ⟨nonempty, taken⟩ => ?_
  have unrooted : ¬[':', ':'] <+: node.name.toList := by
    rintro ⟨rest, begun⟩
    rw [← begun] at nonempty
    exact nonempty rfl
  rcases taken with isSubject | isTarget
  · exact spares.1.heads requirement required type isType node member unrooted isSubject
  · exact spares.2.heads requirement required type isType node member unrooted isTarget

theorem SparesAll.checkIn_eq (spares : interface.SparesAll config)
    (spared : interface.SparesAll other) (required : requirement ∈ interface.requirements)
    (isType : type ∈ requirement.types) :
    type.checkIn interface config = type.checkIn interface other := by
  simp only [TypeExpr.checkIn, spares.shadowed?_eq_none required isType,
    spared.shadowed?_eq_none required isType]

/-- A requirement becomes the same field, or is refused in the same words. -/
theorem SparesAll.functionField_eq (spares : interface.SparesAll config)
    (spared : interface.SparesAll other) (required : requirement ∈ interface.requirements) :
    interface.functionField config requirement = interface.functionField other requirement := by
  have same : ∀ type ∈ requirement.types,
      type.checkIn interface config = type.checkIn interface other :=
    fun type isType => spares.checkIn_eq spared required isType
  cases requirement with
  | property declared =>
      simp only [functionField, same declared.type (List.mem_singleton_self _)]
  | method declared =>
      have inputs : ∀ parameter ∈ declared.parameters,
          parameter.type.checkIn interface config = parameter.type.checkIn interface other :=
        fun parameter member => same _ (List.mem_append_left _ (List.mem_map_of_mem member))
      simp only [functionField]
      rw [mapM_congr fun parameter member => by rw [inputs parameter member]]
      cases output : declared.output with
      | none => rfl
      | some type => simp only [same type (List.mem_append_right _ (by simp [output]))]

theorem SparesAll.checkAssociatedTypes_eq (spares : interface.SparesAll config)
    (spared : interface.SparesAll other) {earlier associatedTypes : List AssociatedType}
    (declared : associatedTypes ⊆ interface.associatedTypes) :
    interface.checkAssociatedTypes config earlier associatedTypes
      = interface.checkAssociatedTypes other earlier associatedTypes := by
  induction associatedTypes generalizing earlier with
  | nil => rfl
  | cons associated rest inductionHypothesis =>
      obtain ⟨isDeclared, restDeclared⟩ := List.cons_subset.mp declared
      have apart : ¬(associated.name = config.subject ∨ associated.name = config.target) :=
        not_or.mpr ⟨spares.1.associated _ isDeclared, spares.2.associated _ isDeclared⟩
      have alsoApart : ¬(associated.name = other.subject ∨ associated.name = other.target) :=
        not_or.mpr ⟨spared.1.associated _ isDeclared, spared.2.associated _ isDeclared⟩
      simp only [checkAssociatedTypes, if_neg apart, if_neg alsoApart,
        inductionHypothesis restDeclared]

/-- Where no name clashes with what an interface declares, every outcome is the
same but for the name of the subject. -/
theorem SparesAll.emit_eq (spares : interface.SparesAll config)
    (spared : interface.SparesAll other) :
    interface.emit other = (·.withSubject other.subject) <$> interface.emit config := by
  have functions : interface.requirements.mapM (interface.fieldOf config)
      = interface.requirements.mapM (interface.fieldOf other) :=
    mapM_congr fun requirement required => by
      simp only [fieldOf, spares.functionField_eq spared required]
  simp only [Interface.emit, fieldOf_def, functions,
    spares.checkAssociatedTypes_eq spared (List.Subset.refl _)]
  split
  case isTrue => rfl
  case isFalse =>
    simp only [map_bind, map_pure]
    rfl

/-- An interface that is accepted under one configuration is accepted under every
other one whose names it spares.  The witness differs in its first parameter
alone, and its fields are carried over in the same way. -/
theorem emit_of_spares {spec : WitnessSpec} (spares : interface.SparesAll config)
    (spared : interface.SparesAll other) (emitted : interface.emit config = .ok spec) :
    interface.emit other = .ok (spec.withSubject other.subject) ∧
      spec.withSubject config.subject = spec ∧
      (spec.withSubject other.subject).transforms interface.name
        = spec.transforms interface.name := by
  obtain ⟨-, rfl⟩ := emit_eq_ok emitted
  refine ⟨?_, rfl, WitnessSpec.transforms_withSubject ..⟩
  rw [spares.emit_eq spared, emitted]
  rfl

/-- A path that begins with a separator may go on with the name of a parameter. -/
theorem emit_of_spares_depot :
    let depot : Interface :=
      { name := "Depot"
        access := .exported
        requirements := [
          .method ⟨"store", [⟨"item", .tuple [.identifier "Self::Item", .identifier "::A::Seed"],
            .borrowed⟩], .mutable, [], some (.optional (.identifier "Self"))⟩,
          .property ⟨"LIMITS", .generic "Vec" [.identifier "Item"], true, true⟩]
        associatedTypes := [⟨"Item", some "Storing"⟩]
        options := {} }
    let config : Config := {}
    let other : Config := { subject := "S", target := "T" }
    config.validate = .ok () ∧ other.validate = .ok () ∧ depot.SparesAll config ∧
      depot.SparesAll other ∧ depot.emit config = .ok (depot.witness config) ∧
      depot.emit other = .ok ((depot.witness config).withSubject "S") ∧
      ((depot.witness config).withSubject "S").genericParameters = ["S", "Item"] ∧
      ((depot.witness config).withSubject "S").transforms "Depot"
        = (depot.witness config).transforms "Depot" := by
  intro depot config other
  have associated : ∀ parameter ∈ ["A", "B", "S", "T"],
      ∀ associated ∈ depot.associatedTypes, associated.name ≠ parameter := by
    decide
  have heads : ∀ parameter ∈ ["A", "B", "S", "T"], ∀ requirement ∈ depot.requirements,
      ∀ type ∈ requirement.types, ∀ node ∈ type.nodes, ¬[':', ':'] <+: node.name.toList →
        String.ofList (pathHead node.name.toList) ≠ parameter := by
    decide +kernel
  have spares (parameter : String) (listed : parameter ∈ ["A", "B", "S", "T"]) :
      depot.Spares parameter :=
    ⟨associated parameter listed, heads parameter listed⟩
  have isConfig : depot.SparesAll config := ⟨spares _ (by decide), spares _ (by decide)⟩
  have isOther : depot.SparesAll other := ⟨spares _ (by decide), spares _ (by decide)⟩
  have emitted : depot.emit config = .ok (depot.witness config) := by decide +kernel
  obtain ⟨accepted, -, alike⟩ := emit_of_spares isConfig isOther emitted
  exact ⟨by decide +kernel, by decide +kernel, isConfig, isOther, emitted, accepted,
    by decide +kernel, alike⟩

end Interface

end InterfaceWitness
