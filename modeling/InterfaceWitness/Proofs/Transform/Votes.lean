import InterfaceWitness.Proofs.Subject
import InterfaceWitness.Proofs.Transform.Positions
import Mathlib.Logic.Relation

/-!
The transformer of an interface follows from two facts: whether some method
takes a subject and whether some method gives one.
-/

namespace InterfaceWitness

namespace TypeExpr

/-- Some name in a type is one of the subjects or its projection from `Self`. -/
def Involves (type : TypeExpr) (subjects : List String) : Prop :=
  ∃ formers name, Occurs name formers type ∧ ∃ subject ∈ subjects,
    name = subject ∨ subject ≠ selfType ∧ name = selfType ++ "::" ++ subject

theorem involves_iff {type : TypeExpr} {subjects : List String} :
    type.Involves subjects ↔
      ∃ node ∈ type.nodes, ∃ subject ∈ subjects, namesSubject node.name subject = true := by
  simp only [Involves, ← namesSubject_iff]
  constructor
  · rintro ⟨formers, name, occurs, stands⟩
    obtain ⟨node, member, rfl⟩ := occurs.mem_nodes
    exact ⟨node, member, stands⟩
  · rintro ⟨node, member, stands⟩
    obtain ⟨formers, occurs⟩ := occurs_of_mem_nodes type member
    exact ⟨formers, node.name, occurs, stands⟩

theorem toList_subjects_ne_nil_iff {type : TypeExpr} {names : SubjectNames} :
    (type.subjects names).toList ≠ [] ↔ type.Involves names.toList := by
  simp only [involves_iff, ne_eq, List.eq_nil_iff_forall_not_mem, not_forall, not_not,
    Std.TreeSet.mem_toList, mem_subjects_iff, SubjectNames.resolve?]
  constructor
  · rintro ⟨subject, node, member, found⟩
    exact ⟨node, member, subject, Std.TreeSet.mem_toList.mp (List.mem_of_find?_eq_some found),
      List.find?_some found⟩
  · rintro ⟨node, member, subject, isSubject, stands⟩
    have found : (names.toList.find? (namesSubject node.name)).isSome = true :=
      List.find?_isSome.mpr ⟨subject, Std.TreeSet.mem_toList.mpr isSubject, stands⟩
    obtain ⟨first, isFirst⟩ := Option.isSome_iff_exists.mp found
    exact ⟨first, node, member, isFirst⟩

end TypeExpr

namespace Interface

/-- What stands for the subject in a method: the interface's own type, its
associated types and the type parameters of the method. -/
def subjectsOf (interface : Interface) (method : Method) : List String :=
  selfType :: interface.associatedTypes.map AssociatedType.name ++ method.generics

/-- Whether a subject stands in a declared parameter of a method. -/
def Takes (interface : Interface) (method : Method) : Prop :=
  ∃ parameter ∈ method.parameters, parameter.type.Involves (interface.subjectsOf method)

/-- Whether a subject stands in the result of a method. -/
def Gives (interface : Interface) (method : Method) : Prop :=
  ∃ type ∈ method.output, type.Involves (interface.subjectsOf method)

variable {interface : Interface} {method : Method} {left right : List Requirement}

theorem involves_extend_iff {type : TypeExpr} :
    type.Involves ((SubjectNames.ofInterface interface).extend method.generics).toList ↔
      type.Involves (interface.subjectsOf method) := by
  have same (subject : String) :
      subject ∈ ((SubjectNames.ofInterface interface).extend method.generics).toList ↔
        subject ∈ interface.subjectsOf method := by
    simp [SubjectNames.extend, SubjectNames.ofInterface, subjectsOf, or_assoc]
  simp only [TypeExpr.involves_iff, same]

theorem takes_iff : interface.Takes method ↔
    (Requirement.method method).inputSubjects (SubjectNames.ofInterface interface) ≠ [] := by
  simp only [Takes, ← involves_extend_iff, ← TypeExpr.toList_subjects_ne_nil_iff,
    Requirement.inputSubjects, ne_eq, List.flatMap_eq_nil_iff, not_forall, exists_prop]

theorem gives_iff : interface.Gives method ↔
    (Requirement.method method).outputSubjects (SubjectNames.ofInterface interface) ≠ [] := by
  simp only [Gives, ← involves_extend_iff, ← TypeExpr.toList_subjects_ne_nil_iff,
    Requirement.outputSubjects]
  cases method.output <;> simp

/-- The vote of a method. -/
theorem occurrence_eq_some_iff {variance : Variance} :
    (Requirement.method method).occurrence (SubjectNames.ofInterface interface) = some variance ↔
      match variance with
      | .contravariant => interface.Takes method ∧ ¬interface.Gives method
      | .covariant => ¬interface.Takes method ∧ interface.Gives method
      | .invariant => interface.Takes method ∧ interface.Gives method := by
  rw [takes_iff, gives_iff, Requirement.occurrence_eq]
  split <;> cases variance <;> simp_all

/-- Some method takes a subject. -/
def AnyTakes (interface : Interface) (requirements : List Requirement) : Prop :=
  ∃ method, .method method ∈ requirements ∧ interface.Takes method

/-- Some method gives a subject, the same one or another. -/
def AnyGives (interface : Interface) (requirements : List Requirement) : Prop :=
  ∃ method, .method method ∈ requirements ∧ interface.Gives method

end Interface

namespace TransformKind

/-- The kind that two facts call for. -/
structure Follows (kind : TransformKind) (takes gives : Prop) : Prop where
  iso : kind = .iso ↔ takes ∧ gives
  pullback : kind = .pullback ↔ takes ∧ ¬gives
  map : kind = .map ↔ ¬takes ∧ gives
  none : kind = .none ↔ ¬takes ∧ ¬gives

theorem Follows.unique {left right : TransformKind} {takes gives : Prop}
    (first : left.Follows takes gives) (second : right.Follows takes gives) : left = right := by
  cases left with
  | iso => exact (second.iso.mpr (first.iso.mp rfl)).symm
  | pullback => exact (second.pullback.mpr (first.pullback.mp rfl)).symm
  | map => exact (second.map.mpr (first.map.mp rfl)).symm
  | none => exact (second.none.mpr (first.none.mp rfl)).symm

/-- A mixed vote counts for both directions. -/
theorem follows_ofVariances (variances : List Variance) :
    (ofVariances variances).Follows (.contravariant ∈ variances ∨ .invariant ∈ variances)
      (.covariant ∈ variances ∨ .invariant ∈ variances) := by
  by_cases mixed : Variance.invariant ∈ variances <;>
    by_cases taken : Variance.contravariant ∈ variances <;>
    by_cases given : Variance.covariant ∈ variances <;>
    constructor <;> simp [ofVariances, mixed, taken, given]

end TransformKind

namespace Interface

variable {interface : Interface} {left right : List Requirement}

/-- The variances of the methods that use a subject. -/
def votes (interface : Interface) : List Variance :=
  interface.requirements.filterMap fun requirement =>
    match requirement with
    | .method _ => requirement.occurrence (SubjectNames.ofInterface interface)
    | .property _ => none

theorem mem_votes_iff {variance : Variance} : variance ∈ interface.votes ↔
    ∃ method, .method method ∈ interface.requirements ∧
      (Requirement.method method).occurrence (SubjectNames.ofInterface interface)
        = some variance := by
  simp only [votes, List.mem_filterMap]
  constructor
  · rintro ⟨requirement, member, vote⟩
    cases requirement with
    | method declared => exact ⟨declared, member, vote⟩
    | property declared => cases vote
  · rintro ⟨method, member, vote⟩
    exact ⟨_, member, vote⟩

theorem anyTakes_iff : interface.AnyTakes interface.requirements ↔
    .contravariant ∈ interface.votes ∨ .invariant ∈ interface.votes := by
  simp only [mem_votes_iff, occurrence_eq_some_iff, ← exists_or, ← and_or_left, AnyTakes]
  refine exists_congr fun method => and_congr_right fun _ => ?_
  tauto

theorem anyGives_iff : interface.AnyGives interface.requirements ↔
    .covariant ∈ interface.votes ∨ .invariant ∈ interface.votes := by
  simp only [mem_votes_iff, occurrence_eq_some_iff, ← exists_or, ← and_or_left, AnyGives]
  refine exists_congr fun method => and_congr_right fun _ => ?_
  tauto

theorem follows_transformKind (interface : Interface) : interface.transformKind.Follows
    (interface.AnyTakes interface.requirements) (interface.AnyGives interface.requirements) := by
  rw [anyTakes_iff, anyGives_iff]
  exact TransformKind.follows_ofVariances interface.votes

/-- Changes of the requirements that move no subject. -/
inductive Immaterial (interface : Interface) : List Requirement → List Requirement → Prop where
  | reordered {before after : List Requirement} : before.Perm after →
      Immaterial interface before after
  | property (declared : Property) (rest : List Requirement) :
      Immaterial interface rest (.property declared :: rest)
  | receiver (method : Method) (receiver : Receiver) (rest : List Requirement) :
      Immaterial interface (.method method :: rest)
        (.method { method with receiver := receiver } :: rest)
  | subjectFree {method : Method} (rest : List Requirement) : ¬interface.Takes method →
      ¬interface.Gives method → Immaterial interface rest (.method method :: rest)

/-- One change leaves what can be said of some method without its receiver. -/
theorem exists_method_iff_of_immaterial {Holds : Method → Prop}
    (receiver : ∀ method receiver, Holds { method with receiver := receiver } ↔ Holds method)
    (used : ∀ method, Holds method → interface.Takes method ∨ interface.Gives method)
    (changed : interface.Immaterial left right) :
    (∃ method, .method method ∈ left ∧ Holds method) ↔
      ∃ method, .method method ∈ right ∧ Holds method := by
  cases changed with
  | reordered permuted => simp only [permuted.mem_iff]
  | property declared rest => simp
  | receiver method other rest =>
      simp only [List.mem_cons, Requirement.method.injEq, or_and_right, exists_or,
        exists_eq_left, receiver]
  | @subjectFree method rest takes gives =>
      have unused : ¬Holds method := fun holds => (used method holds).elim takes gives
      simp only [List.mem_cons, Requirement.method.injEq, or_and_right, exists_or,
        exists_eq_left, unused, false_or]

/-- Changes one after another, in either direction, leave both facts. -/
theorem any_iff_of_immaterial (changed : Relation.EqvGen interface.Immaterial left right) :
    (interface.AnyTakes left ↔ interface.AnyTakes right) ∧
      (interface.AnyGives left ↔ interface.AnyGives right) := by
  induction changed with
  | rel left right step =>
      exact ⟨exists_method_iff_of_immaterial (fun _ _ => Iff.rfl) (fun _ => .inl) step,
        exists_method_iff_of_immaterial (fun _ _ => Iff.rfl) (fun _ => .inr) step⟩
  | refl => exact ⟨Iff.rfl, Iff.rfl⟩
  | symm left right _ inductionHypothesis =>
      exact ⟨inductionHypothesis.1.symm, inductionHypothesis.2.symm⟩
  | trans left middle right _ _ first second =>
      exact ⟨first.1.trans second.1, first.2.trans second.2⟩

/-- The transformer of an interface depends on whether some method takes a
subject and whether some method gives one.  Properties, receivers, the order
and methods without a subject make no difference. -/
theorem transformKind_follows_directions (interface : Interface) :
    interface.transformKind.Follows (interface.AnyTakes interface.requirements)
        (interface.AnyGives interface.requirements) ∧
      ∀ requirements, Relation.EqvGen interface.Immaterial interface.requirements requirements →
        ({ interface with requirements := requirements } : Interface).transformKind
          = interface.transformKind := by
  refine ⟨follows_transformKind interface, fun requirements changed => ?_⟩
  -- Both kinds follow the same two facts, and a kind that does is the only one.
  obtain ⟨takes, gives⟩ := any_iff_of_immaterial changed
  have after := follows_transformKind { interface with requirements := requirements }
  have before := follows_transformKind interface
  rw [takes, gives] at before
  exact after.unique before

theorem transformKind_follows_directions_pairing :
    let absorb : Method :=
      ⟨"absorb", [⟨"other", .generic "Vec" [.identifier "Self::Item"], .owned⟩], .static, [], none⟩
    let make : Method := ⟨"make", [], .static, ["T"], some (.optional (.identifier "T"))⟩
    let count : Method :=
      ⟨"count", [⟨"limit", .identifier "u8", .owned⟩], .owned, [], some (.identifier "usize")⟩
    let origin : Property := ⟨"origin", .identifier "Self", true, true⟩
    let pairing : Interface :=
      { name := "Pairing"
        access := .exported
        requirements := [.method absorb, .method make]
        associatedTypes := [⟨"Item", none⟩]
        options := {} }
    let requirements : List Requirement := [.property origin, .method count,
      .method { make with receiver := .mutable }, .method absorb]
    Relation.EqvGen pairing.Immaterial pairing.requirements requirements ∧
      ({ pairing with requirements := requirements } : Interface).transformKind
        = pairing.transformKind ∧ pairing.transformKind = .iso := by
  intro absorb make count origin pairing requirements
  have silent : ¬pairing.Takes count ∧ ¬pairing.Gives count := by
    simp [Takes, Gives, TypeExpr.involves_iff, TypeExpr.nodes, subjectsOf, namesSubject, selfType,
      count, pairing]
  have changed : Relation.EqvGen pairing.Immaterial pairing.requirements requirements :=
    .trans _ _ _ (.rel _ _ (.reordered (List.Perm.swap ..)))
      (.trans _ _ _ (.rel _ _ (.receiver make .mutable _))
        (.trans _ _ _ (.rel _ _ (.subjectFree _ silent.1 silent.2))
          (.rel _ _ (.property origin _))))
  exact ⟨changed, (transformKind_follows_directions pairing).2 requirements changed,
    by decide +kernel⟩

end Interface

end InterfaceWitness
