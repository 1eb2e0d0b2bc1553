import InterfaceWitness.Proofs.Transform.Votes

/-!
More subjects never make a requirement use them less.  From no occurrence its
variance can grow to one direction, and from there to both.
-/

namespace InterfaceWitness

/-- The order in which a variance can grow.  No occurrence is the least, and the
two directions are not comparable. -/
inductive Variance.Below : Option Variance → Option Variance → Prop where
  | absent (variance : Option Variance) : Below none variance
  | same (variance : Option Variance) : Below variance variance
  | invariant (variance : Option Variance) : Below variance (some .invariant)

/-- The variances of what takes a subject. -/
def Variance.taking : List (Option Variance) := [some .contravariant, some .invariant]

/-- The variances of what gives a subject. -/
def Variance.giving : List (Option Variance) := [some .covariant, some .invariant]

theorem Variance.mem_taking {variance : Option Variance} :
    variance ∈ taking ↔ variance = some .contravariant ∨ variance = some .invariant := by
  simp [taking]

theorem Variance.mem_giving {variance : Option Variance} :
    variance ∈ giving ↔ variance = some .covariant ∨ variance = some .invariant := by
  simp [giving]

namespace Variance.Below

variable {left right : Option Variance}

/-- A variance has grown if it is used in each direction in which it was. -/
theorem of_directions (taken : left ∈ taking → right ∈ taking)
    (given : left ∈ giving → right ∈ giving) : Below left right := by
  cases left with
  | none => exact .absent right
  | some variance =>
      cases variance with
      | contravariant =>
          rcases mem_taking.mp (taken (by decide)) with rfl | rfl
          · exact .same _
          · exact .invariant _
      | covariant =>
          rcases mem_giving.mp (given (by decide)) with rfl | rfl
          · exact .same _
          · exact .invariant _
      | invariant =>
          rcases mem_taking.mp (taken (by decide)) with rfl | rfl
          · -- What takes a subject only does not give one.
            exact absurd (given (by decide)) (by decide)
          · exact .same _

theorem ne_none (below : Below left right) (used : left ≠ none) : right ≠ none := by
  cases below with
  | absent => exact absurd rfl used
  | same => exact used
  | invariant => exact Option.some_ne_none _

theorem eq_invariant (below : Below left right) (mixed : left = some .invariant) :
    right = some .invariant := by
  cases below with
  | absent => cases mixed
  | same => exact mixed
  | invariant => rfl

end Variance.Below

theorem TypeExpr.Involves.of_subset {type : TypeExpr} {fewer more : List String}
    (subset : fewer ⊆ more) (involves : type.Involves fewer) : type.Involves more := by
  obtain ⟨formers, name, occurs, subject, isSubject, stands⟩ := involves
  exact ⟨formers, name, occurs, subject, subset isSubject, stands⟩

namespace SubjectNames

variable {fewer more : SubjectNames}

theorem toList_subset_of_subset (subset : ∀ name ∈ fewer, name ∈ more) :
    fewer.toList ⊆ more.toList := fun name member =>
  Std.TreeSet.mem_toList.mpr (subset name (Std.TreeSet.mem_toList.mp member))

theorem extend_subset (subset : ∀ name ∈ fewer, name ∈ more) (names : List String) :
    ∀ name ∈ fewer.extend names, name ∈ more.extend names := by
  intro name member
  simp only [extend, Std.TreeSet.mem_insertMany_list] at member ⊢
  exact member.imp_left (subset name)

theorem ofInterface_subset {smaller larger : Interface}
    (subset : smaller.associatedTypes ⊆ larger.associatedTypes) :
    ∀ name ∈ ofInterface smaller, name ∈ ofInterface larger := by
  intro name member
  simp only [ofInterface, Std.TreeSet.mem_ofList, List.contains_eq_mem, decide_eq_true_eq,
    List.mem_cons] at member ⊢
  exact member.imp_right fun isAssociated => List.map_subset _ subset isAssociated

end SubjectNames

namespace Requirement

variable {requirement : Requirement} {fewer more : SubjectNames}

/-- A type in which a subject is found still has one where more are sought. -/
theorem toList_subjects_ne_nil_of_subset (subset : ∀ name ∈ fewer, name ∈ more) {type : TypeExpr}
    (found : (type.subjects fewer).toList ≠ []) : (type.subjects more).toList ≠ [] :=
  TypeExpr.toList_subjects_ne_nil_iff.mpr
    ((TypeExpr.toList_subjects_ne_nil_iff.mp found).of_subset
      (SubjectNames.toList_subset_of_subset subset))

theorem inputSubjects_ne_nil_of_subset (subset : ∀ name ∈ fewer, name ∈ more)
    (taken : requirement.inputSubjects fewer ≠ []) : requirement.inputSubjects more ≠ [] := by
  cases requirement with
  | property declared => exact absurd rfl taken
  | method declared =>
      simp only [inputSubjects, ne_eq, List.flatMap_eq_nil_iff, not_forall, exists_prop] at taken ⊢
      obtain ⟨parameter, member, found⟩ := taken
      exact ⟨parameter, member,
        toList_subjects_ne_nil_of_subset (SubjectNames.extend_subset subset _) found⟩

theorem outputSubjects_ne_nil_of_subset (subset : ∀ name ∈ fewer, name ∈ more)
    (given : requirement.outputSubjects fewer ≠ []) : requirement.outputSubjects more ≠ [] := by
  cases requirement with
  | property declared => exact toList_subjects_ne_nil_of_subset subset given
  | method declared =>
      simp only [outputSubjects] at given ⊢
      split at given
      case h_1 =>
        exact toList_subjects_ne_nil_of_subset (SubjectNames.extend_subset subset _) given
      case h_2 => exact absurd rfl given

/-- What more subjects make of the variance of a requirement. -/
structure Grows (requirement : Requirement) (fewer more : SubjectNames) : Prop where
  below : Variance.Below (requirement.occurrence fewer) (requirement.occurrence more)
  used : requirement.occurrence fewer ≠ none → requirement.occurrence more ≠ none
  mixed : requirement.occurrence fewer = some .invariant →
    requirement.occurrence more = some .invariant

theorem occurrence_mem_taking {names : SubjectNames} :
    requirement.occurrence names ∈ Variance.taking ↔ requirement.inputSubjects names ≠ [] := by
  rw [occurrence_eq]
  split <;> simp_all [Variance.mem_taking]

theorem occurrence_mem_giving {names : SubjectNames} :
    requirement.occurrence names ∈ Variance.giving ↔ requirement.outputSubjects names ≠ [] := by
  rw [occurrence_eq]
  split <;> simp_all [Variance.mem_giving]

theorem below_occurrence_of_subset (subset : ∀ name ∈ fewer, name ∈ more) :
    Variance.Below (requirement.occurrence fewer) (requirement.occurrence more) := by
  apply Variance.Below.of_directions
  -- Where a subject is taken or given, it still is among more subjects.
  · rw [occurrence_mem_taking, occurrence_mem_taking]
    exact inputSubjects_ne_nil_of_subset subset
  · rw [occurrence_mem_giving, occurrence_mem_giving]
    exact outputSubjects_ne_nil_of_subset subset

/-- The variance of a requirement grows with the subjects that are sought, so it
does with the associated types of an interface. -/
theorem grows_of_subset (requirement : Requirement) :
    (∀ fewer more : SubjectNames, (∀ name ∈ fewer, name ∈ more) → requirement.Grows fewer more) ∧
      ∀ smaller larger : Interface, smaller.associatedTypes ⊆ larger.associatedTypes →
        requirement.Grows (.ofInterface smaller) (.ofInterface larger) := by
  have grows : ∀ fewer more : SubjectNames, (∀ name ∈ fewer, name ∈ more) →
      requirement.Grows fewer more := by
    intro fewer more subset
    have below : Variance.Below (requirement.occurrence fewer) (requirement.occurrence more) :=
      below_occurrence_of_subset subset
    exact ⟨below, below.ne_none, below.eq_invariant⟩
  exact ⟨grows, fun smaller larger subset => grows _ _ (SubjectNames.ofInterface_subset subset)⟩

/-- A stream gives its source only, until what it takes becomes a subject too. -/
theorem grows_of_subset_stream :
    let restart : Requirement := .method
      { name := "restart"
        parameters := [⟨"seeds", .generic "Vec" [.tuple [.identifier "Self::Seed"]], .borrowed⟩]
        receiver := .borrowed
        generics := ["T"]
        output := some (.optional (.identifier "Self")) }
    let fewer : SubjectNames := Std.TreeSet.ofList ["Self"]
    let more : SubjectNames := Std.TreeSet.ofList ["Seed", "Self"]
    let stream : Interface := ⟨"Stream", .unmarked, [restart], [⟨"Item", none⟩], {}⟩
    let larger : Interface := { stream with associatedTypes := [⟨"Seed", none⟩, ⟨"Item", none⟩] }
    (∀ name ∈ fewer, name ∈ more) ∧ restart.Grows fewer more ∧
      stream.associatedTypes ⊆ larger.associatedTypes ∧
      restart.Grows (.ofInterface stream) (.ofInterface larger) ∧
      restart.occurrence fewer = some .covariant ∧ restart.occurrence more = some .invariant := by
  intro restart fewer more stream larger
  have listed : ∀ name ∈ fewer.toList, name ∈ more := by decide +kernel
  have subset : ∀ name ∈ fewer, name ∈ more :=
    fun name member => listed name (Std.TreeSet.mem_toList.mpr member)
  have associated : stream.associatedTypes ⊆ larger.associatedTypes := List.subset_cons_self ..
  exact ⟨subset, (grows_of_subset restart).1 fewer more subset, associated,
    (grows_of_subset restart).2 stream larger associated, by decide +kernel, by decide +kernel⟩

end Requirement

end InterfaceWitness
