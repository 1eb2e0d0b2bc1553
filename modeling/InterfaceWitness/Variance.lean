import InterfaceWitness.Subject

/-!
Where the requirements of an interface use the subject, and which transformer
between witnesses follows from it.
-/

namespace InterfaceWitness

inductive Variance where
  /-- The subject occurs in input positions only. -/
  | contravariant
  /-- The subject occurs in output positions only. -/
  | covariant
  /-- The subject occurs in both or in neither. -/
  | invariant
  deriving DecidableEq, Repr

def Variance.display : Variance → String
  | .contravariant => "contravariant"
  | .covariant => "covariant"
  | .invariant => "invariant"

inductive TransformKind where
  | map
  | pullback
  | iso
  | none
  deriving DecidableEq, Repr

namespace TransformKind

def display : TransformKind → String
  | .map => "map"
  | .pullback => "pullback"
  | .iso => "iso"
  | .none => "none"

/-- The name of the transformer, where there is one. -/
def methodName? : TransformKind → Option String
  | .map => some "map"
  | .pullback => some "pullback"
  | .iso => some "iso"
  | .none => Option.none

/-- The transformer for requirements of these variances: both conversions as
soon as the direction is mixed. -/
def ofVariances (variances : List Variance) : TransformKind :=
  if .invariant ∈ variances ∨ (.covariant ∈ variances ∧ .contravariant ∈ variances) then .iso
  else if .contravariant ∈ variances then .pullback
  else if .covariant ∈ variances then .map
  else .none

end TransformKind

namespace Requirement

/-- The subjects in input positions.  A property has none, and a method's own
type parameters count as subjects. -/
def inputSubjects (requirement : Requirement) (names : SubjectNames) : List String :=
  match requirement with
  | .method declared =>
      declared.parameters.flatMap fun parameter =>
        (parameter.type.subjects (names.extend declared.generics)).toList
  | .property _ => []

def outputSubjects (requirement : Requirement) (names : SubjectNames) : List String :=
  match requirement with
  | .method declared =>
      match declared.output with
      | some output => (output.subjects (names.extend declared.generics)).toList
      | none => []
  | .property declared => (declared.type.subjects names).toList

/-- Where the subject occurs, if it occurs at all. -/
def occurrence (requirement : Requirement) (names : SubjectNames) : Option Variance :=
  let inputs := requirement.inputSubjects names
  let outputs := requirement.outputSubjects names
  if inputs.any (outputs.contains ·) then some .invariant
  else
    match inputs.isEmpty, outputs.isEmpty with
    | false, true => some .contravariant
    | true, false => some .covariant
    | true, true => none
    | false, false => some .invariant

/-- One subject in both positions counts as two subjects do, one in each. -/
theorem occurrence_eq (requirement : Requirement) (names : SubjectNames) :
    requirement.occurrence names =
      match requirement.inputSubjects names, requirement.outputSubjects names with
      | [], [] => none
      | _ :: _, [] => some .contravariant
      | [], _ :: _ => some .covariant
      | _ :: _, _ :: _ => some .invariant := by
  unfold occurrence
  cases requirement.inputSubjects names with
  | nil => cases requirement.outputSubjects names <;> rfl
  | cons =>
      cases requirement.outputSubjects names with
      | nil => simp
      | cons => exact ite_self _

/-- A requirement without the subject can be moved in either direction. -/
def variance (requirement : Requirement) (names : SubjectNames) : Variance :=
  (requirement.occurrence names).getD .invariant

end Requirement

/-- The variance of a parameter position. -/
def TypeExpr.inputVariance (type : TypeExpr) (names : SubjectNames) : Variance :=
  if type.mentions names then .contravariant else .invariant

/-- The transformer of an interface.  Properties have no vote, nor have
methods that never mention a subject. -/
def Interface.transformKind (interface : Interface) : TransformKind :=
  TransformKind.ofVariances <| interface.requirements.filterMap fun requirement =>
    match requirement with
    | .method _ => requirement.occurrence (SubjectNames.ofInterface interface)
    | .property _ => none

end InterfaceWitness
