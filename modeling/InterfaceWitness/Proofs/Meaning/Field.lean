import InterfaceWitness.Proofs.Meaning.Evaluation

/-!
The functions that a field may hold, and what becomes of one that is carried
over to another subject.
-/

namespace InterfaceWitness

variable {Atom : Type} {fixed : TypeExpr → Carrier Atom} {source target : Carrier Atom}

namespace FunctionField

def types (field : FunctionField) : List TypeExpr :=
  field.parameters.map FieldParameter.type

/-- The types of the parameters that are changed in place. -/
def changedTypes (field : FunctionField) : List TypeExpr :=
  (field.parameters.filter (·.passing = .inout)).map FieldParameter.type

/-- The type of the result, which is unit if none is declared. -/
def resultType (field : FunctionField) : TypeExpr :=
  field.output.getD (.tuple [])

/-- Where it gives an outcome, a function keeps to the types of a field. -/
def Typed (field : FunctionField) (fixed : TypeExpr → Carrier Atom) (subject : Carrier Atom)
    (function : Function Atom) : Prop :=
  ∀ arguments, TypeExpr.HoldsAll fixed subject field.types arguments →
    ∀ outcome ∈ function arguments, field.resultType.Holds fixed subject outcome.result ∧
      TypeExpr.HoldsAll fixed subject field.changedTypes outcome.states

/-- Functions that no arguments of a field's types tell apart. -/
def Agree (field : FunctionField) (fixed : TypeExpr → Carrier Atom) (subject : Carrier Atom)
    (left right : Function Atom) : Prop :=
  ∀ arguments, TypeExpr.HoldsAll fixed subject field.types arguments →
    left arguments = right arguments

/-- Whether an argument holds the subject. -/
def Takes (field : FunctionField) : Prop :=
  ∃ type ∈ field.types, type.mentions SubjectNames.primary = true

/-- Whether the result or an argument that is changed holds the subject. -/
def Gives (field : FunctionField) : Prop :=
  field.resultType.mentions SubjectNames.primary = true ∨
    ∃ type ∈ field.changedTypes, type.mentions SubjectNames.primary = true

end FunctionField

/-- A way between the subject of a witness and the subject that it is carried
over to. -/
structure Conversions (Atom : Type) where
  /-- From the target to the subject. -/
  into : Value Atom → Value Atom
  /-- From the subject to the target. -/
  out : Value Atom → Value Atom

namespace Conversions

/-- The way back. -/
def swap (conversions : Conversions Atom) : Conversions Atom :=
  ⟨conversions.out, conversions.into⟩

/-- A function on the target that works on the subject. -/
def carry (conversions : Conversions Atom) (field : FunctionField) (function : Function Atom) :
    Function Atom :=
  fun arguments =>
    (function (TypeExpr.mapSubjectAll conversions.into field.types arguments)).map fun outcome =>
      ⟨field.resultType.mapSubject conversions.out outcome.result,
        TypeExpr.mapSubjectAll conversions.out field.changedTypes outcome.states⟩

variable {conversions first second : Conversions Atom} {field : FunctionField}
  {function : Function Atom}

theorem typed_carry (into : field.Takes → ∀ value, target value → source (conversions.into value))
    (out : field.Gives → ∀ value, source value → target (conversions.out value))
    (typed : field.Typed fixed source function) :
    field.Typed fixed target (conversions.carry field function) := by
  intro arguments holds carried isOutcome
  obtain ⟨outcome, given, rfl⟩ := Option.map_eq_some_iff.mp isOutcome
  obtain ⟨result, states⟩ := typed _ (TypeExpr.holdsAll_mapSubjectAll _ into _ holds) outcome given
  exact ⟨TypeExpr.holds_mapSubject _ (fun mentioned => out (.inl mentioned)) _ result,
    TypeExpr.holdsAll_mapSubjectAll _ (fun mentioned => out (.inr mentioned)) _ states⟩

end Conversions

end InterfaceWitness
