import InterfaceWitness.Generation
import InterfaceWitness.Proofs.Emission
import InterfaceWitness.Proofs.Meaning.Witness

/-!
The laws of generated transformers: along conversions that change nothing a
witness stays as it is, and one way after another is one way.
-/

namespace InterfaceWitness

variable {Atom : Type} {fixed : TypeExpr → Carrier Atom} {source middle target : Carrier Atom}
  {conversions first second : Conversions Atom} {value : FieldValue Atom} {kind : TransformKind}
  {interface : String} {field : WitnessField} {route : FieldRoute}

namespace FunctionField

variable {function : FunctionField} {transport : Transport}

end FunctionField

namespace Conversions

/-- The conversions that a transformer of a kind takes lead between two
subjects. -/
structure Between (conversions : Conversions Atom) (kind : TransformKind)
    (source target : Carrier Atom) : Prop where
  into : kind.TakesTo → ∀ value, target value → source (conversions.into value)
  out : kind.TakesFrom → ∀ value, source value → target (conversions.out value)

/-- The conversions that a transformer of a kind takes change no value of a
subject. -/
structure Keeps (conversions : Conversions Atom) (kind : TransformKind) (source : Carrier Atom) :
    Prop where
  into : kind.TakesTo → ∀ value, source value → conversions.into value = value
  out : kind.TakesFrom → ∀ value, source value → conversions.out value = value

end Conversions

namespace Code

variable {transport : Transport}

end Code

namespace WitnessSpec

/-- Every field has a value of its types. -/
def Typed (spec : WitnessSpec) (fixed : TypeExpr → Carrier Atom) (subject : Carrier Atom)
    (witness : Witness Atom) : Prop :=
  ∀ field ∈ spec.fields, ∃ value, witness field.name = some value ∧
    field.kind.Typed fixed subject value

/-- Witnesses that agree in every field. -/
def Agree (spec : WitnessSpec) (fixed : TypeExpr → Carrier Atom) (subject : Carrier Atom)
    (left right : Witness Atom) : Prop :=
  ∀ field ∈ spec.fields, ∃ leftValue rightValue, left field.name = some leftValue ∧
    right field.name = some rightValue ∧ field.kind.Agree fixed subject leftValue rightValue

theorem Agree.trans {spec : WitnessSpec} {subject : Carrier Atom} {left center right : Witness Atom}
    (agree : spec.Agree fixed subject left center)
    (later : spec.Agree fixed subject center right) : spec.Agree fixed subject left right := by
  intro field member
  obtain ⟨leftValue, value, isLeft, isCenter, fieldAgree⟩ := agree field member
  obtain ⟨found, rightValue, isFound, isRight, laterAgree⟩ := later field member
  obtain rfl : value = found := Option.some.inj (isCenter.symm.trans isFound)
  exact ⟨leftValue, rightValue, isLeft, isRight, fieldAgree.trans laterAgree⟩

end WitnessSpec

namespace Code

/-- A transformer whose fields are those of its source, carried over along the
conversions that it takes. -/
structure Transformer.Carries (transformer : Transformer) (spec : WitnessSpec)
    (fixed : TypeExpr → Carrier Atom) : Prop where
  takes : ∀ field ∈ spec.fields, field.kind.Takes → transformer.kind.TakesTo
  gives : ∀ field ∈ spec.fields, field.kind.Gives → transformer.kind.TakesFrom
  carries : ∀ {source target : Carrier Atom} {conversions : Conversions Atom},
    conversions.Between transformer.kind source target →
    ∀ witness : Witness Atom, ∀ field ∈ spec.fields, ∀ value, witness field.name = some value →
      field.kind.Typed fixed source value →
      ∃ made, transformer.transform conversions witness field.name = some made ∧
        field.kind.Agree fixed target made (conversions.carryField field.kind value)

namespace Transformer.Carries

variable {transformer : Transformer} {spec : WitnessSpec} {witness : Witness Atom}

theorem typed (carries : transformer.Carries spec fixed)
    (between : conversions.Between transformer.kind source target)
    (witnessTyped : spec.Typed fixed source witness) :
    spec.Typed fixed target (transformer.transform conversions witness) := by
  intro field member
  obtain ⟨value, isValue, typed⟩ := witnessTyped field member
  obtain ⟨made, isMade, agree⟩ := carries.carries between witness field member value isValue typed
  refine ⟨made, isMade, FieldKind.typed_of_agree agree ?_⟩
  exact Conversions.typed_carryField (fun takes => between.into (carries.takes field member takes))
    (fun gives => between.out (carries.gives field member gives)) typed

end Transformer.Carries

end Code

/-- Counts some steps further. -/
def advance (steps : Int) : Value Int → Value Int
  | .atom count => .atom (count + steps)
  | other => other

end InterfaceWitness
