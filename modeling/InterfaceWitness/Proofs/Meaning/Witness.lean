import InterfaceWitness.Code.Witness
import InterfaceWitness.Proofs.Meaning.Rebuilt
import InterfaceWitness.Proofs.Transform.Directions

/-!
Witnesses as values, and what a transformer makes of the fields of one.
-/

namespace InterfaceWitness

/-- What a witness holds for a field: a function, or the witness of an
associated type. -/
inductive FieldValue (Atom : Type) where
  | function (own : Function Atom)
  | embedded (witness : Atom)

/-- A value for each field, by name. -/
abbrev Witness (Atom : Type) := String → Option (FieldValue Atom)

variable {Atom : Type} {fixed : TypeExpr → Carrier Atom} {source target subject : Carrier Atom}
  {conversions first second : Conversions Atom} {left middle right made value : FieldValue Atom}
  {kind : FieldKind}

namespace FieldKind

inductive Typed (fixed : TypeExpr → Carrier Atom) (subject : Carrier Atom) :
    FieldKind → FieldValue Atom → Prop where
  | function {field : FunctionField} {own : Function Atom} :
      field.Typed fixed subject own → Typed fixed subject (.function field) (.function own)
  | nested {interface name associatedType : String} (witness : Atom) :
      Typed fixed subject (.nested interface name associatedType) (.embedded witness)

/-- Values of a field that cannot be told apart: the same witness, or functions
that agree on every argument. -/
inductive Agree (fixed : TypeExpr → Carrier Atom) (subject : Carrier Atom) :
    FieldKind → FieldValue Atom → FieldValue Atom → Prop where
  | function {field : FunctionField} {left right : Function Atom} :
      field.Agree fixed subject left right →
        Agree fixed subject (.function field) (.function left) (.function right)
  | nested {interface name associatedType : String} (witness : Atom) :
      Agree fixed subject (.nested interface name associatedType) (.embedded witness)
        (.embedded witness)

theorem Agree.symm (agree : Agree fixed subject kind left right) :
    Agree fixed subject kind right left := by
  cases agree with
  | function agree => exact .function fun arguments holds => (agree arguments holds).symm
  | nested witness => exact .nested witness

theorem Agree.trans (agree : Agree fixed subject kind left middle)
    (later : Agree fixed subject kind middle right) : Agree fixed subject kind left right := by
  cases agree with
  | function agree =>
      cases later with
      | function later =>
          exact .function fun arguments holds =>
            (agree arguments holds).trans (later arguments holds)
  | nested witness => exact later

theorem typed_of_agree (agree : Agree fixed subject kind left right)
    (typed : Typed fixed subject kind right) : Typed fixed subject kind left := by
  cases agree with
  | function agree =>
      cases typed with
      | function typed =>
          refine .function fun arguments holds outcome given => ?_
          exact typed arguments holds outcome (agree arguments holds ▸ given)
  | nested witness => exact .nested witness

/-- Whether some argument of a field holds the subject. -/
def Takes : FieldKind → Prop
  | .function field => field.Takes
  | .nested .. => False

/-- Whether a field gives the subject back. -/
def Gives : FieldKind → Prop
  | .function field => field.Gives
  | .nested .. => False

end FieldKind

namespace Conversions

/-- A field carried over to another subject.  An embedded witness is about an
associated type, which stays the same. -/
def carryField (conversions : Conversions Atom) (kind : FieldKind) (value : FieldValue Atom) :
    FieldValue Atom :=
  match kind, value with
  | .function field, .function own => .function (conversions.carry field own)
  | _, value => value

theorem typed_carryField
    (into : kind.Takes → ∀ value, target value → source (conversions.into value))
    (out : kind.Gives → ∀ value, source value → target (conversions.out value))
    (typed : kind.Typed fixed source value) :
    kind.Typed fixed target (conversions.carryField kind value) := by
  cases typed with
  | function typed => exact .function (typed_carry into out typed)
  | nested witness => exact .nested witness

end Conversions

namespace Code

/-- The value that a field of a converted witness is made with, from the one
that the source holds for it. -/
def FieldInit.make (scope : Environment Atom) :
    FieldInit → FieldValue Atom → Option (FieldValue Atom)
  | .shared, own => some own
  | .copied, own => some own
  | .rebuilt conversions closure, .function own =>
      some (.function (closure.apply (captureNames id (.callable own) conversions scope)))
  | .rebuilt .., .embedded _ => none

end Code

/-- The function that a transformer is given as a parameter. -/
def Conversions.given (conversions : Conversions Atom) (parameter : Code.ConversionParameter) :
    Code.Binding Atom :=
  .callable (Code.conversionFunction
    (if parameter.intoSubject then conversions.into else conversions.out))

namespace Code

/-- The witness that a transformer makes.  Every handle on a conversion is the
conversion itself. -/
def Transformer.transform (transformer : Transformer) (conversions : Conversions Atom)
    (witness : Witness Atom) : Witness Atom :=
  fun name => do
    let init ← transformer.inits.lookup name
    let own ← witness name
    init.make (setupNames conversions.given id transformer.kind) own

end Code

end InterfaceWitness
