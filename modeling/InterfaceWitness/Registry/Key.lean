import InterfaceWitness.Text.Quoted

/-!
Names of types, and the keys under which witnesses are registered.
-/

namespace InterfaceWitness

/-- In ascending order, repeated items kept. -/
def sorted {Item : Type} [Ord Item] (items : List Item) : List Item :=
  items.mergeSort fun left right => (compare left right).isLE

theorem sorted_perm {Item : Type} [Ord Item] (items : List Item) : (sorted items).Perm items :=
  List.mergeSort_perm items _

/-- A type name without its generic arguments. -/
def eraseGenerics (name : String) : String :=
  String.ofList (name.toList.takeWhile (· ≠ '<'))

/-- The identity of an entry: a subject and perhaps a label. -/
structure WitnessKey where
  subject : String
  label : Option String
  deriving DecidableEq, Hashable, Repr

namespace WitnessKey

def display (key : WitnessKey) : String :=
  match key.label with
  | some label => key.subject ++ "#" ++ label
  | none => key.subject

/-- By subject, then by label, an absent label first. -/
instance : Ord WitnessKey where
  compare := compareLex (compareOn WitnessKey.subject) (compareOn WitnessKey.label)

end WitnessKey

end InterfaceWitness
