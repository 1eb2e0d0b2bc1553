import Std.Data.TreeSet
import InterfaceWitness.Interface

/-!
The names that stand for the subject inside signatures, and their occurrences
in type expressions.
-/

namespace InterfaceWitness

abbrev SubjectNames := Std.TreeSet String

namespace SubjectNames

/-- The interface's own type alone. -/
def primary : SubjectNames := Std.TreeSet.ofList [selfType]

/-- The interface's own type and its associated types. -/
def ofInterface (interface : Interface) : SubjectNames :=
  Std.TreeSet.ofList (selfType :: interface.associatedTypes.map AssociatedType.name)

def extend (subjects : SubjectNames) (names : List String) : SubjectNames :=
  subjects.insertMany names

/-- The first subject, in ascending order, that `name` stands for. -/
def resolve? (subjects : SubjectNames) (name : String) : Option String :=
  subjects.toList.find? (namesSubject name)

end SubjectNames

namespace TypeExpr

/-- The subjects that occur anywhere in a type. -/
def subjects (type : TypeExpr) (names : SubjectNames) : SubjectNames :=
  Std.TreeSet.ofList (type.nodes.filterMap fun node => names.resolve? node.name)

def mentions (type : TypeExpr) (names : SubjectNames) : Bool :=
  type.nodes.any fun node => (names.resolve? node.name).isSome

end TypeExpr

end InterfaceWitness
