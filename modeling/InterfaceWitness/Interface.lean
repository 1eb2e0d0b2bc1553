import InterfaceWitness.Options
import InterfaceWitness.TypeExpr

/-!
Interfaces: named sets of requirements over an abstract type and its
associated types.
-/

namespace InterfaceWitness

inductive Access where
  /-- No modifier. -/
  | unmarked
  | internal
  | exported
  | hidden
  deriving DecidableEq, Repr

namespace Access

def rank : Access → Nat
  | .hidden => 0
  | .unmarked => 1
  | .internal => 2
  | .exported => 3

/-- The less visible of two marked levels. -/
def meet (left right : Access) : Access :=
  if left = .unmarked then right
  else if right = .unmarked then left
  else if left.rank ≤ right.rank then left
  else right

/-- The least visible of the marked levels, if there is one. -/
def leastVisible (levels : List Access) : Access :=
  levels.foldl meet .unmarked

end Access

/-- How a method receives the value that it is called on. -/
inductive Receiver where
  | static
  | borrowed
  | owned
  | mutable
  deriving DecidableEq, Repr

/-- How an implementation expects an argument. -/
inductive Passing where
  | owned
  | borrowed
  deriving DecidableEq, Repr

structure Parameter where
  label : String
  type : TypeExpr
  passing : Passing
  deriving DecidableEq, Repr

structure Method where
  name : String
  parameters : List Parameter
  receiver : Receiver
  /-- The type parameters that the method itself declares. -/
  generics : List String
  output : Option TypeExpr
  deriving DecidableEq, Repr

structure Property where
  name : String
  type : TypeExpr
  isStatic : Bool
  /-- Read as an associated constant. -/
  isConstant : Bool
  deriving DecidableEq, Repr

inductive Requirement where
  | method (method : Method)
  | property (property : Property)
  deriving DecidableEq, Repr

namespace Requirement

def name : Requirement → String
  | .method declared => declared.name
  | .property declared => declared.name

def isStatic : Requirement → Bool
  | .method declared => declared.receiver = .static
  | .property declared => declared.isStatic

/-- The types of the declared parameters and of the result. -/
def types : Requirement → List TypeExpr
  | .method declared => declared.parameters.map Parameter.type ++ declared.output.toList
  | .property declared => [declared.type]

end Requirement

structure AssociatedType where
  name : String
  /-- The interface that it has to satisfy, whose witness is embedded. -/
  constraint : Option String
  deriving DecidableEq, Repr

structure Interface where
  name : String
  access : Access
  requirements : List Requirement
  associatedTypes : List AssociatedType
  options : GenerationOptions
  deriving DecidableEq, Repr

namespace Interface

def associatedType? (interface : Interface) (name : String) : Option AssociatedType :=
  interface.associatedTypes.find? (·.name = name)

end Interface

end InterfaceWitness
