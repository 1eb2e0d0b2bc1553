import InterfaceWitness.Proofs.Code.Names
import InterfaceWitness.Proofs.Meaning.Type

/-!
The meaning of generated closures.

A function takes the values of its arguments and gives its result together
with the new states of the arguments that it changes in place.  Inside a
closure such an argument is a reference to a state.  An evaluation has no
outcome if a function that it calls has none, or if it gets stuck on a name or
a value of the wrong sort.
-/

namespace InterfaceWitness

structure Outcome (Atom : Type) where
  result : Value Atom
  /-- The new states of the arguments that are changed in place, in order. -/
  states : List (Value Atom)

abbrev Function (Atom : Type) := List (Value Atom) → Option (Outcome Atom)

namespace Code

/-- What a name stands for while a closure runs. -/
inductive Binding (Atom : Type) where
  | data (value : Value Atom)
  | reference (state : Value Atom)
  | callable (function : Function Atom)

/-- The innermost names come first. -/
abbrev Environment (Atom : Type) := List (String × Binding Atom)

variable {Atom : Type}

namespace Environment

def data? (scope : Environment Atom) (name : String) : Option (Value Atom) :=
  match scope.lookup name with
  | some (.data value) => some value
  | _ => none

def state? (scope : Environment Atom) (name : String) : Option (Value Atom) :=
  match scope.lookup name with
  | some (.reference state) => some state
  | _ => none

def callable? (scope : Environment Atom) (name : String) : Option (Function Atom) :=
  match scope.lookup name with
  | some (.callable function) => some function
  | _ => none

/-- New names for the values, which hide older ones. -/
def bindAll (names : List String) (values : List (Value Atom)) (scope : Environment Atom) :
    Environment Atom :=
  names.zip (values.map .data) ++ scope

end Environment

mutual

/-- The value of an expression that changes nothing. -/
def Expr.eval : Expr → Environment Atom → Option (Value Atom)
  | .variable name, scope => scope.data? name
  | .call function arguments, scope => do
      let callee ← scope.callable? function
      let values ← Expr.evalAll arguments scope
      let outcome ← callee values
      some outcome.result
  | .borrowed _, _ => none
  | .cloned name, scope => scope.state? name
  | .mapOption value binder body, scope =>
      match value.eval scope with
      | some .absent => some .absent
      | some (.present inner) => (body.eval ((binder, .data inner) :: scope)).map .present
      | _ => none
  | .mapTuple value binders elements, scope =>
      match value.eval scope with
      | some (.tuple parts) =>
          if parts.length = binders.length then
            (Expr.evalAll elements (scope.bindAll binders parts)).map .tuple
          else none
      | _ => none

def Expr.evalAll : List Expr → Environment Atom → Option (List (Value Atom))
  | [], _ => some []
  | value :: rest, scope => do
      let first ← value.eval scope
      let others ← Expr.evalAll rest scope
      some (first :: others)

end

namespace Expr

/-- What a call receives for an argument.  A borrowed variable hands over the
value that it has. -/
def received? (scope : Environment Atom) : Expr → Option (Value Atom)
  | .borrowed name => scope.data? name
  | value => value.eval scope

def borrowedName? : Expr → Option String
  | .borrowed name => some name
  | _ => none

/-- Evaluates an expression.  A call changes the variables that it borrows. -/
def execute (scope : Environment Atom) : Expr → Option (Value Atom × Environment Atom)
  | .call function arguments => do
      let callee ← scope.callable? function
      let values ← arguments.mapM (received? scope)
      let outcome ← callee values
      let changed := arguments.filterMap borrowedName?
      if outcome.states.length = changed.length then
        some (outcome.result, scope.bindAll changed outcome.states)
      else none
  | value => do
      let result ← value.eval scope
      some (result, scope)

end Expr

def Statement.execute (scope : Environment Atom) : Statement → Option (Environment Atom)
  | .bind name _ value => do
      let (result, after) ← value.execute scope
      some ((name, .data result) :: after)
  | .store name value => do
      let _ ← scope.state? name
      let (result, after) ← value.execute scope
      some ((name, .reference result) :: after)
  | .run value => do
      let (_, after) ← value.execute scope
      some after

/-- The result of a body, unit if it has none, and the names as they are then. -/
def Body.execute (body : Body) (scope : Environment Atom) :
    Option (Value Atom × Environment Atom) := do
  let after ← body.statements.foldlM Statement.execute scope
  match body.result with
  | some value => do
      let result ← value.eval after
      some (result, after)
  | none => some (.tuple [], after)

/-- Whether an argument is handed over by reference. -/
def ClosureParameter.isReference (parameter : ClosureParameter) : Bool :=
  (Token.operator ['&']).isPrefixOf parameter.type

def ClosureParameter.bind (parameter : ClosureParameter) (value : Value Atom) :
    String × Binding Atom :=
  (parameter.name, if parameter.isReference then .reference value else .data value)

/-- A closure as a function, in the scope that it is made in. -/
def Closure.apply (closure : Closure) (scope : Environment Atom) : Function Atom :=
  fun arguments =>
    if arguments.length = closure.parameters.length then do
      let (result, after) ← closure.body.execute
        (List.zipWith ClosureParameter.bind closure.parameters arguments ++ scope)
      let states ← (closure.parameters.filter ClosureParameter.isReference).mapM
        (after.state? ·.name)
      some ⟨result, states⟩
    else none

end Code

end InterfaceWitness
