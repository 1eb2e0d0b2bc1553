import InterfaceWitness.Proofs.Code.Names
import InterfaceWitness.Proofs.Transform.Directions

/-!
What the names stand for that generated closures apply.  Lexical scoping is
followed from the parameters of a transformer down to every application in the
closure of a field.
-/

namespace InterfaceWitness.Code

/-- Where the meaning of a name comes from. -/
inductive Origin where
  | parameter (conversion : ConversionParameter)
  /-- A handle that the setup of a transformer makes. -/
  | shared (source : Origin)
  /-- A second handle, which the closure of one field takes with it. -/
  | captured (source : Origin)
  /-- The function of the source witness. -/
  | own
  /-- A parameter or a variable of the closure itself. -/
  | inner
  deriving DecidableEq, Repr

/-- A function that is applied, and what its name stands for there. -/
structure Application where
  function : String
  origin : Option Origin
  deriving DecidableEq, Repr

abbrev Origins := List (String × Origin)

mutual

/-- The applications in an expression, from the outside in. -/
def Expr.applications : Expr → Origins → List Application
  | .variable _, _ => []
  | .call function arguments, scope =>
      ⟨function, scope.lookup function⟩ :: Expr.applicationsOfAll arguments scope
  | .borrowed _, _ => []
  | .cloned _, _ => []
  | .mapOption value binder body, scope =>
      value.applications scope ++ body.applications ((binder, .inner) :: scope)
  | .mapTuple value binders elements, scope =>
      value.applications scope
        ++ Expr.applicationsOfAll elements (binders.map (·, Origin.inner) ++ scope)

def Expr.applicationsOfAll : List Expr → Origins → List Application
  | [], _ => []
  | value :: rest, scope => value.applications scope ++ Expr.applicationsOfAll rest scope

end

def Statement.applications (scope : Origins) : Statement → List Application
  | .bind _ _ value => value.applications scope
  | .store _ value => value.applications scope
  | .run value => value.applications scope

/-- A variable is in scope after the statement that binds it. -/
def Statement.scopeAfter (scope : Origins) : Statement → Origins
  | .bind name _ _ => (name, .inner) :: scope
  | .store _ _ => scope
  | .run _ => scope

def Body.applicationsAfter (scope : Origins) (result : Option Expr) :
    List Statement → List Application
  | [] => (result.map (·.applications scope)).getD []
  | statement :: rest =>
      statement.applications scope
        ++ Body.applicationsAfter (statement.scopeAfter scope) result rest

def Closure.applications (closure : Closure) (scope : Origins) : List Application :=
  Body.applicationsAfter (closure.parameters.map (·.name, Origin.inner) ++ scope)
    closure.body.result closure.body.statements

/-- The applications in the closure of a field, in a transformer of a kind. -/
def FieldInit.applications (kind : TransformKind) : FieldInit → List Application
  | .shared => []
  | .copied => []
  | .rebuilt conversions closure =>
      closure.applications
        (captureNames .captured .own conversions (setupNames .parameter .shared kind))

/-- A scope in which the names that closures find outside are not hidden. -/
def Transparent (outer scope : Origins) : Prop :=
  ∀ name ∈ ["field", "to", "from"], scope.lookup name = outer.lookup name

/-- An application of one of `names`, as it is known outside. -/
def Application.Outer (outer : Origins) (names : List String) (application : Application) : Prop :=
  application.function ∈ names ∧ application.origin = outer.lookup application.function

/-- No name that a closure binds begins as a name that it finds outside. -/
def IsInner (name : String) : Prop :=
  name.toList.head? ∉ ["field", "to", "from"].map (·.toList.head?)

variable {outer scope : Origins} {names : List String} {application : Application}

theorem Transparent.refl : Transparent outer outer := fun _ _ => rfl

theorem Transparent.cons {name : String} (transparent : Transparent outer scope)
    (inner : IsInner name) : Transparent outer ((name, .inner) :: scope) := by
  intro other member
  rw [lookup_cons_of_ne, transparent other member]
  exact ne_of_initial fun equal => inner (equal ▸ List.mem_map_of_mem member)

theorem Transparent.append {Item : Type} {items : List Item} {name : Item → String}
    (transparent : Transparent outer scope) (inner : ∀ item ∈ items, IsInner (name item)) :
    Transparent outer (items.map (fun item => (name item, Origin.inner)) ++ scope) := by
  induction items with
  | nil => exact transparent
  | cons item rest inductionHypothesis =>
      exact (inductionHypothesis fun later member =>
        inner later (List.mem_cons_of_mem _ member)).cons (inner item (List.mem_cons_self ..))

theorem isInner_valueBinder (depth : Nat) : IsInner (valueBinder depth) := by
  simp [IsInner]

theorem isInner_elementBinder (depth index : Nat) : IsInner (elementBinder depth index) := by
  simp [IsInner]

/-- Wherever nothing is hidden, an expression applies some outer names alone. -/
def Expr.Confined (outer : Origins) (names : List String) (value : Expr) : Prop :=
  ∀ scope, Transparent outer scope → ∀ application ∈ value.applications scope,
    application.Outer outer names

/-- A statement applies outer names alone and hides none of them. -/
structure Statement.Confined (outer : Origins) (names : List String) (statement : Statement) :
    Prop where
  applications : ∀ scope, Transparent outer scope →
    ∀ application ∈ statement.applications scope, application.Outer outer names
  scopeAfter : ∀ scope, Transparent outer scope → Transparent outer (statement.scopeAfter scope)

namespace Expr

theorem confined_variable (name : String) : (Expr.variable name).Confined outer names := by
  simp [Confined, applications]

theorem mem_applicationsOfAll {values : List Expr} :
    application ∈ applicationsOfAll values scope ↔
      ∃ value ∈ values, application ∈ value.applications scope := by
  induction values with
  | nil => simp [applicationsOfAll]
  | cons value rest inductionHypothesis => simp [applicationsOfAll, inductionHypothesis]

theorem confined_call {function : String} {arguments : List Expr}
    (known : names ⊆ ["field", "to", "from"]) (member : function ∈ names)
    (confined : ∀ argument ∈ arguments, argument.Confined outer names) :
    (Expr.call function arguments).Confined outer names := by
  intro scope transparent application applied
  rcases List.mem_cons.mp applied with rfl | inArguments
  · exact ⟨member, transparent function (known member)⟩
  · obtain ⟨argument, isArgument, inArgument⟩ := mem_applicationsOfAll.mp inArguments
    exact confined argument isArgument scope transparent application inArgument

/-- Where there is nothing to convert, nothing is applied. -/
theorem confined_call_or_self {function : String} {value : Expr} {converted : Prop}
    [Decidable converted] (known : names ⊆ ["field", "to", "from"]) (member : function ∈ names)
    (confined : value.Confined outer names) :
    (if converted then Expr.call function [value] else value).Confined outer names := by
  split
  · exact confined_call known member (by simpa using confined)
  · exact confined

theorem confined_mapOption {value body : Expr} {binder : String} (inner : IsInner binder)
    (valueConfined : value.Confined outer names) (bodyConfined : body.Confined outer names) :
    (Expr.mapOption value binder body).Confined outer names := by
  intro scope transparent application applied
  rcases List.mem_append.mp applied with inValue | inBody
  · exact valueConfined scope transparent application inValue
  · exact bodyConfined _ (transparent.cons inner) application inBody

theorem confined_mapTuple {value : Expr} {binders : List String} {elements : List Expr}
    (inner : ∀ name ∈ binders, IsInner name) (valueConfined : value.Confined outer names)
    (elementsConfined : ∀ element ∈ elements, element.Confined outer names) :
    (Expr.mapTuple value binders elements).Confined outer names := by
  intro scope transparent application applied
  rcases List.mem_append.mp applied with inValue | inElements
  · exact valueConfined scope transparent application inValue
  · obtain ⟨element, isElement, inElement⟩ := mem_applicationsOfAll.mp inElements
    exact elementsConfined element isElement _ (transparent.append inner) application inElement

end Expr

mutual

/-- A conversion applies its function, and binds only names of its own. -/
theorem confined_convert {function : String} (known : names ⊆ ["field", "to", "from"])
    (member : function ∈ names) (depth : Nat) {value : Expr}
    (confined : value.Confined outer names) :
    (type : TypeExpr) → (convert function depth value type).Confined outer names
  | .identifier name => by
      unfold convert
      exact Expr.confined_call_or_self known member confined
  | .generic base arguments => by
      unfold convert
      exact Expr.confined_call_or_self known member confined
  | .function parameters output => by
      unfold convert
      exact Expr.confined_call_or_self known member confined
  | .optional inner => by
      unfold convert
      split
      · have body := confined_convert known member (depth + 1)
          (Expr.confined_variable (valueBinder depth)) inner
        exact Expr.confined_mapOption (isInner_valueBinder depth) confined body
      · exact confined
  | .tuple elements => by
      unfold convert
      split
      · have binders : ∀ name ∈ (List.range elements.length).map (elementBinder depth),
            IsInner name := by
          simp only [List.mem_map]
          rintro name ⟨index, _, rfl⟩
          exact isInner_elementBinder depth index
        exact Expr.confined_mapTuple binders confined
          (confined_convertElements known member depth 0 elements)
      · exact confined

theorem confined_convertElements {function : String} (known : names ⊆ ["field", "to", "from"])
    (member : function ∈ names) (depth index : Nat) :
    (elements : List TypeExpr) → ∀ value ∈ convertElements function depth index elements,
      value.Confined outer names
  | [] => by simp [convertElements]
  | element :: rest => by
      intro value converted
      rcases List.mem_cons.mp converted with rfl | inRest
      · exact confined_convert known member (depth + 1) (Expr.confined_variable _) element
      · exact confined_convertElements known member depth (index + 1) rest value inRest

end

/-- What a routed parameter adds to the body of a closure is confined to the
conversions that its route needs. -/
structure RoutedParameter.Confined (outer : Origins) (names : List String)
    (routed : RoutedParameter) : Prop where
  before : ∀ statement ∈ routed.before, statement.Confined outer names
  argument : routed.argument.Confined outer names
  after : ∀ statement ∈ routed.after, statement.Confined outer names

example :
    (fieldInit ⟨"B", []⟩
      ⟨"merge", .function
        ⟨"merge", [⟨.identifier "Self", .inout⟩], some (.optional (.identifier "Self")), .call,
          .covariant⟩⟩
      (.rebuild [.inout] .map)).applications .iso =
    [⟨"to", some (.captured (.shared (.parameter ⟨"to", "to", true⟩)))⟩,
      ⟨"field", some .own⟩,
      ⟨"from", some (.captured (.shared (.parameter ⟨"from", "from", false⟩)))⟩,
      ⟨"from", some (.captured (.shared (.parameter ⟨"from", "from", false⟩)))⟩] := by
  decide

end InterfaceWitness.Code
