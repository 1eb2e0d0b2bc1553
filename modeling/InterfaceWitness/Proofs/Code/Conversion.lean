import InterfaceWitness.Proofs.Code.Names
import InterfaceWitness.Proofs.Transform.Positions

/-!
The scoping of conversions.  What a conversion binds is numbered by its depth,
so that it hides nothing that is used inside it.
-/

namespace InterfaceWitness.Code

namespace Expr

mutual

/-- The names that an expression uses and does not bind itself. -/
def free : Expr → List String
  | .variable name => [name]
  | .call function arguments => function :: freeOfAll arguments
  | .borrowed name => [name]
  | .cloned name => [name]
  | .mapOption value binder body => value.free ++ body.free.filter (· ≠ binder)
  | .mapTuple value binders elements =>
      value.free ++ (freeOfAll elements).filter (· ∉ binders)

def freeOfAll : List Expr → List String
  | [] => []
  | value :: rest => value.free ++ freeOfAll rest

end

mutual

/-- The names that an expression binds, from the outside in. -/
def binders : Expr → List String
  | .variable _ => []
  | .call _ arguments => bindersOfAll arguments
  | .borrowed _ => []
  | .cloned _ => []
  | .mapOption value binder body => value.binders ++ binder :: body.binders
  | .mapTuple value names elements => value.binders ++ (names ++ bindersOfAll elements)

def bindersOfAll : List Expr → List String
  | [] => []
  | value :: rest => value.binders ++ bindersOfAll rest

end

end Expr

/-- The names that conversions bind at a level. -/
def BoundAt (level : Nat) (name : String) : Prop :=
  name = valueBinder level ∨ ∃ index, name = elementBinder level index

section Names

variable {depth level other index position : Nat} {name : String}

theorem BoundAt.initial (bound : BoundAt level name) :
    name.toList.head? = some 'v' ∨ name.toList.head? = some 'i' := by
  rcases bound with rfl | ⟨index, rfl⟩ <;> simp

end Names

/-- What becomes of a value of a type at a depth.  The function of the
conversion is applied to the bare subject and to nothing else. -/
inductive Conversion (function : String) : Nat → Expr → TypeExpr → Expr → Prop where
  | kept {depth : Nat} {value : Expr} {type : TypeExpr} : ¬type.HasSubject →
      Conversion function depth value type value
  | subject {depth : Nat} {value : Expr} :
      Conversion function depth value (.identifier selfType) (.call function [value])
  | optional {depth : Nat} {value body : Expr} {inner : TypeExpr} : inner.HasSubject →
      Conversion function (depth + 1) (.variable (valueBinder depth)) inner body →
      Conversion function depth value (.optional inner)
        (.mapOption value (valueBinder depth) body)
  | tuple {depth : Nat} {value : Expr} {elements : List TypeExpr} {parts : List Expr} :
      (TypeExpr.tuple elements).HasSubject → parts.length = elements.length →
      (∀ index element part, elements[index]? = some element → parts[index]? = some part →
        Conversion function (depth + 1) (.variable (elementBinder depth index)) element part) →
      Conversion function depth value (.tuple elements)
        (.mapTuple value ((List.range elements.length).map (elementBinder depth)) parts)

section Derivation

variable {function : String} {depth : Nat} {value converted : Expr} {type : TypeExpr}

theorem length_convertElements (depth index : Nat) (elements : List TypeExpr) :
    (convertElements function depth index elements).length = elements.length := by
  induction elements generalizing index with
  | nil => rfl
  | cons element rest inductionHypothesis => simp [convertElements, inductionHypothesis]

mutual

/-- Where a type can be routed, the case that applies the function to whatever
is left meets the bare subject alone. -/
theorem conversion_convert (function : String) :
    (type : TypeExpr) → type.routable SubjectNames.primary = true →
      (depth : Nat) → (value : Expr) →
      Conversion function depth value type (convert function depth value type)
  | .identifier name, _, depth, value => by
      unfold convert
      split
      case isTrue isSelf =>
        obtain rfl := (TypeExpr.mentions_identifier name).mp isSelf
        exact .subject
      case isFalse unmentioned =>
        exact .kept (TypeExpr.mentions_primary_iff_hasSubject.not.mp unmentioned)
  | .generic base arguments, routable, depth, value => by
      have unmentioned := TypeExpr.routable_generic.mp routable
      simp only [convert, unmentioned, Bool.false_eq_true, if_false]
      exact .kept (by simp [← TypeExpr.mentions_primary_iff_hasSubject, unmentioned])
  | .function parameters output, routable, depth, value => by
      have unmentioned := TypeExpr.routable_function.mp routable
      simp only [convert, unmentioned, Bool.false_eq_true, if_false]
      exact .kept (by simp [← TypeExpr.mentions_primary_iff_hasSubject, unmentioned])
  | .optional inner, routable, depth, value => by
      unfold convert
      split
      case isTrue mentioned =>
        exact .optional (TypeExpr.mentions_primary_iff_hasSubject.mp mentioned)
          (conversion_convert function inner (TypeExpr.routable_optional.mp routable) (depth + 1)
            (.variable (valueBinder depth)))
      case isFalse unmentioned =>
        exact .kept (TypeExpr.mentions_primary_iff_hasSubject.not.mp unmentioned)
  | .tuple elements, routable, depth, value => by
      unfold convert
      split
      case isTrue mentioned =>
        refine .tuple (TypeExpr.mentions_primary_iff_hasSubject.mp mentioned)
          (length_convertElements depth 0 elements) fun index element part isElement isPart => ?_
        have converted := conversion_convertElements function elements
          (TypeExpr.routable_tuple.mp routable) depth 0 index isElement isPart
        simpa using converted
      case isFalse unmentioned =>
        exact .kept (TypeExpr.mentions_primary_iff_hasSubject.not.mp unmentioned)

theorem conversion_convertElements (function : String) :
    (elements : List TypeExpr) →
      (∀ element ∈ elements, element.routable SubjectNames.primary = true) →
      (depth start index : Nat) → {element : TypeExpr} → {part : Expr} →
      elements[index]? = some element →
      (convertElements function depth start elements)[index]? = some part →
      Conversion function (depth + 1) (.variable (elementBinder depth (start + index))) element part
  | first :: rest, routable, depth, start, 0, element, part, isElement, isPart => by
      obtain rfl : first = element := Option.some.inj isElement
      obtain rfl := Option.some.inj isPart
      exact conversion_convert function first (routable first (List.mem_cons_self ..)) (depth + 1)
        (.variable (elementBinder depth start))
  | first :: rest, routable, depth, start, index + 1, element, part, isElement, isPart => by
      have later := conversion_convertElements function rest
        (fun later member => routable later (List.mem_cons_of_mem _ member)) depth (start + 1) index
        (by simpa using isElement) (by simpa [convertElements] using isPart)
      simpa [Nat.add_assoc, Nat.add_comm 1 index] using later

end

end Derivation

end InterfaceWitness.Code
