import InterfaceWitness.Proofs.Meaning.Evaluation
import Mathlib.Data.List.Nodup

/-!
What the expressions of conversions evaluate to.
-/

namespace InterfaceWitness.Code

variable {Atom : Type} {fixed : TypeExpr → Carrier Atom} {subject : Carrier Atom}
  {scope : Environment Atom} {function name : String} {apply : Value Atom → Value Atom}
  {value input : Value Atom}

/-- A conversion as a function of one argument. -/
def conversionFunction (apply : Value Atom → Value Atom) : Function Atom
  | [value] => some ⟨apply value, []⟩
  | _ => none

namespace Environment

theorem data?_of_lookup (found : scope.lookup name = some (.data value)) :
    scope.data? name = some value := by
  simp [data?, found]

theorem callable?_of_lookup {callee : Function Atom}
    (found : scope.lookup name = some (.callable callee)) :
    scope.callable? name = some callee := by
  simp [callable?, found]

theorem lookup_bindAll_of_not_mem {names : List String} (values : List (Value Atom))
    (outside : name ∉ names) : (scope.bindAll names values).lookup name = scope.lookup name := by
  induction names generalizing values with
  | nil => simp [bindAll]
  | cons first names inductionHypothesis =>
      cases values with
      | nil => simp [bindAll]
      | cons value values =>
          simp only [List.mem_cons, not_or] at outside
          have rest := inductionHypothesis values outside.2
          simp only [bindAll, List.map_cons, List.zip_cons_cons, List.cons_append] at rest ⊢
          rw [lookup_cons_of_ne outside.1, rest]

/-- Each of several names stands for its own value. -/
theorem lookup_bindAll (scope : Environment Atom) {names : List String}
    (values : List (Value Atom)) (distinct : names.Nodup) {index : Nat}
    (inNames : index < names.length) (inValues : index < values.length) :
    (scope.bindAll names values).lookup names[index] = some (.data values[index]) := by
  induction names generalizing values index with
  | nil => simp at inNames
  | cons first names inductionHypothesis =>
      cases values with
      | nil => simp at inValues
      | cons value values =>
          rw [List.nodup_cons] at distinct
          cases index with
          | zero => simp [bindAll]
          | succ index =>
              have bound : index < names.length := by simpa using inNames
              have different : names[index] ≠ first := fun equal =>
                distinct.1 (equal ▸ List.getElem_mem bound)
              have rest := inductionHypothesis values distinct.2 bound
                (by simpa using inValues)
              simpa [bindAll, lookup_cons_of_ne different] using rest

/-- Each of several numbered names stands for its own value. -/
theorem lookup_bindAll_range {nameAt : Nat → String}
    (injective : ∀ {left right}, nameAt left = nameAt right → left = right) {start count : Nat}
    {values : List (Value Atom)} (sameLength : values.length = count) {offset : Nat}
    (bound : offset < values.length) :
    (scope.bindAll ((List.range' start count).map nameAt) values).lookup (nameAt (start + offset))
      = some (.data values[offset]) := by
  have distinct : ((List.range' start count).map nameAt).Nodup :=
    (List.nodup_range' (h := by decide)).map fun _ _ => injective
  have found := lookup_bindAll scope values distinct
    (by simpa [← sameLength] using bound) bound
  simpa using found

end Environment

theorem eval_variable (found : scope.lookup name = some (.data value)) :
    (Expr.variable name).eval scope = some value := by
  rw [Expr.eval, Environment.data?_of_lookup found]

/-- A function on a single argument. -/
def unary (callee : Function Atom) (input : Value Atom) : Option (Value Atom) :=
  (callee [input]).map Outcome.result

theorem eval_unary {callee : Function Atom}
    (found : scope.lookup function = some (.callable callee)) {argument : Expr}
    (evaluated : argument.eval scope = some input) :
    (Expr.call function [argument]).eval scope = unary callee input := by
  simp only [Expr.eval, Expr.evalAll, Environment.callable?_of_lookup found, evaluated,
    Option.bind_eq_bind, Option.bind_some, unary]
  cases callee [input] <;> rfl

/-- The names that a conversion goes by are not bound inside it. -/
def IsConversion (name : String) : Prop := name = "to" ∨ name = "from"

theorem IsConversion.ne_valueBinder (conversion : IsConversion name) (depth : Nat) :
    name ≠ valueBinder depth := by
  rcases conversion with rfl | rfl <;> exact ne_of_initial (by simp)

theorem IsConversion.ne_elementBinder (conversion : IsConversion name) (depth index : Nat) :
    name ≠ elementBinder depth index := by
  rcases conversion with rfl | rfl <;> exact ne_of_initial (by simp)

section Evaluation

variable {callee : Function Atom}

mutual

/-- A conversion calls its function on the subject wherever that stands in a
value, whatever the function does. -/
theorem eval_convert_of_lookup (conversion : IsConversion function) :
    (type : TypeExpr) → type.routable SubjectNames.primary = true →
      (depth : Nat) → (scope : Environment Atom) →
      (type.mentions SubjectNames.primary = true →
        scope.lookup function = some (.callable callee)) →
      (value : Expr) → (input : Value Atom) → type.Holds fixed subject input →
      value.eval scope = some input →
      (convert function depth value type).eval scope = type.mapSubject? (unary callee) input
  | .identifier name, _, depth, scope, found, value, input, _, evaluated => by
      simp only [convert, TypeExpr.mentions_identifier, TypeExpr.mapSubject?] at found ⊢
      split
      case isTrue isSelf => exact eval_unary (found isSelf) evaluated
      case isFalse => exact evaluated
  | .generic base arguments, routable, depth, scope, _, value, input, _, evaluated => by
      rw [TypeExpr.routable_generic] at routable
      simpa [convert, routable, TypeExpr.mapSubject?] using evaluated
  | .function parameters output, routable, depth, scope, _, value, input, _, evaluated => by
      rw [TypeExpr.routable_function] at routable
      simpa [convert, routable, TypeExpr.mapSubject?] using evaluated
  | .optional inner, routable, depth, scope, found, value, input, holds, evaluated => by
      unfold convert
      split
      case isFalse unmentioned =>
        rw [evaluated, TypeExpr.mapSubject?_eq_self (.optional inner)
          (fun mentioned => absurd mentioned unmentioned) input holds]
      case isTrue mentioned =>
        cases input with
        | absent => simp [Expr.eval, evaluated, TypeExpr.mapSubject?]
        | present inside =>
            have body := eval_convert_of_lookup conversion inner
              (TypeExpr.routable_optional.mp routable) (depth + 1)
              ((valueBinder depth, .data inside) :: scope)
              (fun _ => (lookup_cons_of_ne (conversion.ne_valueBinder depth)).trans
                (found mentioned))
              (.variable (valueBinder depth)) inside holds (eval_variable (by simp))
            simp [Expr.eval, evaluated, TypeExpr.mapSubject?, body]
        | _ => exact holds.elim
  | .tuple elements, routable, depth, scope, found, value, input, holds, evaluated => by
      unfold convert
      split
      case isFalse unmentioned =>
        rw [evaluated, TypeExpr.mapSubject?_eq_self _
          (fun mentioned => absurd mentioned unmentioned) input holds]
      case isTrue mentioned =>
        cases input with
        | tuple parts =>
            have sameLength : parts.length = elements.length := TypeExpr.length_of_holdsAll holds
            have converted := evalAll_convertElements conversion elements
              (TypeExpr.routable_tuple.mp routable) depth 0
              (scope.bindAll ((List.range elements.length).map (elementBinder depth)) parts)
              (fun _ => (Environment.lookup_bindAll_of_not_mem parts (by
                simp only [List.mem_map, not_exists, not_and]
                exact fun index _ => (conversion.ne_elementBinder depth index).symm)).trans
                (found mentioned))
              parts (fun offset bound => by
                rw [List.range_eq_range']
                exact Environment.lookup_bindAll_range elementBinder_injective sameLength bound)
              holds
            simp [Expr.eval, evaluated, sameLength, converted, TypeExpr.mapSubject?]
        | _ => exact holds.elim

theorem evalAll_convertElements (conversion : IsConversion function) :
    (elements : List TypeExpr) →
      (∀ element ∈ elements, element.routable SubjectNames.primary = true) →
      (depth index : Nat) → (scope : Environment Atom) →
      ((∃ element ∈ elements, element.mentions SubjectNames.primary = true) →
        scope.lookup function = some (.callable callee)) →
      (parts : List (Value Atom)) →
      (∀ offset, (bound : offset < parts.length) →
        scope.lookup (elementBinder depth (index + offset)) = some (.data parts[offset])) →
      TypeExpr.HoldsAll fixed subject elements parts →
      Expr.evalAll (convertElements function depth index elements) scope
        = TypeExpr.mapSubjectAll? (unary callee) elements parts
  | [], _, depth, index, scope, _, parts, _, holds => by
      cases parts with
      | nil => simp [convertElements, Expr.evalAll, TypeExpr.mapSubjectAll?]
      | cons => exact holds.elim
  | element :: elements, routable, depth, index, scope, found, parts, bound, holds => by
      cases parts with
      | nil => exact holds.elim
      | cons part parts =>
          have first := eval_convert_of_lookup conversion element
            (routable element (List.mem_cons_self ..)) (depth + 1) scope
            (fun mentioned => found ⟨element, List.mem_cons_self .., mentioned⟩)
            (.variable (elementBinder depth index)) part holds.1
            (eval_variable (bound 0 (by simp)))
          have others := evalAll_convertElements conversion elements
            (fun later member => routable later (List.mem_cons_of_mem _ member)) depth (index + 1)
            scope
            (fun ⟨later, member, mentioned⟩ =>
              found ⟨later, List.mem_cons_of_mem _ member, mentioned⟩)
            parts
            (fun offset inRest => by
              have shifted := bound (offset + 1) (by simpa using inRest)
              simpa [Nat.add_assoc, Nat.add_comm 1 offset] using shifted)
            holds.2
          simp [convertElements, Expr.evalAll, first, others, TypeExpr.mapSubjectAll?]

end

end Evaluation

end InterfaceWitness.Code
