import InterfaceWitness.Proofs.Code.Conversion
import InterfaceWitness.Proofs.Meaning.Closure

/-!
Conversions under lexical scoping.  A conversion has the meaning of its function
at the places of the subject, and what it binds hides nothing from anything that
is used inside it.
-/

namespace InterfaceWitness.Code

variable {Atom : Type}

/-- Names that are bound by `bindAll` stand for the same in any scope. -/
theorem Environment.lookup_bindAll_congr {left right : Environment Atom} {names : List String}
    {values : List (Value Atom)} (sameLength : values.length = names.length) {name : String}
    (agree : name ∉ names → left.lookup name = right.lookup name) :
    (left.bindAll names values).lookup name = (right.bindAll names values).lookup name := by
  induction names generalizing values with
  | nil => simpa [bindAll] using agree
  | cons first names inductionHypothesis =>
      cases values with
      | nil => simp at sameLength
      | cons value values =>
          by_cases isFirst : name = first
          · simp [bindAll, isFirst]
          · have rest := inductionHypothesis (Nat.succ.inj sameLength)
              fun outside => agree (by simp [isFirst, outside])
            simpa [bindAll, lookup_cons_of_ne isFirst] using rest

mutual

/-- The value of an expression depends on its free names alone. -/
theorem Expr.eval_congr : (value : Expr) → {left right : Environment Atom} →
    (∀ name ∈ value.free, left.lookup name = right.lookup name) →
    value.eval left = value.eval right
  | .variable name, left, right, agree => by
      simp only [Expr.eval, Environment.data?, agree name (List.mem_singleton.mpr rfl)]
  | .call function arguments, left, right, agree => by
      have callee := agree function (List.mem_cons_self ..)
      have values := Expr.evalAll_congr arguments fun name used =>
        agree name (List.mem_cons_of_mem _ used)
      simp only [Expr.eval, Environment.callable?, callee, values]
  | .borrowed _, _, _, _ => rfl
  | .cloned name, left, right, agree => by
      simp only [Expr.eval, Environment.state?, agree name (List.mem_singleton.mpr rfl)]
  | .mapOption value binder body, left, right, agree => by
      have same := Expr.eval_congr value fun name used => agree name (List.mem_append_left _ used)
      have inside (inner : Value Atom) : body.eval ((binder, .data inner) :: left)
          = body.eval ((binder, .data inner) :: right) := by
        refine Expr.eval_congr body fun name used => ?_
        by_cases isBinder : name = binder
        · simp [isBinder]
        · rw [lookup_cons_of_ne isBinder, lookup_cons_of_ne isBinder]
          exact agree name (List.mem_append_right _ (by simp [used, isBinder]))
      simp only [Expr.eval, same, inside]
  | .mapTuple value binders elements, left, right, agree => by
      have same := Expr.eval_congr value fun name used => agree name (List.mem_append_left _ used)
      have inside (parts : List (Value Atom)) (sameLength : parts.length = binders.length) :
          Expr.evalAll elements (left.bindAll binders parts)
            = Expr.evalAll elements (right.bindAll binders parts) := by
        refine Expr.evalAll_congr elements fun name used => ?_
        refine Environment.lookup_bindAll_congr sameLength fun outside => ?_
        exact agree name (List.mem_append_right _ (by simp [used, outside]))
      simp only [Expr.eval, same]
      split
      case h_1 parts _ =>
        split
        case isTrue sameLength => rw [inside parts sameLength]
        case isFalse => rfl
      case h_2 => rfl

theorem Expr.evalAll_congr : (values : List Expr) → {left right : Environment Atom} →
    (∀ name ∈ Expr.freeOfAll values, left.lookup name = right.lookup name) →
    Expr.evalAll values left = Expr.evalAll values right
  | [], _, _, _ => rfl
  | value :: rest, left, right, agree => by
      have first := Expr.eval_congr value fun name used => agree name (List.mem_append_left _ used)
      have others := Expr.evalAll_congr rest fun name used =>
        agree name (List.mem_append_right _ used)
      simp only [Expr.evalAll, first, others]

end

end InterfaceWitness.Code
