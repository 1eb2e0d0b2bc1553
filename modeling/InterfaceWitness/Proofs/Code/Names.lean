import InterfaceWitness.Code.Witness
import Std.Data.String.ToNat

/-!
The names of generated code: the ones that closures bind differ from each
other and from the ones that they find in scope.
-/

namespace InterfaceWitness.Code

/-- Two names that do not begin alike. -/
theorem ne_of_initial {left right : String} (different : left.toList.head? ≠ right.toList.head?) :
    left ≠ right := fun equal => different (by rw [equal])

@[simp]
theorem initial_argumentName (index : Nat) : (argumentName index).toList.head? = some 'a' := by
  simp [argumentName]

@[simp]
theorem initial_subjectName (index : Nat) : (subjectName index).toList.head? = some 's' := by
  simp [subjectName]

@[simp]
theorem initial_valueBinder (depth : Nat) : (valueBinder depth).toList.head? = some 'v' := by
  simp [valueBinder]

@[simp]
theorem initial_elementBinder (depth index : Nat) :
    (elementBinder depth index).toList.head? = some 'i' := by
  simp [elementBinder]

theorem elementBinder_injective {depth left right : Nat}
    (equal : elementBinder depth left = elementBinder depth right) : left = right := by
  simp only [elementBinder, String.append_right_inj] at equal
  exact Nat.repr_injective equal

universe u

variable {Meaning : Type u} {scope : List (String × Meaning)} {handle : Meaning → Meaning}
  {name source other : String} {meaning : Meaning}

theorem lookup_cons_of_ne (different : other ≠ name) :
    ((name, meaning) :: scope).lookup other = scope.lookup other := by
  simp [List.lookup_cons, beq_eq_false_iff_ne.mpr different]

/-- Lets `name` stand for a handle on what `source` stands for.  The innermost
names come first in a scope. -/
def share (handle : Meaning → Meaning) (name source : String) (scope : List (String × Meaning)) :
    List (String × Meaning) :=
  match scope.lookup source with
  | some meaning => (name, handle meaning) :: scope
  | none => scope

/-- The names in the body of a transformer, after the statements that share the
conversions it is given. -/
def setupNames (given : ConversionParameter → Meaning) (handle : Meaning → Meaning)
    (kind : TransformKind) : List (String × Meaning) :=
  (conversionParameters kind).foldl
    (fun scope conversion => share handle conversion.captured conversion.parameter scope)
    ((conversionParameters kind).map fun conversion => (conversion.parameter, given conversion))

/-- The names in the block that makes a closure, after its captures: the
source's own function, and the conversions that the closure uses. -/
def captureNames (handle : Meaning → Meaning) (own : Meaning) (conversions : List String)
    (scope : List (String × Meaning)) : List (String × Meaning) :=
  conversions.foldl (fun scope name => share handle name name scope) (("field", own) :: scope)

end InterfaceWitness.Code
