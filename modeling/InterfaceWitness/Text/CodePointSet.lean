/-!
Sets of characters given by a table: the ascending list of the code points at
which membership changes, the first of them being the first member.
-/

namespace InterfaceWitness.Text

abbrev CodePointSet := List Nat

namespace CodePointSet

def contains : CodePointSet → Nat → Bool
  | [], _ => false
  | boundary :: rest, code => if code < boundary then false else !contains rest code

@[simp]
theorem contains_nil (code : Nat) : contains [] code = false := rfl

theorem contains_of_lt {boundary code : Nat} (rest : CodePointSet) (below : code < boundary) :
    contains (boundary :: rest) code = false := by
  simp [contains, below]

theorem contains_of_le {boundary code : Nat} (rest : CodePointSet) (above : boundary ≤ code) :
    contains (boundary :: rest) code = !contains rest code := by
  simp [contains, Nat.not_lt.mpr above]

end CodePointSet

end InterfaceWitness.Text
