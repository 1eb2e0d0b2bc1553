import InterfaceWitness.Registry.Key
import Mathlib.Data.Finset.Sort
import Std.Data.HashMap

/-!
The order of keys, and finite sets listed in ascending order.
-/

namespace InterfaceWitness

namespace WitnessKey

instance : Std.TransOrd WitnessKey :=
  inferInstanceAs (Std.TransCmp (compareLex (compareOn WitnessKey.subject)
    (compareOn WitnessKey.label)))

instance : Std.LawfulEqOrd WitnessKey where
  eq_of_compare {left right} equal := by
    have parts : compare left.subject right.subject = .eq ∧ compare left.label right.label = .eq :=
      compareLex_eq_eq.mp equal
    cases left
    cases right
    simpa using parts

theorem compare_string_eq_lt_iff {left right : String} :
    compare left right = .lt ↔ left < right :=
  compareOfLessAndEq_eq_lt

/-- By subject, and for one subject by label, an absent label first. -/
def Before (left right : WitnessKey) : Prop :=
  left.subject < right.subject ∨
  left.subject = right.subject ∧
    match left.label, right.label with
    | none, some _ => True
    | some leftLabel, some rightLabel => leftLabel < rightLabel
    | _, none => False

theorem compare_eq_lt_iff {left right : WitnessKey} :
    compare left right = .lt ↔ left.Before right := by
  have parts : compare left right
      = (compare left.subject right.subject).then (compare left.label right.label) := rfl
  rw [parts, Ordering.then_eq_lt, compare_string_eq_lt_iff, Std.LawfulEqCmp.compare_eq_iff_eq]
  refine or_congr_right (and_congr_right fun _ => ?_)
  cases left.label with
  | none => cases right.label <;> simp [compare]
  | some leftLabel =>
      cases right.label with
      | none => simp [compare]
      | some rightLabel => exact compare_string_eq_lt_iff

end WitnessKey

section Ascending

variable {Item : Type} [Ord Item] [Std.TransOrd Item]

/-- Not after. -/
def Precedes (left right : Item) : Prop := (compare left right).isLE = true

instance : DecidableRel (Precedes : Item → Item → Prop) :=
  fun left right => inferInstanceAs (Decidable ((compare left right).isLE = true))

instance : IsTrans Item Precedes where
  trans _ _ _ := Std.TransCmp.isLE_trans

instance : Std.Total (Precedes : Item → Item → Prop) where
  total left right := by
    have swapped : compare right left = (compare left right).swap := Std.OrientedCmp.eq_swap
    unfold Precedes
    rw [swapped]
    cases compare left right <;> decide

theorem pairwise_sorted (items : List Item) : (sorted items).Pairwise Precedes := by
  apply List.pairwise_mergeSort
  · intro _ _ _ before after
    exact Std.TransCmp.isLE_trans before after
  · intro left right
    rw [Bool.or_eq_true]
    exact Std.Total.total (r := Precedes) left right

variable [Std.LawfulEqOrd Item]

instance : Std.Antisymm (Precedes : Item → Item → Prop) where
  antisymm _ _ forward backward :=
    Std.LawfulEqCmp.eq_of_compare (Std.OrientedCmp.isLE_antisymm forward backward)

/-- The members of a set in ascending order. -/
def ascending (items : Finset Item) : List Item :=
  items.sort Precedes

@[simp]
theorem mem_ascending {items : Finset Item} {item : Item} : item ∈ ascending items ↔ item ∈ items :=
  Finset.mem_sort _

@[simp]
theorem length_ascending (items : Finset Item) : (ascending items).length = items.card :=
  Finset.length_sort _

theorem pairwise_ascending (items : Finset Item) :
    (ascending items).Pairwise fun left right => compare left right = .lt := by
  have distinct : (ascending items).Pairwise (· ≠ ·) := items.sort_nodup Precedes
  have ordered : (ascending items).Pairwise Precedes := items.pairwise_sort Precedes
  refine (distinct.and ordered).imp fun {left right} both => ?_
  have different : compare left right ≠ .eq := fun equal =>
    both.1 (Std.LawfulEqCmp.eq_of_compare equal)
  have notAfter : (compare left right).isLE = true := both.2
  cases order : compare left right <;> simp_all

/-- Items without repetition are sorted into the set that they are. -/
theorem sorted_eq_ascending {list : List Item} {items : Finset Item} (distinct : list.Nodup)
    (same : ∀ item, item ∈ list ↔ item ∈ items) : sorted list = ascending items := by
  classical
  have permuted : (sorted list).Perm list := sorted_perm list
  have isSet : (sorted list).toFinset = items := by
    ext item
    rw [List.mem_toFinset, permuted.mem_iff, same]
  rw [ascending, ← isSet]
  exact ((List.toFinset_sort Precedes (permuted.nodup_iff.mpr distinct)).mpr
    (pairwise_sorted list)).symm

/-- The keys of a map are sorted into the set that they are, in whatever order
the map lists them. -/
theorem sorted_keys_eq_ascending {Content : Type} [DecidableEq Item] [Hashable Item]
    {map : Std.HashMap Item Content} {items : Finset Item}
    (same : ∀ item, item ∈ map ↔ item ∈ items) : sorted map.keys = ascending items := by
  apply sorted_eq_ascending Std.HashMap.nodup_keys
  intro item
  rw [Std.HashMap.mem_keys, same]

end Ascending

end InterfaceWitness
