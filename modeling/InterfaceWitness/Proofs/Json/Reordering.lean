import InterfaceWitness.Json
import Mathlib.Data.List.Forall2

/-!
JSON values up to the order of the members of their objects, which has no
meaning, and readers that recover what was written whatever that order is.
-/

namespace InterfaceWitness

namespace Json

mutual

/-- Whether a value is another one but for the order of members. -/
def Reordered : Json → Json → Prop
  | .null, other => other = .null
  | .bool value, other => other = .bool value
  | .number mantissa exponent, other => other = .number mantissa exponent
  | .string text, other => other = .string text
  | .array elements, other => ∃ others, other = .array others ∧ ReorderedAll elements others
  | .object members, other => ∃ renewed others, other = .object others ∧
      ReorderedMembers members renewed ∧ renewed.Perm others

def ReorderedAll : List Json → List Json → Prop
  | [], others => others = []
  | json :: rest, others => ∃ first later, others = first :: later ∧
      Reordered json first ∧ ReorderedAll rest later

def ReorderedMembers : List (String × Json) → List (String × Json) → Prop
  | [], others => others = []
  | (key, value) :: rest, others => ∃ first later, others = (key, first) :: later ∧
      Reordered value first ∧ ReorderedMembers rest later

end

mutual

theorem Reordered.refl : (json : Json) → json.Reordered json
  | .null => by simp [Reordered]
  | .bool _ => by simp [Reordered]
  | .number .. => by simp [Reordered]
  | .string _ => by simp [Reordered]
  | .array elements => by
      rw [Reordered]
      exact ⟨elements, rfl, ReorderedAll.refl elements⟩
  | .object members => by
      rw [Reordered]
      exact ⟨members, members, rfl, ReorderedMembers.refl members, .refl _⟩

theorem ReorderedAll.refl : (elements : List Json) → ReorderedAll elements elements
  | [] => by simp [ReorderedAll]
  | json :: rest => by
      rw [ReorderedAll]
      exact ⟨json, rest, rfl, Reordered.refl json, ReorderedAll.refl rest⟩

theorem ReorderedMembers.refl :
    (members : List (String × Json)) → ReorderedMembers members members
  | [] => by simp [ReorderedMembers]
  | (key, value) :: rest => by
      rw [ReorderedMembers]
      exact ⟨value, rest, rfl, Reordered.refl value, ReorderedMembers.refl rest⟩

end

/-- Two members of one key whose values differ in the order of members only. -/
def ReorderedMember (member other : String × Json) : Prop :=
  other.1 = member.1 ∧ member.2.Reordered other.2

theorem reorderedAll_iff {elements others : List Json} :
    ReorderedAll elements others ↔ List.Forall₂ Reordered elements others := by
  induction elements generalizing others with
  | nil => simp [ReorderedAll]
  | cons json rest inductionHypothesis =>
      simp only [ReorderedAll, inductionHypothesis, List.forall₂_cons_left_iff]
      constructor
      · rintro ⟨first, later, rfl, same, sameRest⟩
        exact ⟨first, later, same, sameRest, rfl⟩
      · rintro ⟨first, later, same, sameRest, rfl⟩
        exact ⟨first, later, rfl, same, sameRest⟩

theorem reorderedMembers_iff {members others : List (String × Json)} :
    ReorderedMembers members others ↔ List.Forall₂ ReorderedMember members others := by
  induction members generalizing others with
  | nil => simp [ReorderedMembers]
  | cons member rest inductionHypothesis =>
      simp only [ReorderedMembers, inductionHypothesis, List.forall₂_cons_left_iff]
      constructor
      · rintro ⟨first, later, rfl, same, sameRest⟩
        exact ⟨(member.1, first), later, ⟨rfl, same⟩, sameRest, rfl⟩
      · rintro ⟨⟨key, first⟩, later, ⟨rfl, same⟩, sameRest, rfl⟩
        exact ⟨first, later, rfl, same, sameRest⟩

section Inversion

variable {json : Json}

@[simp]
theorem null_reordered : Json.null.Reordered json ↔ json = .null := by
  rw [Reordered]

@[simp]
theorem bool_reordered {value : Bool} : (Json.bool value).Reordered json ↔ json = .bool value := by
  rw [Reordered]

@[simp]
theorem string_reordered {text : String} :
    (Json.string text).Reordered json ↔ json = .string text := by
  rw [Reordered]

theorem array_reordered {elements : List Json} : (Json.array elements).Reordered json ↔
    ∃ others, json = .array others ∧ List.Forall₂ Reordered elements others := by
  simp only [Reordered, reorderedAll_iff]

theorem object_reordered {members : List (String × Json)} : (Json.object members).Reordered json ↔
    ∃ renewed others, json = .object others ∧
      List.Forall₂ ReorderedMember members renewed ∧ renewed.Perm others := by
  simp only [Reordered, reorderedMembers_iff]

end Inversion

end Json

end InterfaceWitness
