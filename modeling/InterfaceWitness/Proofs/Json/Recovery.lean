import InterfaceWitness.Proofs.Json.Reordering
import Mathlib.Data.List.Permutation

/-!
Readers that give back every value that was written, whatever order the members
of its objects are in.
-/

namespace InterfaceWitness

namespace Json

def Recovers {α : Type} (read : Json → Option α) (write : α → Json) : Prop :=
  ∀ value json, (write value).Reordered json → read json = some value

section Readers

variable {α : Type} {read : Json → Option α} {write : α → Json}

theorem Recovers.read_write (recovers : Recovers read write) (value : α) :
    read (write value) = some value :=
  recovers value (write value) (.refl (write value))

theorem recovers_text? : Recovers text? Json.string := by
  intro text json same
  obtain rfl := string_reordered.mp same
  rfl

theorem recovers_bool? : Recovers bool? Json.bool := by
  intro value json same
  obtain rfl := bool_reordered.mp same
  rfl

theorem recovers_named? {ofName : String → Option α} {name : α → String}
    (known : ∀ value, ofName (name value) = some value) :
    Recovers (named? ofName) (fun value => .string (name value)) := by
  intro value json same
  obtain rfl := string_reordered.mp same
  exact known value

theorem Recovers.list (recovers : Recovers read write) :
    Recovers (list? read) (fun values => .array (values.map write)) := by
  intro values json same
  obtain ⟨others, rfl, alike⟩ := array_reordered.mp same
  clear same
  unfold list?
  induction values generalizing others with
  | nil =>
      cases alike
      rfl
  | cons value rest inductionHypothesis =>
      cases alike with
      | cons first later =>
          simp only [List.mapM_cons, recovers value _ first, inductionHypothesis _ later]
          rfl

theorem recovers_texts : Recovers (list? text?) ofTexts :=
  recovers_text?.list

/-- A null stands for nothing else where no value is read from it. -/
theorem Recovers.nullable (recovers : Recovers read write) (refused : read .null = none) :
    Recovers (nullable? read) (ofOption write) := by
  intro value json same
  cases value with
  | none =>
      obtain rfl := null_reordered.mp same
      rfl
  | some value =>
      have given := recovers value json same
      unfold nullable?
      split
      · rw [refused] at given
        cases given
      · simp [given]

end Readers

section Fields

variable {members others : List (String × Json)}

/-- What is alone under its keys stays so. -/
theorem filter_of_reordered (spelled : String → Bool)
    (same : (Json.object members).Reordered (.object others)) {member : String × Json}
    (alone : members.filter (fun other => spelled other.1) = [member]) :
    ∃ value, member.2.Reordered value ∧
      others.filter (fun other => spelled other.1) = [(member.1, value)] := by
  obtain ⟨renewed, _, equal, alike, moved⟩ := object_reordered.mp same
  cases equal
  have alikeSpelled : List.Forall₂ ReorderedMember
      (members.filter fun other => spelled other.1)
      (renewed.filter fun other => spelled other.1) := by
    apply List.rel_filter _ alike
    rintro ⟨key, value⟩ ⟨_, newValue⟩ ⟨rfl, -⟩
    exact Iff.rfl
  rw [alone] at alikeSpelled
  obtain ⟨⟨key, value⟩, rest, ⟨rfl, sameValue⟩, noMore, equal⟩ :=
    List.forall₂_cons_left_iff.mp alikeSpelled
  cases noMore
  refine ⟨value, sameValue, ?_⟩
  rw [← List.perm_singleton, ← equal]
  exact (moved.filter _).symm

/-- The members that are alone under the names of a field, one for each field. -/
def Spelled (names : List (List String)) (members chosen : List (String × Json)) : Prop :=
  List.Forall₂ (fun spellings member =>
    members.filter (fun other => spellings.contains other.1) = [member]) names chosen

/-- A record is read from an object that has one member for each of its fields,
wherever these stand and whatever else is there. -/
theorem fields?_of_spelled {names : List (List String)} {chosen : List (String × Json)}
    {json : Json} (spelled : Spelled names members chosen)
    (same : (Json.object members).Reordered json) :
    ∃ values, json.fields? names = some (values.map .value) ∧
      List.Forall₂ (fun member value => member.2.Reordered value) chosen values := by
  obtain ⟨-, others, rfl, -, -⟩ := object_reordered.mp same
  induction spelled with
  | nil => exact ⟨[], rfl, .nil⟩
  | cons first later inductionHypothesis =>
      obtain ⟨value, sameValue, found⟩ := filter_of_reordered _ same first
      obtain ⟨values, read, alike⟩ := inductionHypothesis
      refine ⟨value :: values, ?_, .cons sameValue alike⟩
      simp only [fields?] at read
      simp only [fields?, List.mapM_cons, found, read]
      rfl

/-- A record whose object has its fields and nothing else. -/
theorem fields?_of_reordered (names : List (List String)) {json : Json}
    (same : (Json.object members).Reordered json) (spelled : Spelled names members members) :
    ∃ values, json.fields? names = some (values.map .value) ∧
      List.Forall₂ (fun member value => member.2.Reordered value) members values :=
  fields?_of_spelled spelled same

/-- An object with a single member is read by its key. -/
theorem single_reordered {key : String} {value json : Json} :
    (Json.object [(key, value)]).Reordered json ↔
      ∃ other, json = .object [(key, other)] ∧ value.Reordered other := by
  rw [object_reordered]
  constructor
  · rintro ⟨renewed, others, rfl, alike, moved⟩
    obtain ⟨⟨_, other⟩, _, ⟨rfl, same⟩, noMore, rfl⟩ := List.forall₂_cons_left_iff.mp alike
    cases noMore
    obtain rfl := List.singleton_perm.mp moved
    exact ⟨other, rfl, same⟩
  · rintro ⟨other, rfl, same⟩
    exact ⟨[(key, other)], _, rfl, .cons ⟨rfl, same⟩ .nil, .refl _⟩

/-- Two members may have changed places. -/
theorem pair_reordered {firstKey secondKey : String} {first second json : Json}
    (same : (Json.object [(firstKey, first), (secondKey, second)]).Reordered json) :
    ∃ firstOther secondOther, first.Reordered firstOther ∧ second.Reordered secondOther ∧
      (json = .object [(firstKey, firstOther), (secondKey, secondOther)] ∨
        json = .object [(secondKey, secondOther), (firstKey, firstOther)]) := by
  obtain ⟨renewed, others, rfl, alike, moved⟩ := object_reordered.mp same
  obtain ⟨⟨_, firstOther⟩, _, ⟨rfl, sameFirst⟩, later, rfl⟩ := List.forall₂_cons_left_iff.mp alike
  obtain ⟨⟨_, secondOther⟩, _, ⟨rfl, sameSecond⟩, noMore, rfl⟩ :=
    List.forall₂_cons_left_iff.mp later
  cases noMore
  refine ⟨firstOther, secondOther, sameFirst, sameSecond, ?_⟩
  obtain rfl | rfl := List.pair_perm.mp moved
  · exact .inl rfl
  · exact .inr rfl

end Fields

end Json

namespace GivenField

variable {α : Type} {read : Json → Option α} {json : Json}

@[simp]
theorem required_value : required read (.value json) = read json := rfl

@[simp]
theorem orDefault_value {default : α} : orDefault default read (.value json) = read json := rfl

@[simp]
theorem optional_value : optional read (.value json) = json.nullable? read := rfl

end GivenField

end InterfaceWitness
