import InterfaceWitness.Transform

/-!
Where a type mentions the subject of an interface, and where it is converted.
-/

namespace InterfaceWitness

namespace SubjectNames

@[simp]
theorem toList_primary : primary.toList = [selfType] := rfl

theorem resolve?_primary (name : String) :
    primary.resolve? name = if name = selfType then some selfType else none := by
  by_cases isSelf : name = selfType <;> simp [resolve?, namesSubject, isSelf]

end SubjectNames

namespace TypeExpr

theorem mentions_primary_iff {type : TypeExpr} :
    type.mentions SubjectNames.primary = true ↔ ∃ node ∈ type.nodes, node.name = selfType := by
  simp only [mentions, List.any_eq_true, SubjectNames.resolve?_primary]
  constructor
  · rintro ⟨node, member, resolved⟩
    exact ⟨node, member, Decidable.byContradiction fun different => by simp [different] at resolved⟩
  · rintro ⟨node, member, isSelf⟩
    exact ⟨node, member, by simp [isSelf]⟩

@[simp]
theorem mentions_identifier (name : String) :
    (identifier name).mentions SubjectNames.primary = true ↔ name = selfType := by
  simp [mentions_primary_iff, nodes]

theorem mentions_tuple {elements : List TypeExpr} {names : SubjectNames} :
    (tuple elements).mentions names = true ↔
      ∃ element ∈ elements, element.mentions names = true := by
  simp only [mentions, nodes, List.any_eq_true, mem_nodesOfAll]
  constructor
  · rintro ⟨node, ⟨element, isElement, member⟩, resolved⟩
    exact ⟨element, isElement, node, member, resolved⟩
  · rintro ⟨element, isElement, node, member, resolved⟩
    exact ⟨node, ⟨element, isElement, member⟩, resolved⟩

variable {names : SubjectNames} {type inner : TypeExpr} {elements : List TypeExpr}

/-- Where there is no subject, nothing has to be converted. -/
theorem routable_of_not_mentions (unmentioned : type.mentions names = false) :
    type.routable names = true := by
  unfold routable
  simp [unmentioned]

theorem routableAll_iff :
    routableAll names elements = true ↔ ∀ element ∈ elements, element.routable names = true := by
  induction elements with
  | nil => simp [routableAll]
  | cons element rest inductionHypothesis => simp [routableAll, inductionHypothesis]

@[simp]
theorem routable_identifier (name : String) : (identifier name).routable names = true := by
  rw [routable, ite_self]

theorem routable_generic {base : String} {arguments : List TypeExpr} :
    (generic base arguments).routable names = true ↔
      (generic base arguments).mentions names = false := by
  rw [routable]
  cases (generic base arguments).mentions names <;> simp

theorem routable_function {parameters : List TypeExpr} {output : Option TypeExpr} :
    (function parameters output).routable names = true ↔
      (function parameters output).mentions names = false := by
  rw [routable]
  cases (function parameters output).mentions names <;> simp

/-- An optional type mentions what the type in it mentions. -/
theorem routable_optional :
    (optional inner).routable names = true ↔ inner.routable names = true := by
  have same : (optional inner).mentions names = inner.mentions names := rfl
  rw [routable, same]
  cases mentioned : inner.mentions names with
  | true => simp
  | false => simp [routable_of_not_mentions mentioned]

/-- A tuple mentions what its elements mention. -/
theorem routable_tuple :
    (tuple elements).routable names = true ↔
      ∀ element ∈ elements, element.routable names = true := by
  rw [routable, ← routableAll_iff]
  cases mentioned : (tuple elements).mentions names with
  | true => simp
  | false =>
      have unmentioned : ∀ element ∈ elements, element.routable names = true := by
        intro element member
        apply routable_of_not_mentions
        refine Bool.eq_false_iff.mpr fun found => ?_
        have inTuple : (tuple elements).mentions names = true :=
          mentions_tuple.mpr ⟨element, member, found⟩
        simp [mentioned] at inTuple
      simp [routableAll_iff.mpr unmentioned]

end TypeExpr

end InterfaceWitness
