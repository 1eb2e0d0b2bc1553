import InterfaceWitness.Proofs.Mentions

/-!
The values of type expressions.  The subject stands for a set of values of its
own; options and tuples are built from the values of their parts, and the
values of every other type are fixed.
-/

namespace InterfaceWitness

inductive Value (Atom : Type) where
  | atom (payload : Atom)
  | absent
  | present (value : Value Atom)
  | tuple (elements : List (Value Atom))

/-- A set of values that a type may stand for. -/
abbrev Carrier (Atom : Type) := Value Atom → Prop

variable {Atom : Type} {fixed : TypeExpr → Carrier Atom} {source target : Carrier Atom}
  {convert later : Value Atom → Value Atom}

namespace TypeExpr

mutual

/-- Whether a value belongs to a type over a subject. -/
def Holds (fixed : TypeExpr → Carrier Atom) (subject : Carrier Atom) :
    TypeExpr → Value Atom → Prop
  | .identifier name, value =>
      if name = selfType then subject value else fixed (.identifier name) value
  | .generic base arguments, value => fixed (.generic base arguments) value
  | .function parameters output, value => fixed (.function parameters output) value
  | .tuple elements, .tuple values => HoldsAll fixed subject elements values
  | .tuple _, _ => False
  | .optional _, .absent => True
  | .optional inner, .present value => Holds fixed subject inner value
  | .optional _, _ => False

def HoldsAll (fixed : TypeExpr → Carrier Atom) (subject : Carrier Atom) :
    List TypeExpr → List (Value Atom) → Prop
  | [], [] => True
  | type :: types, value :: values =>
      Holds fixed subject type value ∧ HoldsAll fixed subject types values
  | _, _ => False

end

mutual

/-- Converts the subject wherever it stands alone, under options or in tuples. -/
def mapSubject (convert : Value Atom → Value Atom) : TypeExpr → Value Atom → Value Atom
  | .identifier name, value => if name = selfType then convert value else value
  | .tuple elements, .tuple values => .tuple (mapSubjectAll convert elements values)
  | .optional inner, .present value => .present (mapSubject convert inner value)
  | _, value => value

def mapSubjectAll (convert : Value Atom → Value Atom) :
    List TypeExpr → List (Value Atom) → List (Value Atom)
  | type :: types, value :: values =>
      mapSubject convert type value :: mapSubjectAll convert types values
  | _, values => values

end

mutual

/-- Converts the subject wherever it stands with a conversion that may fail,
which the whole then does. -/
def mapSubject? (convert : Value Atom → Option (Value Atom)) :
    TypeExpr → Value Atom → Option (Value Atom)
  | .identifier name, value => if name = selfType then convert value else some value
  | .tuple elements, .tuple values => (mapSubjectAll? convert elements values).map .tuple
  | .optional inner, .present value => (mapSubject? convert inner value).map .present
  | _, value => some value

def mapSubjectAll? (convert : Value Atom → Option (Value Atom)) :
    List TypeExpr → List (Value Atom) → Option (List (Value Atom))
  | type :: types, value :: values => do
      let first ← mapSubject? convert type value
      let others ← mapSubjectAll? convert types values
      some (first :: others)
  | _, values => some values

end

mutual

theorem mapSubject?_some : (type : TypeExpr) → (value : Value Atom) →
    mapSubject? (fun value => some (convert value)) type value
      = some (mapSubject convert type value)
  | .identifier name, value => by
      by_cases isSelf : name = selfType <;> simp [mapSubject?, mapSubject, isSelf]
  | .generic .., value => by simp [mapSubject?, mapSubject]
  | .function .., value => by simp [mapSubject?, mapSubject]
  | .tuple elements, value => by
      cases value with
      | tuple values => simp [mapSubject?, mapSubject, mapSubjectAll?_some elements values]
      | _ => simp [mapSubject?, mapSubject]
  | .optional inner, value => by
      cases value with
      | present value => simp [mapSubject?, mapSubject, mapSubject?_some inner value]
      | _ => simp [mapSubject?, mapSubject]

theorem mapSubjectAll?_some : (types : List TypeExpr) → (values : List (Value Atom)) →
    mapSubjectAll? (fun value => some (convert value)) types values
      = some (mapSubjectAll convert types values)
  | [], values => by simp [mapSubjectAll?, mapSubjectAll]
  | type :: types, values => by
      cases values with
      | nil => simp [mapSubjectAll?, mapSubjectAll]
      | cons value values =>
          simp [mapSubjectAll?, mapSubjectAll, mapSubject?_some type value,
            mapSubjectAll?_some types values]

end

mutual

/-- A conversion that fixes the subject fixes the values of every type, and a
type that never mentions the subject keeps its values anyway. -/
theorem mapSubject?_eq_self {convert : Value Atom → Option (Value Atom)} :
    (type : TypeExpr) →
      (type.mentions SubjectNames.primary = true →
        ∀ value, source value → convert value = some value) →
      (value : Value Atom) → Holds fixed source type value →
      mapSubject? convert type value = some value
  | .identifier name, fixes, value, holds => by
      by_cases isSelf : name = selfType
      · simp only [Holds, mapSubject?, isSelf, if_true] at holds ⊢
        exact fixes ((mentions_identifier name).mpr isSelf) value holds
      · simp [mapSubject?, isSelf]
  | .generic .., _, value, _ => by simp [mapSubject?]
  | .function .., _, value, _ => by simp [mapSubject?]
  | .tuple elements, fixes, value, holds => by
      cases value with
      | tuple values =>
          rw [mapSubject?, mapSubjectAll?_eq_self elements
            (fun mentioned => fixes (mentions_tuple.mpr mentioned)) values holds, Option.map_some]
      | _ => exact holds.elim
  | .optional inner, fixes, value, holds => by
      cases value with
      | absent => simp [mapSubject?]
      | present value =>
          rw [mapSubject?, mapSubject?_eq_self inner fixes value holds, Option.map_some]
      | _ => exact holds.elim

theorem mapSubjectAll?_eq_self {convert : Value Atom → Option (Value Atom)} :
    (types : List TypeExpr) →
      ((∃ type ∈ types, type.mentions SubjectNames.primary = true) →
        ∀ value, source value → convert value = some value) →
      (values : List (Value Atom)) → HoldsAll fixed source types values →
      mapSubjectAll? convert types values = some values
  | [], _, values, _ => by simp [mapSubjectAll?]
  | type :: types, fixes, values, holds => by
      cases values with
      | nil => exact holds.elim
      | cons value values =>
          simp [mapSubjectAll?,
            mapSubject?_eq_self type
              (fun mentioned => fixes ⟨type, List.mem_cons_self .., mentioned⟩) value holds.1,
            mapSubjectAll?_eq_self types
              (fun ⟨later, member, mentioned⟩ =>
                fixes ⟨later, List.mem_cons_of_mem _ member, mentioned⟩) values holds.2]

end

mutual

theorem mapSubject_mapSubject :
    (type : TypeExpr) → (value : Value Atom) →
      mapSubject later type (mapSubject convert type value)
        = mapSubject (later ∘ convert) type value
  | .identifier name, value => by by_cases isSelf : name = selfType <;> simp [mapSubject, isSelf]
  | .generic .., value => by simp [mapSubject]
  | .function .., value => by simp [mapSubject]
  | .tuple elements, value => by
      cases value with
      | tuple values => simp [mapSubject, mapSubjectAll_mapSubjectAll elements values]
      | _ => simp [mapSubject]
  | .optional inner, value => by
      cases value with
      | present value => simp [mapSubject, mapSubject_mapSubject inner value]
      | _ => simp [mapSubject]

theorem mapSubjectAll_mapSubjectAll :
    (types : List TypeExpr) → (values : List (Value Atom)) →
      mapSubjectAll later types (mapSubjectAll convert types values)
        = mapSubjectAll (later ∘ convert) types values
  | [], values => by simp [mapSubjectAll]
  | type :: types, values => by
      cases values with
      | nil => simp [mapSubjectAll]
      | cons value values =>
          simp [mapSubjectAll, mapSubject_mapSubject type value,
            mapSubjectAll_mapSubjectAll types values]

end

mutual

theorem holds_mapSubject :
    (type : TypeExpr) →
      (type.mentions SubjectNames.primary = true →
        ∀ value, source value → target (convert value)) →
      (value : Value Atom) → Holds fixed source type value →
      Holds fixed target type (mapSubject convert type value)
  | .identifier name, maps, value, holds => by
      by_cases isSelf : name = selfType
      · simp only [Holds, mapSubject, isSelf, if_true] at holds ⊢
        exact maps ((mentions_identifier name).mpr isSelf) value holds
      · simpa [Holds, mapSubject, isSelf] using holds
  | .generic .., _, value, holds => by simpa [Holds, mapSubject] using holds
  | .function .., _, value, holds => by simpa [Holds, mapSubject] using holds
  | .tuple elements, maps, value, holds => by
      cases value with
      | tuple values =>
          exact holdsAll_mapSubjectAll elements
            (fun mentioned => maps (mentions_tuple.mpr mentioned)) values holds
      | _ => exact holds.elim
  | .optional inner, maps, value, holds => by
      cases value with
      | absent => trivial
      | present value => exact holds_mapSubject inner maps value holds
      | _ => exact holds.elim

theorem holdsAll_mapSubjectAll :
    (types : List TypeExpr) →
      ((∃ type ∈ types, type.mentions SubjectNames.primary = true) →
        ∀ value, source value → target (convert value)) →
      (values : List (Value Atom)) → HoldsAll fixed source types values →
      HoldsAll fixed target types (mapSubjectAll convert types values)
  | [], _, values, holds => by
      cases values with
      | nil => trivial
      | cons => exact holds.elim
  | type :: types, maps, values, holds => by
      cases values with
      | nil => exact holds.elim
      | cons value values =>
          exact ⟨holds_mapSubject type
              (fun mentioned => maps ⟨type, List.mem_cons_self .., mentioned⟩) value holds.1,
            holdsAll_mapSubjectAll types
              (fun ⟨later, member, mentioned⟩ =>
                maps ⟨later, List.mem_cons_of_mem _ member, mentioned⟩) values holds.2⟩

end

theorem length_of_holdsAll {types : List TypeExpr} {values : List (Value Atom)}
    (holds : HoldsAll fixed source types values) : values.length = types.length := by
  induction types generalizing values with
  | nil =>
      cases values with
      | nil => rfl
      | cons => exact holds.elim
  | cons type types inductionHypothesis =>
      cases values with
      | nil => exact holds.elim
      | cons value values => simp [inductionHypothesis holds.2]

end TypeExpr

end InterfaceWitness
