import InterfaceWitness.Proofs.Emission
import InterfaceWitness.Proofs.Surface.Path

/-!
What the fields of a witness are called.  The fields of requirements are names;
that of a nested witness is the associated type in snake case, which is checked
nowhere.
-/

namespace InterfaceWitness

namespace Surface

variable {text : String}

theorem ofSource?_of_isWord (isWord : isWord text = true) :
    Token.ofSource? text = some [.identifier text] := by
  have spelled : pathText false [text] = text := by simp [pathText]
  have single : nameTokens false [text] = [.identifier text] := by
    simp [nameTokens, Token.separatedNames]
  have read : Token.ofSource? (pathText false [text]) = some (nameTokens false [text]) :=
    ofSource?_pathText (by simp) (by simpa using isWord)
  rwa [spelled, single] at read

/-- A text in which nothing vanishes is a name if it is a word and no keyword. -/
theorem readsAsName_iff (unbroken : Token.Unbroken text.toList) :
    readsAsName text = true ↔ isWord text = true ∧ text ∉ keywords := by
  constructor
  · intro reads
    have isWord := (isWord_iff_unbroken reads).mpr unbroken
    obtain ⟨word, read, named⟩ := readsAsName_eq_true.mp reads
    obtain rfl : text = word := by simpa [ofSource?_of_isWord isWord] using read
    exact ⟨isWord, named⟩
  · rintro ⟨isWord, named⟩
    exact readsAsName_eq_true.mpr ⟨text, ofSource?_of_isWord isWord, named⟩

/-- Only the sign of a raw word tells it from a plain one. -/
theorem isWord_iff_isPlainWord (noSign : '#' ∉ text.toList) :
    isWord text = true ↔ Token.IsPlainWord text.toList := by
  rw [isWord_eq_true]
  constructor
  · rintro (plain | ⟨rest, raw, _⟩)
    · exact plain
    · rw [raw] at noSign
      exact absurd (List.mem_cons_of_mem _ (List.mem_cons_self ..)) noSign
  · exact .inl

/-- Whether a text is read as a name and printed as it stands. -/
def NamesField (text : String) : Prop :=
  readsAsName text = true ∧ isWord text = true

instance (text : String) : Decidable (NamesField text) :=
  inferInstanceAs (Decidable (_ ∧ _))

/-- Why a text in snake case names no field. -/
inductive Misnames (text : String) : Prop where
  | empty : text = "" → Misnames text
  | start {first : Char} {rest : List Char} : text.toList = first :: rest →
      Text.isIdentifierStart first = false → Misnames text
  | continuation {first char : Char} {rest : List Char} : text.toList = first :: rest →
      char ∈ rest → Text.isIdentifierContinue char = false → Misnames text
  | keyword : text ∈ keywords → Misnames text

theorem not_misnames_iff :
    ¬Misnames text ↔ Token.IsPlainWord text.toList ∧ text ∉ keywords := by
  constructor
  · intro fits
    refine ⟨?_, fun isKeyword => fits (.keyword isKeyword)⟩
    cases spelled : text.toList with
    | nil => exact absurd (.empty (String.toList_eq_nil_iff.mp spelled)) fits
    | cons first rest =>
        constructor
        · by_contra refused
          exact fits (.start spelled (Bool.eq_false_iff.mpr refused))
        · intro char member
          by_contra refused
          exact fits (.continuation spelled member (Bool.eq_false_iff.mpr refused))
  · rintro ⟨isWord, named⟩ misnames
    cases misnames with
    | empty isEmpty => simp [isEmpty, Token.IsPlainWord] at isWord
    | start spelled refused =>
        rw [spelled] at isWord
        exact Bool.eq_false_iff.mp refused isWord.1
    | continuation spelled member refused =>
        rw [spelled] at isWord
        exact Bool.eq_false_iff.mp refused (isWord.2 _ member)
    | keyword isKeyword => exact named isKeyword

/-- There is no other reason. -/
theorem namesField_snakeCase_iff (name : String) :
    NamesField (Text.snakeCase name) ↔ ¬Misnames (Text.snakeCase name) := by
  rw [not_misnames_iff, ← isWord_iff_isPlainWord (Text.numberSign_not_mem_snakeCase name),
    NamesField, readsAsName_iff (Token.unbroken_snakeCase name), and_right_comm, and_self]

end Surface

namespace Interface

variable {interface : Interface} {config : Config} {spec : WitnessSpec}

open Surface

/-- Every field of an accepted interface is called by a word that reads as a
name, unless it is a nested witness whose associated type has no such word in
snake case. -/
theorem namesField_of_emit (emitted : interface.emit config = .ok spec) :
    ∀ field ∈ spec.fields, (NamesField field.name ↔ ¬Misnames field.name) ∧
      (Misnames field.name → ∃ associated ∈ interface.associatedTypes, ∃ constraint,
        associated.constraint = some constraint ∧ field = ⟨Text.snakeCase associated.name,
          .nested constraint (witnessName constraint) associated.name⟩) := by
  intro field member
  obtain ⟨named, rfl⟩ := emit_eq_ok emitted
  rcases mem_fields.mp member with
    ⟨associated, declared, constraint, constrained, rfl⟩ | ⟨requirement, required, rfl⟩
  · exact ⟨namesField_snakeCase_iff associated.name,
      fun _ => ⟨associated, declared, constraint, constrained, rfl⟩⟩
  · refine ⟨namesField_snakeCase_iff requirement.name, fun misnames => ?_⟩
    have reads := named.functions requirement required
    have isWord := (readsAsName_iff (Token.unbroken_snakeCase requirement.name)).mp reads
    exact absurd misnames ((namesField_snakeCase_iff requirement.name).mp ⟨reads, isWord.1⟩)

theorem namesField_of_emit_container :
    let container : Interface :=
      { name := "Container"
        access := .exported
        requirements := [.method
          { name := "firstItem"
            parameters := []
            receiver := .borrowed
            generics := []
            output := some (.optional (.identifier "Self::Item")) }]
        associatedTypes := [⟨"Item", none⟩, ⟨"r#type", some "Printable"⟩, ⟨"_2D", some "Plane"⟩]
        options := {} }
    let spec := container.witness {}
    container.emit {} = .ok spec ∧
      (∀ field ∈ spec.fields, (NamesField field.name ↔ ¬Misnames field.name) ∧
        (Misnames field.name → ∃ associated ∈ container.associatedTypes, ∃ constraint,
          associated.constraint = some constraint ∧ field = ⟨Text.snakeCase associated.name,
            .nested constraint (witnessName constraint) associated.name⟩)) ∧
      spec.constructorParameters = ["r_type", "2d", "first_item"] := by
  intro container spec
  have emitted : container.emit {} = .ok spec := by decide +kernel
  exact ⟨emitted, namesField_of_emit emitted, by decide +kernel⟩

/-- An associated type that is called like a keyword but for its capital gives
its nested witness a keyword for a name. -/
theorem keyword_names_nested_field :
    let config : Config := {}
    let typed : Interface := ⟨"X", .unmarked, [], [⟨"Type", some "Y"⟩], {}⟩
    config.validate = .ok () ∧ typed.emit config = .ok (typed.witness config) ∧
      ∃ field ∈ (typed.witness config).fields, field.name = "type" ∧
        ¬NamesField field.name := by
  intro config typed
  exact ⟨by decide +kernel, by decide +kernel, _, List.mem_cons_self .., by decide +kernel,
    by decide +kernel⟩

end Interface

end InterfaceWitness
