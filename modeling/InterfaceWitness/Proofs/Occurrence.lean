import InterfaceWitness.Proofs.Transform.Votes

/-!
Which subjects the analysis finds in a type: exactly those that occur in it,
however deep, by their names or as projections from `Self`.
-/

namespace InterfaceWitness

/-- Whether a name is spelled as a projection from `Self`. -/
def SpellsProjection (name : String) : Prop := (selfType ++ "::").toList <+: name.toList

instance (name : String) : Decidable (SpellsProjection name) :=
  inferInstanceAs (Decidable (_ <+: _))

theorem spellsProjection_projection (name : String) :
    SpellsProjection (selfType ++ "::" ++ name) := by
  rw [SpellsProjection, String.toList_append (s := selfType ++ "::")]
  exact List.prefix_append ..

namespace TypeExpr

variable {type : TypeExpr} {names : SubjectNames} {subject : String}

theorem involves_singleton_iff : type.Involves [subject] ↔
    ∃ node ∈ type.nodes, namesSubject node.name subject = true := by
  simp only [involves_iff, List.mem_singleton, exists_eq_left]

/-- The analysis resolves a name to one subject only.  Where no subject is
spelled as a projection, that is the one subject that the name stands for, and
none that occurs in the type is missed. -/
theorem mem_subjects_iff_involves (plain : ∀ name ∈ names, ¬SpellsProjection name) :
    ∀ subject, subject ∈ type.subjects names ↔ subject ∈ names ∧ type.Involves [subject] := by
  intro subject
  have apart : SubjectNames.Apart names.toList := by
    apply SubjectNames.apart_of_ne_projection
    rintro first isSubject second rfl
    exact plain _ (Std.TreeSet.mem_toList.mp isSubject) (spellsProjection_projection second)
  simp only [mem_subjects_iff, involves_singleton_iff, SubjectNames.resolve?_eq_some_iff apart,
    ← exists_and_left, and_left_comm]

theorem mem_subjects_iff_involves_archive :
    let names : SubjectNames := Std.TreeSet.ofList ["Self", "Format", "Unused"]
    let archive : TypeExpr := .tuple [.generic "Vec" [.optional (.identifier "Self")],
      .function [.generic "Self::Format" [.identifier "u8"]] (some (.identifier "Selfish"))]
    (∀ name ∈ names, ¬SpellsProjection name) ∧
      ("Format" ∈ archive.subjects names ↔ "Format" ∈ names ∧ archive.Involves ["Format"]) ∧
      (archive.subjects names).toList = ["Format", "Self"] := by
  intro names archive
  have plain : ∀ name ∈ names, ¬SpellsProjection name := by
    have listed : ∀ name ∈ names.toList, ¬SpellsProjection name := by decide +kernel
    exact fun name member => listed name (Std.TreeSet.mem_toList.mpr member)
  exact ⟨plain, mem_subjects_iff_involves plain "Format", by decide +kernel⟩

end TypeExpr

end InterfaceWitness
