import InterfaceWitness.Proofs.Emission
import InterfaceWitness.Proofs.Token.Scanning

/-!
A name stands for one subject at most, so that the analysis of an interface and
the scope of its witness resolve names alike.
-/

namespace InterfaceWitness

open Surface (readsAsName)

variable {name subject : String} {subjects : List String}

theorem namesSubject_iff :
    namesSubject name subject = true ↔
      name = subject ∨ subject ≠ selfType ∧ name = selfType ++ "::" ++ subject := by
  simp [namesSubject]

/-- A projection from the subject is no name: its first word is a keyword. -/
theorem readsAsName_projection (name : String) :
    readsAsName (selfType ++ "::" ++ name) = false := by
  have text : (selfType ++ "::" ++ name).toList
      = ['S', 'e', 'l', 'f'] ++ ':' :: ':' :: name.toList := by
    simp [selfType]
  have continues : ['e', 'l', 'f'].all Text.isIdentifierContinue = true := by decide
  have isPlain : Token.IsPlainWord ['S', 'e', 'l', 'f'] :=
    ⟨by decide, List.all_eq_true.mp continues⟩
  have first : Token.word (['S', 'e', 'l', 'f'] ++ ':' :: ':' :: name.toList)
      = some (['S', 'e', 'l', 'f'], ':' :: ':' :: name.toList) :=
    Token.plainWord_of_endsWord isPlain Token.endsWord_colon
  unfold readsAsName
  split
  case h_2 => rfl
  case h_1 spelled read =>
    obtain ⟨after, found⟩ := Token.word_of_ofSource? read (by simp [text]; decide)
    rw [text] at found
    obtain rfl : spelled = selfType := by
      have equal := (Prod.mk.inj (Option.some.inj (found.symm.trans first))).1
      rw [← String.ofList_toList (s := spelled), equal]
      rfl
    decide

theorem readsAsName_selfType : readsAsName selfType = false := by decide +kernel

namespace SubjectNames

/-- Subjects of which no two are what one name stands for. -/
def Apart (subjects : List String) : Prop :=
  ∀ name, ∀ first ∈ subjects, ∀ second ∈ subjects,
    namesSubject name first = true → namesSubject name second = true → first = second

theorem Apart.of_subset {others : List String} (apart : Apart subjects)
    (subset : others ⊆ subjects) : Apart others :=
  fun name first isFirst second isSecond =>
    apart name first (subset isFirst) second (subset isSecond)

/-- Names are apart if none of them reads as a projection from the subject. -/
theorem apart_of_ne_projection
    (plain : ∀ first ∈ subjects, ∀ second, first ≠ selfType ++ "::" ++ second) :
    Apart subjects := by
  intro name first isFirst second isSecond namesFirst namesSecond
  rcases namesSubject_iff.mp namesFirst with rfl | ⟨-, rfl⟩
  · rcases namesSubject_iff.mp namesSecond with rfl | ⟨-, projected⟩
    · rfl
    · exact absurd projected (plain _ isFirst _)
  · rcases namesSubject_iff.mp namesSecond with projected | ⟨-, projected⟩
    · exact absurd projected.symm (plain _ isSecond _)
    · simpa using projected

theorem apart_of_readsAsName
    (reads : ∀ subject ∈ subjects, subject = selfType ∨ readsAsName subject = true) :
    Apart subjects := by
  apply apart_of_ne_projection
  rintro first isSubject second rfl
  rcases reads _ isSubject with isSelf | isName
  · have spelled := congrArg String.toList isSelf
    simp [selfType] at spelled
  · simp [readsAsName_projection] at isName

theorem find?_eq_some_iff (apart : Apart subjects) :
    subjects.find? (namesSubject name) = some subject ↔
      subject ∈ subjects ∧ namesSubject name subject = true := by
  constructor
  · exact fun found => ⟨List.mem_of_find?_eq_some found, List.find?_some found⟩
  · rintro ⟨member, names⟩
    cases found : subjects.find? (namesSubject name) with
    | none => exact absurd names (by simpa using List.find?_eq_none.mp found subject member)
    | some other =>
        rw [apart name other (List.mem_of_find?_eq_some found) subject member
          (List.find?_some found) names]

theorem resolve?_eq_some_iff {names : SubjectNames} (apart : Apart names.toList) :
    names.resolve? name = some subject ↔ subject ∈ names ∧ namesSubject name subject = true := by
  rw [resolve?, find?_eq_some_iff apart, Std.TreeSet.mem_toList]

theorem resolve?_ofList_eq_some_iff (apart : Apart subjects) :
    (Std.TreeSet.ofList subjects : SubjectNames).resolve? name = some subject ↔
      subject ∈ subjects ∧ namesSubject name subject = true := by
  have same : ∀ other, other ∈ (Std.TreeSet.ofList subjects : SubjectNames).toList ↔
      other ∈ subjects := by simp
  rw [resolve?_eq_some_iff (apart.of_subset fun other member => (same other).mp member),
    ← Std.TreeSet.mem_toList, same]

end SubjectNames

/-- A subject occurs in a type where some node is resolved to it. -/
theorem TypeExpr.mem_subjects_iff {type : TypeExpr} {names : SubjectNames} :
    subject ∈ type.subjects names ↔
      ∃ node ∈ type.nodes, names.resolve? node.name = some subject := by
  simp only [subjects, Std.TreeSet.mem_ofList, List.contains_eq_mem, decide_eq_true_eq,
    List.mem_filterMap]

namespace Interface

variable {interface : Interface} {requirement : Requirement} {type : TypeExpr} {node : NamedNode}

theorem Named.apart (named : interface.Named) :
    SubjectNames.Apart (selfType :: interface.associatedTypes.map AssociatedType.name) := by
  refine SubjectNames.apart_of_readsAsName fun subject member => ?_
  rcases List.mem_cons.mp member with isSelf | isAssociated
  · exact .inl isSelf
  · obtain ⟨associated, declared, rfl⟩ := List.mem_map.mp isAssociated
    exact .inr (named.associated associated declared)

theorem ne_selfType_of_mem_associatedTypes (named : interface.Named)
    (member : name ∈ interface.associatedTypes.map AssociatedType.name) : name ≠ selfType := by
  rintro rfl
  obtain ⟨associated, declared, isSelf⟩ := List.mem_map.mp member
  have reads := named.associated associated declared
  simp [isSelf, readsAsName_selfType] at reads

/-- An associated type that a requirement mentions is a parameter of the
witness. -/
theorem mem_retainedTypes_of_resolve? (named : interface.Named)
    (required : requirement ∈ interface.requirements) (isType : type ∈ requirement.types)
    (member : node ∈ type.nodes)
    (resolved : (SubjectNames.ofInterface interface).resolve? node.name = some subject)
    (associated : subject ≠ selfType) : subject ∈ interface.retainedTypes := by
  obtain ⟨isSubject, names⟩ := (SubjectNames.resolve?_ofList_eq_some_iff named.apart).mp resolved
  have isAssociated := (List.mem_cons.mp isSubject).resolve_left associated
  have again : (Std.TreeSet.ofList (interface.associatedTypes.map AssociatedType.name) :
      SubjectNames).resolve? node.name = some subject :=
    (SubjectNames.resolve?_ofList_eq_some_iff
      (named.apart.of_subset (List.subset_cons_self ..))).mpr ⟨isAssociated, names⟩
  obtain ⟨declared, isDeclared, rfl⟩ := List.mem_map.mp isAssociated
  refine List.mem_map_of_mem (List.mem_filter.mpr ⟨isDeclared, ?_⟩)
  simp only [Bool.or_eq_true, Std.TreeSet.contains_ofList, List.contains_eq_mem, decide_eq_true_eq,
    List.mem_flatMap]
  exact .inr ⟨requirement, required, type, isType,
    Std.TreeSet.mem_toList.mpr (TypeExpr.mem_subjects_iff.mpr ⟨node, member, again⟩)⟩

end Interface

end InterfaceWitness
