import InterfaceWitness.Proofs.Emission
import InterfaceWitness.Proofs.Token.Word

/-!
Which generated witnesses can be printed.  Names are checked by reading them,
which overlooks blanks and comments, and the names of nested witnesses are not
checked at all.
-/

namespace InterfaceWitness

theorem Config.validate_eq_ok_iff {config : Config} : config.validate = .ok () ↔
    Surface.readsAsName config.subject = true ∧ Surface.readsAsName config.target = true ∧
      config.subject ≠ config.target ∧ ∃ path, config.runtimePath = .ok path := by
  simp only [validate, refuse_eq_ok_iff, Bool.not_eq_true', Bool.not_eq_false]
  cases config.runtimePath <;> simp [throw, throwThe, MonadExceptOf.throw]

theorem Config.validate_eq_ok {config : Config} (valid : config.validate = .ok ()) :
    Surface.readsAsName config.subject = true ∧ Surface.readsAsName config.target = true := by
  obtain ⟨subject, target, -⟩ := validate_eq_ok_iff.mp valid
  exact ⟨subject, target⟩

theorem isWord_witnessName {name : String} (reads : Surface.readsAsName name = true) :
    Surface.isWord (witnessName name) = true ↔ Token.Unbroken name.toList :=
  Surface.isWord_append_iff reads (by decide) (by decide)

theorem isWord_snakeCase {name : String}
    (reads : Surface.readsAsName (Text.snakeCase name) = true) :
    Surface.isWord (Text.snakeCase name) = true :=
  (Surface.isWord_iff_unbroken reads).mpr (Token.unbroken_snakeCase name)

theorem Code.WitnessCode.isWord_foldName {field : String} (isWord : Surface.isWord field = true) :
    Surface.isWord (foldName field) = true := by
  rw [Surface.isWord_eq_true] at isWord ⊢
  rw [foldName, String.toList_append]
  exact isWord.append (List.all_eq_true.mp (by decide)) (by decide)

/-- A requirement is passed on by its own name. -/
theorem Code.conformingArgument_function (name : String) (function : FunctionField) :
    conformingArgument ⟨name, .function function⟩ = .constant function.requirement ∨
      ∃ arguments, conformingArgument ⟨name, .function function⟩
        = .call function.requirement arguments := by
  cases access : function.member <;> simp [conformingArgument, access]

namespace Interface

/-- The words that the witness of an interface is printed with. -/
inductive Prints (interface : Interface) (config : Config) : String → Prop where
  | witness : Prints interface config (witnessName interface.name)
  | target : Prints interface config config.target
  | subject : Prints interface config config.subject
  | associated {name : String} (retained : name ∈ interface.retainedTypes) :
      Prints interface config name
  | nestedField {associated : AssociatedType} {constraint : String}
      (member : associated ∈ interface.associatedTypes)
      (constrained : associated.constraint = some constraint) :
      Prints interface config (Text.snakeCase associated.name)
  | nestedWitness {associated : AssociatedType} {constraint : String}
      (member : associated ∈ interface.associatedTypes)
      (constrained : associated.constraint = some constraint) :
      Prints interface config (witnessName constraint)
  | field {requirement : Requirement} (member : requirement ∈ interface.requirements) :
      Prints interface config (Text.snakeCase requirement.name)
  | fold {requirement : Requirement} (utilities : interface.options.utilities = true)
      (member : requirement ∈ interface.requirements)
      (binary : Code.isBinaryOperation
        (requirement.function (SubjectNames.ofInterface interface)) = true) :
      Prints interface config (Code.WitnessCode.foldName (Text.snakeCase requirement.name))
  | interface (conformance : interface.options.conformance = true) :
      Prints interface config interface.name
  | requirement {requirement : Requirement} (conformance : interface.options.conformance = true)
      (member : requirement ∈ interface.requirements) : Prints interface config requirement.name

variable {interface : Interface} {config : Config} {definitions : List TransformDef}
  {generated : Generated} {associated : AssociatedType} {requirement : Requirement}
  {constraint name word : String}

theorem mem_retainedTypes_of_constraint (member : associated ∈ interface.associatedTypes)
    (constrained : associated.constraint = some constraint) :
    associated.name ∈ interface.retainedTypes := by
  refine List.mem_map_of_mem (List.mem_filter.mpr ⟨member, ?_⟩)
  simp [constrained]

theorem exists_of_mem_retainedTypes (retained : name ∈ interface.retainedTypes) :
    ∃ associated ∈ interface.associatedTypes, associated.name = name := by
  obtain ⟨associated, kept, named⟩ := List.mem_map.mp retained
  exact ⟨associated, (List.mem_filter.mp kept).1, named⟩

theorem mem_functionFields_witness {entry : String × FunctionField} :
    entry ∈ (interface.witness config).functionFields ↔ ∃ requirement ∈ interface.requirements,
      entry = (Text.snakeCase requirement.name,
        requirement.function (SubjectNames.ofInterface interface)) := by
  simp only [WitnessSpec.functionFields, witness, List.mem_filterMap, mem_fields]
  constructor
  · rintro ⟨_, ⟨associated, _, constraint, _, rfl⟩ | ⟨requirement, member, rfl⟩, made⟩
    · simp at made
    · exact ⟨requirement, member, (Option.some.inj made).symm⟩
  · rintro ⟨requirement, member, rfl⟩
    exact ⟨_, .inr ⟨requirement, member, rfl⟩, rfl⟩

theorem prints_of_mem_wordsUsed
    (used : word ∈
      (Code.WitnessCode.ofSpec (interface.witness config) definitions config).wordsUsed) :
    interface.Prints config word := by
  simp only [Code.WitnessCode.wordsUsed, Code.WitnessCode.ofSpec, List.mem_append,
    List.mem_cons, List.mem_flatMap] at used
  rcases used with ((((rfl | rfl | parameter) | ⟨field, declared, used⟩) | folded) | conforming)
  · exact .witness
  · exact .target
  · rcases List.mem_cons.mp parameter with rfl | retained
    · exact .subject
    · exact .associated retained
  · rcases mem_fields.mp declared with
      ⟨associated, member, constraint, constrained, rfl⟩ | ⟨requirement, member, rfl⟩
    · simp only [List.mem_cons, List.not_mem_nil, or_false] at used
      rcases used with rfl | rfl | rfl
      · exact .nestedField member constrained
      · exact .nestedWitness member constrained
      · exact .associated (mem_retainedTypes_of_constraint member constrained)
    · simp only [List.not_mem_nil, or_false] at used
      exact used ▸ .field member
  · split at folded
    case h_2 => simp at folded
    case h_1 utilities enabled =>
      obtain ⟨on, made⟩ := Option.ite_none_right_eq_some.mp enabled
      obtain rfl := Option.some.inj made
      simp only [List.mem_map, List.mem_filter] at folded
      obtain ⟨_, ⟨entry, ⟨isFunction, binary⟩, rfl⟩, rfl⟩ := folded
      obtain ⟨requirement, member, rfl⟩ := mem_functionFields_witness.mp isFunction
      exact .fold on member binary
  · split at conforming
    case h_2 => simp at conforming
    case h_1 conformance enabled =>
      obtain ⟨on, made⟩ := Option.ite_none_right_eq_some.mp enabled
      obtain rfl := Option.some.inj made
      simp only [List.mem_cons, List.mem_flatMap, List.mem_map] at conforming
      rcases conforming with rfl | ⟨_, ⟨field, declared, rfl⟩, passed⟩
      · exact .interface on
      · rcases mem_fields.mp declared with
          ⟨associated, member, constraint, constrained, rfl⟩ | ⟨requirement, member, rfl⟩
        · simp only [Code.conformingArgument, List.mem_cons, List.not_mem_nil, or_false] at passed
          rcases passed with rfl | rfl
          · exact .nestedWitness member constrained
          · exact .associated (mem_retainedTypes_of_constraint member constrained)
        · rcases Code.conformingArgument_function (Text.snakeCase requirement.name)
              (requirement.function (SubjectNames.ofInterface interface))
            with equal | ⟨arguments, equal⟩
          all_goals
            rw [equal] at passed
            obtain rfl := List.mem_singleton.mp passed
            exact .requirement on member

theorem mem_wordsUsed_of_prints (prints : interface.Prints config word) :
    word ∈ (Code.WitnessCode.ofSpec (interface.witness config) definitions config).wordsUsed := by
  simp only [Code.WitnessCode.wordsUsed, Code.WitnessCode.ofSpec, List.mem_append,
    List.mem_cons, List.mem_flatMap]
  cases prints with
  | witness => exact .inl (.inl (.inl (.inl rfl)))
  | target => exact .inl (.inl (.inl (.inr (.inl rfl))))
  | subject => exact .inl (.inl (.inl (.inr (.inr (List.mem_cons_self ..)))))
  | associated retained =>
      exact .inl (.inl (.inl (.inr (.inr (List.mem_cons_of_mem _ retained)))))
  | nestedField member constrained =>
      have declared := mem_fields.mpr (.inl ⟨_, member, _, constrained, rfl⟩)
      exact .inl (.inl (.inr ⟨_, declared, .inl rfl⟩))
  | nestedWitness member constrained =>
      have declared := mem_fields.mpr (.inl ⟨_, member, _, constrained, rfl⟩)
      exact .inl (.inl (.inr ⟨_, declared, .inr (List.mem_cons_self ..)⟩))
  | field member =>
      have declared := mem_fields.mpr (.inr ⟨_, member, rfl⟩)
      exact .inl (.inl (.inr ⟨_, declared, .inl rfl⟩))
  | fold utilities member binary =>
      refine .inl (.inr ?_)
      have on : (interface.witness config).options.utilities = true := utilities
      simp only [on, if_true, List.mem_map, List.mem_filter]
      exact ⟨_, ⟨_, ⟨mem_functionFields_witness.mpr ⟨_, member, rfl⟩, binary⟩, rfl⟩, rfl⟩
  | interface conformance =>
      refine .inr ?_
      have on : (interface.witness config).options.conformance = true := conformance
      simp only [on, if_true]
      exact List.mem_cons_self ..
  | requirement conformance member =>
      refine .inr ?_
      have on : (interface.witness config).options.conformance = true := conformance
      simp only [on, if_true, List.mem_cons, List.mem_flatMap, List.mem_map]
      refine .inr ⟨_, ⟨_, mem_fields.mpr (.inr ⟨_, member, rfl⟩), rfl⟩, ?_⟩
      rcases Code.conformingArgument_function _ _ with equal | ⟨arguments, equal⟩
      all_goals
        rw [equal]
        exact List.mem_singleton.mpr rfl

theorem mem_wordsUsed_witness :
    word ∈ (Code.WitnessCode.ofSpec (interface.witness config) definitions config).wordsUsed ↔
      interface.Prints config word :=
  ⟨prints_of_mem_wordsUsed, mem_wordsUsed_of_prints⟩

theorem isSome_tokens_iff_words :
    (Generated.tokens? ⟨interface.witness config, definitions, config⟩).isSome = true ↔
      ∀ word, interface.Prints config word → Surface.isWord word = true := by
  rw [Generated.tokens?, Option.isSome_ite, Code.WitnessCode.printable, List.all_eq_true]
  exact forall_congr' fun word => by rw [Generated.code, mem_wordsUsed_witness]

/-- What printing the witness of an interface takes beyond the checks. -/
structure Printable (interface : Interface) (config : Config) : Prop where
  subject : Token.Unbroken config.subject.toList
  target : Token.Unbroken config.target.toList
  name : Token.Unbroken interface.name.toList
  associated : ∀ name ∈ interface.retainedTypes, Token.Unbroken name.toList
  constraints : ∀ associated ∈ interface.associatedTypes, ∀ constraint ∈ associated.constraint,
    Token.Unbroken constraint.toList ∧ Surface.isWord (Text.snakeCase associated.name) = true
  requirements : interface.options.conformance = true →
    ∀ requirement ∈ interface.requirements, Token.Unbroken requirement.name.toList

theorem Printable.of_words (named : interface.Named) (valid : config.validate = .ok ())
    (words : ∀ word, interface.Prints config word → Surface.isWord word = true) :
    interface.Printable config where
  subject := (Surface.isWord_iff_unbroken (Config.validate_eq_ok valid).1).mp (words _ .subject)
  target := (Surface.isWord_iff_unbroken (Config.validate_eq_ok valid).2).mp (words _ .target)
  name := (isWord_witnessName named.name).mp (words _ .witness)
  associated name retained := by
    obtain ⟨associated, member, rfl⟩ := exists_of_mem_retainedTypes retained
    exact (Surface.isWord_iff_unbroken (named.associated associated member)).mp
      (words _ (.associated retained))
  constraints associated member constraint constrained :=
    ⟨(isWord_witnessName (named.constraints associated member constraint constrained)).mp
      (words _ (.nestedWitness member constrained)), words _ (.nestedField member constrained)⟩
  requirements conformance requirement member :=
    (Surface.isWord_iff_unbroken (named.requirements requirement member)).mp
      (words _ (.requirement conformance member))

theorem Printable.isWord (printable : interface.Printable config) (named : interface.Named)
    (valid : config.validate = .ok ()) (prints : interface.Prints config word) :
    Surface.isWord word = true := by
  cases prints with
  | witness => exact (isWord_witnessName named.name).mpr printable.name
  | target =>
      exact (Surface.isWord_iff_unbroken (Config.validate_eq_ok valid).2).mpr printable.target
  | subject =>
      exact (Surface.isWord_iff_unbroken (Config.validate_eq_ok valid).1).mpr printable.subject
  | associated retained =>
      obtain ⟨associated, member, rfl⟩ := exists_of_mem_retainedTypes retained
      exact (Surface.isWord_iff_unbroken (named.associated associated member)).mpr
        (printable.associated _ retained)
  | nestedField member constrained => exact (printable.constraints _ member _ constrained).2
  | nestedWitness member constrained =>
      exact (isWord_witnessName (named.constraints _ member _ constrained)).mpr
        (printable.constraints _ member _ constrained).1
  | field member => exact isWord_snakeCase (named.functions _ member)
  | fold _ member _ =>
      exact Code.WitnessCode.isWord_foldName (isWord_snakeCase (named.functions _ member))
  | interface _ => exact (Surface.isWord_iff_unbroken named.name).mpr printable.name
  | requirement conformance member =>
      exact (Surface.isWord_iff_unbroken (named.requirements _ member)).mpr
        (printable.requirements conformance _ member)

/-- A generated witness can be printed exactly where no name that is printed as
it was given has anything around it that reading drops, and every nested
witness has a word for its field. -/
theorem isSome_tokens_iff (valid : config.validate = .ok ())
    (ok : interface.generate config = .ok generated) :
    generated.tokens?.isSome = true ↔ interface.Printable config := by
  obtain ⟨named, definitions, _, rfl⟩ := generate_eq_ok ok
  rw [isSome_tokens_iff_words]
  exact ⟨Printable.of_words named valid, fun printable _ => printable.isWord named valid⟩

/-- A blank in front of the target's name passes every check. -/
theorem unprintable_spaced_target :
    let config : Config := { target := " B" }
    let plain : Interface := ⟨"X", .unmarked, [], [], {}⟩
    config.validate = .ok () ∧ plain.generate config = .ok ⟨plain.witness config, [], config⟩ ∧
      Generated.tokens? ⟨plain.witness config, [], config⟩ = none := by
  refine ⟨?_, ?_, ?_⟩ <;> decide +kernel

theorem isSome_tokens_iff_merging :
    let merging : Interface :=
      { name := "Merging"
        access := .exported
        requirements := [.method
          { name := "mergeInto"
            parameters := [⟨"other", .identifier "Self", .owned⟩]
            receiver := .borrowed
            generics := []
            output := some (.identifier "Self") }]
        associatedTypes := [⟨"Step", some "Stepping"⟩]
        options := { utilities := true, conformance := true } }
    ∃ generated, Config.validate {} = .ok () ∧ merging.generate {} = .ok generated ∧
      (generated.tokens?.isSome = true ↔ merging.Printable {}) ∧ merging.Printable {} := by
  intro merging
  have valid : Config.validate {} = .ok () := by decide +kernel
  have ok : merging.generate {} = .ok ⟨merging.witness {}, [⟨.iso, none, [⟨"step", .nested⟩,
        ⟨"merge_into", .rebuild [.pullBack, .pullBack] .map⟩], false⟩], {}⟩ := by
    decide +kernel
  have printed := isSome_tokens_iff valid ok
  exact ⟨_, valid, ok, printed, printed.mp (by decide +kernel)⟩

end Interface

end InterfaceWitness
