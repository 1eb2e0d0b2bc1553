import InterfaceWitness.Proofs.Code.Methods
import InterfaceWitness.Proofs.Code.Reports
import InterfaceWitness.Proofs.RuntimePath

/-!
Every path that a witness is printed with has been read before, so that printing
never puts an error in place of a path.
-/

namespace InterfaceWitness

namespace Code

section Templates

variable {kind : TransformKind} {conversion : ConversionParameter} {subject target : String}

theorem ne_conversionParameter (taken : conversion ∈ conversionParameters kind) :
    "compile_error" ≠ conversion.parameter ∧ "compile_error" ≠ conversion.captured := by
  have all : ∀ kind, ∀ conversion ∈ conversionParameters kind,
      "compile_error" ≠ conversion.parameter ∧ "compile_error" ≠ conversion.captured := by
    rintro (_ | _ | _ | _) <;> decide
  exact all kind conversion taken

theorem not_reports_conversion (taken : conversion ∈ conversionParameters kind)
    (subjectOther : "compile_error" ≠ subject) (targetOther : "compile_error" ≠ target) :
    ¬Reports (conversion.tokens subject target) := by
  have other := (ne_conversionParameter taken).1
  have conversionType : ¬Reports (conversionType conversion subject target) := by
    rw [conversionType, Reports, List.mem_append, List.mem_append,
      identifier_mem_functionTrait (by decide)]
    cases conversion.intoSubject <;>
      simp (disch := decide) [subjectOther, targetOther, not_reports_fragment]
  simpa [ConversionParameter.tokens, other, Token.colon] using conversionType

theorem not_reports_setup (taken : conversion ∈ conversionParameters kind) :
    ¬Reports conversion.setup := by
  obtain ⟨parameter, captured⟩ := ne_conversionParameter taken
  simp (disch := decide) [ConversionParameter.setup, parameter, captured, not_reports_fragment,
    Token.semicolon]

theorem not_reports_forwarded {index : Nat} {arguments : List Bool} :
    ∀ item ∈ ConformingArgument.forwarded index arguments, ¬Reports item := by
  induction arguments generalizing index with
  | nil => simp [ConformingArgument.forwarded]
  | cons byReference rest inductionHypothesis =>
      rw [ConformingArgument.forwarded, List.forall_mem_cons]
      refine ⟨?_, inductionHypothesis⟩
      cases byReference <;> simp

end Templates

/-- The names that an argument of the conforming constructor is written with. -/
def ConformingArgument.names : ConformingArgument → List String
  | .nested witness associatedType => [witness, associatedType]
  | .constant member => [member]
  | .call member _ => [member]

theorem ConformingArgument.not_reports {argument : ConformingArgument} {subject interface : String}
    (subjectOther : "compile_error" ≠ subject) (interfaceOther : "compile_error" ≠ interface)
    (names : "compile_error" ∉ argument.names) : ¬Reports (argument.tokens subject interface) := by
  cases argument with
  | nested witness associatedType =>
      simp only [ConformingArgument.names, List.mem_cons, List.not_mem_nil, or_false, not_or]
        at names
      simp (disch := decide) [ConformingArgument.tokens, subjectOther, interfaceOther, names,
        not_reports_fragment]
  | constant member =>
      simp only [ConformingArgument.names, List.mem_singleton] at names
      simp (disch := decide) [ConformingArgument.tokens, subjectOther, interfaceOther, names,
        not_reports_fragment]
  | call member arguments =>
      simp only [ConformingArgument.names, List.mem_singleton] at names
      simpa (disch := decide) [ConformingArgument.tokens, subjectOther, interfaceOther, names,
        not_reports_fragment] using not_reports_forwarded

namespace WitnessCode

/-- No name and no type of a witness has the word that reports an error. -/
structure Silent (code : WitnessCode) : Prop where
  name : "compile_error" ≠ code.name
  target : "compile_error" ≠ code.target
  parameters : "compile_error" ∉ code.scope.parameters
  fieldNames : ∀ field ∈ code.fields, "compile_error" ≠ field.name
  fieldTypes : ∀ field ∈ code.fields, ¬Reports (fieldTypeTokens code.scope field)
  transformers : ∀ transformer ∈ code.transformers, "compile_error" ≠ transformer.name ∧
    ∀ entry ∈ transformer.inits, ¬Reports (entry.2.tokens entry.1)
  folds : ∀ utilities ∈ code.utilities, ∀ field ∈ utilities.folds,
    "compile_error" ≠ field ∧ "compile_error" ≠ foldName field
  runtime : ∀ utilities ∈ code.utilities, ¬Reports utilities.runtime
  conformance : ∀ conformance ∈ code.conformance, "compile_error" ≠ conformance.interface ∧
    ∀ argument ∈ conformance.arguments, "compile_error" ∉ argument.names

namespace Silent

variable {code : WitnessCode}

theorem subject (silent : code.Silent) : "compile_error" ≠ code.scope.subject :=
  fun equal => silent.parameters (equal ▸ List.mem_cons_self ..)

theorem associated (silent : code.Silent) : "compile_error" ∉ code.scope.associated :=
  fun member => silent.parameters (List.mem_cons_of_mem _ member)

theorem fields (silent : code.Silent) : ∀ field ∈ code.fields, "compile_error" ≠ field.name ∧
    ¬Reports (fieldTypeTokens code.scope field) := fun field member =>
  ⟨silent.fieldNames field member, silent.fieldTypes field member⟩

theorem definitionTokens (silent : code.Silent) : ¬Reports code.definitionTokens := by
  simpa (disch := decide) [WitnessCode.definitionTokens, computedDocumentation, silent.name,
    silent.parameters, not_reports_fragment, Token.colon, Token.comma] using silent.fields

theorem cloneTokens (silent : code.Silent) : ¬Reports code.cloneTokens := by
  simpa (disch := decide) [WitnessCode.cloneTokens, ownField, silent.name, silent.parameters,
    not_reports_fragment, Token.colon, Token.comma] using silent.fieldNames

theorem constructorTokens (silent : code.Silent) : ¬Reports code.constructorTokens := by
  simpa (disch := decide) [WitnessCode.constructorTokens, fixedDocumentation, silent.name,
    silent.parameters, not_reports_fragment, Token.comma]
    using And.intro silent.fields silent.fieldNames

theorem transformerTokens (silent : code.Silent) {transformer : Transformer}
    (isTransformer : transformer ∈ code.transformers) :
    ¬Reports (code.transformerTokens transformer) := by
  obtain ⟨name, inits⟩ := silent.transformers transformer isTransformer
  have conversions : ∀ conversion ∈ conversionParameters transformer.kind,
      ¬Reports (conversion.tokens code.scope.subject code.target) := fun _ taken =>
    not_reports_conversion taken silent.subject silent.target
  have setup : ∀ conversion ∈ conversionParameters transformer.kind, ¬Reports conversion.setup :=
    fun _ taken => not_reports_setup taken
  simpa (disch := decide) [WitnessCode.transformerTokens, computedDocumentation, silent.name,
    silent.target, silent.parameters, silent.associated, name, not_reports_fragment, Token.comma]
    using And.intro conversions (And.intro setup fun field init => inits (field, init))

theorem foldTokens (silent : code.Silent) {utilities : Utilities}
    (on : utilities ∈ code.utilities) {field : String} (isFold : field ∈ utilities.folds) :
    ¬Reports (code.foldTokens field) := by
  simp (disch := decide) [WitnessCode.foldTokens, computedDocumentation, ownField, silent.subject,
    silent.folds utilities on field isFold, not_reports_fragment]

theorem utilitiesTokens (silent : code.Silent) {utilities : Utilities}
    (on : utilities ∈ code.utilities) : ¬Reports (code.utilitiesTokens utilities) := by
  have folds : ∀ field ∈ utilities.folds, ¬Reports (code.foldTokens field) := fun _ isFold =>
    silent.foldTokens on isFold
  simpa (disch := decide) [WitnessCode.utilitiesTokens, fixedDocumentation, silent.name,
    silent.subject, silent.parameters, silent.runtime utilities on, not_reports_fragment]
    using folds

theorem conformanceTokens (silent : code.Silent) {conformance : Conformance}
    (on : conformance ∈ code.conformance) : ¬Reports (code.conformanceTokens conformance) := by
  obtain ⟨interface, names⟩ := silent.conformance conformance on
  have arguments : ∀ argument ∈ conformance.arguments,
      ¬Reports (argument.tokens code.scope.subject conformance.interface) :=
    fun argument passed => argument.not_reports silent.subject interface (names argument passed)
  simpa (disch := decide) [WitnessCode.conformanceTokens, fixedDocumentation, silent.name,
    silent.subject, silent.associated, interface, not_reports_fragment, Token.colon] using arguments

theorem tokens (silent : code.Silent) : ¬Reports code.tokens := by
  have utilities : ¬Reports ((code.utilities.map code.utilitiesTokens).getD []) := by
    cases on : code.utilities with
    | none => simp
    | some utilities => exact silent.utilitiesTokens on
  have conformance : ¬Reports ((code.conformance.map code.conformanceTokens).getD []) := by
    cases on : code.conformance with
    | none => simp
    | some conformance => exact silent.conformanceTokens on
  have transformers : ∀ transformer ∈ code.transformers,
      ¬Reports (code.transformerTokens transformer) := fun _ => silent.transformerTokens
  simp only [WitnessCode.tokens, Reports, List.mem_append, List.mem_flatMap, not_or, not_exists,
    not_and]
  exact ⟨⟨⟨⟨⟨silent.definitionTokens, silent.cloneTokens⟩, silent.constructorTokens⟩,
    transformers⟩, utilities⟩, conformance⟩

end Silent

section Used

variable {code : WitnessCode} {field : WitnessField} {function : FunctionField}

theorem mem_wordsUsed_of_parameters {name : String} (member : name ∈ code.scope.parameters) :
    name ∈ code.wordsUsed := by
  simp [wordsUsed, member]

theorem target_mem_wordsUsed : code.target ∈ code.wordsUsed := by
  simp [wordsUsed]

theorem name_mem_wordsUsed (member : field ∈ code.fields) : field.name ∈ code.wordsUsed := by
  simp only [wordsUsed, List.mem_append, List.mem_flatMap]
  exact .inl (.inl (.inr ⟨field, member, List.mem_cons_self ..⟩))

/-- The scopes in which types are printed: that of the witness and that of the
witness which its transformer gives. -/
def scopes (code : WitnessCode) : List Scope :=
  [code.scope, ⟨code.target, code.scope.associated⟩]

theorem mem_wordsUsed_of_scopes {scope : Scope} (isScope : scope ∈ code.scopes) {name : String}
    (member : name ∈ scope.parameters) : name ∈ code.wordsUsed := by
  simp only [scopes, List.mem_cons, List.not_mem_nil, or_false] at isScope
  rcases isScope with rfl | rfl
  · exact mem_wordsUsed_of_parameters member
  · rcases List.mem_cons.mp member with rfl | isAssociated
    · exact target_mem_wordsUsed
    · exact mem_wordsUsed_of_parameters (List.mem_cons_of_mem _ isAssociated)

/-- Whether a node of some field is printed as a path. -/
def PrintsPath (code : WitnessCode) (node : NamedNode) : Prop :=
  ∃ field ∈ code.fields, ∃ function, field.kind = .function function ∧
    ∃ type ∈ function.signatureTypes, node ∈ type.nodes ∧
      ∃ scope ∈ code.scopes, scope.Reads node

/-- Where no word that is used reports an error and no path does, no type of a
field does. -/
theorem not_reports_fieldTypeTokens (words : "compile_error" ∉ code.wordsUsed)
    (paths : ∀ node, code.PrintsPath node → ¬Reports (pathTokens node.name))
    (member : field ∈ code.fields) {scope : Scope} (isScope : scope ∈ code.scopes) :
    ¬Reports (fieldTypeTokens scope field) := by
  intro reports
  cases isKind : field.kind with
  | function function =>
      obtain ⟨type, isType, reports⟩ := (reports_fieldTypeTokens_of_function isKind).mp reports
      rcases reports_typeTokens reports with isParameter | ⟨node, isNode, reads, reports⟩
      · exact words (mem_wordsUsed_of_scopes isScope isParameter)
      · exact paths node
          ⟨field, member, function, isKind, type, isType, isNode, scope, isScope, reads⟩ reports
  | nested interface witness associated =>
      refine words ?_
      simp only [wordsUsed, List.mem_append, List.mem_flatMap]
      refine .inl (.inl (.inr ⟨field, member, List.mem_cons_of_mem _ ?_⟩))
      simpa [fieldTypeTokens, isKind] using reports

/-- Where no word that is used reports an error, the paths and the closures are
left. -/
theorem silent_of_not_mem_wordsUsed (words : "compile_error" ∉ code.wordsUsed)
    (paths : ∀ node, code.PrintsPath node → ¬Reports (pathTokens node.name))
    (transformers : ∀ transformer ∈ code.transformers, "compile_error" ≠ transformer.name ∧
      ∀ entry ∈ transformer.inits, ¬Reports (entry.2.tokens entry.1))
    (folds : ∀ utilities ∈ code.utilities, utilities.folds ⊆ code.fields.map WitnessField.name)
    (runtime : ∀ utilities ∈ code.utilities, ¬Reports utilities.runtime) : code.Silent := by
  have fieldNames : ∀ field ∈ code.fields, "compile_error" ≠ field.name :=
    fun field member equal => words (equal ▸ name_mem_wordsUsed member)
  refine
    { name := ?name
      target := fun equal => words (equal ▸ target_mem_wordsUsed)
      parameters := fun member => words (mem_wordsUsed_of_parameters member)
      fieldNames := fieldNames
      fieldTypes := fun field member =>
        not_reports_fieldTypeTokens words paths member (List.mem_cons_self ..)
      transformers := transformers
      folds := fun utilities on field isFold => ⟨?own, ?fold⟩
      runtime := runtime
      conformance := ?conformance }
  all_goals
    simp only [wordsUsed, List.mem_append, List.mem_cons, not_or] at words
    obtain ⟨⟨⟨⟨name, _⟩, _⟩, foldNames⟩, conformance⟩ := words
  case name => exact name
  case own =>
    obtain ⟨declared, member, rfl⟩ := List.mem_map.mp (folds utilities on isFold)
    exact fieldNames declared member
  case fold =>
    rw [Option.mem_def.mp on] at foldNames
    rintro equal
    exact foldNames (equal ▸ List.mem_map_of_mem isFold)
  case conformance =>
    intro printed on
    rw [Option.mem_def.mp on] at conformance
    simp only [List.mem_cons, List.mem_flatMap, not_or, not_exists, not_and] at conformance
    refine ⟨conformance.1, fun argument passed => ?_⟩
    cases argument <;> exact conformance.2 _ passed

end Used

variable {spec : WitnessSpec} {definitions : List TransformDef} {config : Config}

theorem silent_ofSpec (words : "compile_error" ∉ (ofSpec spec definitions config).wordsUsed)
    (paths : ∀ node, (ofSpec spec definitions config).PrintsPath node →
      ¬Reports (pathTokens node.name))
    (runtime : ¬Reports (runtimeTokens config)) : (ofSpec spec definitions config).Silent := by
  refine silent_of_not_mem_wordsUsed words paths ?transformers ?folds ?runtime
  case transformers =>
    intro made isMade
    obtain ⟨definition, _, rfl⟩ := List.mem_map.mp isMade
    refine ⟨fun equal => ?_, fun entry isInit reports => ?_⟩
    · have named := methodName_mem definition
      simp [← show "compile_error" = definition.methodName from equal] at named
    · simp only [transformer, ← List.map_uncurry_zip_eq_zipWith, List.mem_map] at isInit
      obtain ⟨⟨field, route⟩, paired, rfl⟩ := isInit
      have member : field ∈ spec.fields := (List.of_mem_zip paired).1
      rcases reports_fieldInit reports with isName | reports
      · exact words (isName ▸ name_mem_wordsUsed member)
      · exact not_reports_fieldTypeTokens words paths member
          (List.mem_cons_of_mem _ (List.mem_singleton_self _)) reports
  case folds =>
    intro utilities on field isFold
    obtain ⟨_, made⟩ := Option.ite_none_right_eq_some.mp on
    obtain rfl := Option.some.inj made
    exact (functionFields_sublist spec).subset ((List.filter_sublist.map Prod.fst).subset isFold)
  case runtime =>
    intro utilities on
    obtain ⟨_, made⟩ := Option.ite_none_right_eq_some.mp on
    obtain rfl := Option.some.inj made
    exact runtime

end WitnessCode

theorem reports_rooted {path : Surface.Path} {rooted : Bool} :
    Reports (Surface.Path.tokens { path with rooted := rooted }) ↔ Reports path.tokens := by
  cases rooted <;> cases isRooted : path.rooted <;> simp [Surface.Path.tokens, isRooted]

/-- A valid configuration has the registry's module printed as the path that
was read. -/
theorem runtimeTokens_eq {config : Config} (valid : config.validate = .ok ()) :
    ∃ path rooted, config.runtimePath = .ok path ∧
      runtimeTokens config = Surface.Path.tokens { path with rooted := rooted } := by
  obtain ⟨_, _, _, path, read⟩ := Config.validate_eq_ok_iff.mp valid
  obtain ⟨rooted, printed, _⟩ := Config.runtimeTokens_of_read read
  exact ⟨path, rooted, read, printed⟩

end Code

open Code

/-- The receiver adds the subject to the types of a requirement. -/
theorem Requirement.signatureTypes_function {requirement : Requirement} {names : SubjectNames}
    {type : TypeExpr} (isType : type ∈ (requirement.function names).signatureTypes) :
    type = .identifier selfType ∨ type ∈ requirement.types := by
  cases requirement with
  | property declared =>
      cases isStatic : declared.isStatic <;>
        simp_all [FunctionField.signatureTypes, function, fieldParameters, fieldOutput, types]
  | method declared =>
      cases receiver : declared.receiver <;>
        simp_all [FunctionField.signatureTypes, function, fieldParameters, fieldOutput, types,
          Receiver.passing?]

namespace Generated

/-- A path that was read for a node that is printed as a path or for the module
of the registry. -/
def Reads (generated : Generated) (path : Surface.Path) : Prop :=
  (∃ node, generated.code.PrintsPath node ∧ Surface.Path.ofText node.name = .ok path) ∨
    generated.config.runtimePath = .ok path

/-- Every path of a witness is printed as it was read, and if the witness has the
compiler report an error then a name or a path that was read says so. -/
structure PrintsPaths (generated : Generated) : Prop where
  nodes : ∀ node, generated.code.PrintsPath node →
    ∃ path, Surface.Path.ofText node.name = .ok path ∧ pathTokens node.name = path.tokens
  runtime : ∃ path rooted, generated.config.runtimePath = .ok path ∧
    runtimeTokens generated.config = Surface.Path.tokens { path with rooted := rooted }
  reports : Reports generated.code.tokens → "compile_error" ∈ generated.code.wordsUsed ∨
    ∃ path, generated.Reads path ∧ Reports path.tokens

end Generated

namespace Interface

variable {interface : Interface} {config : Config} {generated : Generated}

theorem printsPaths_of_generate (valid : config.validate = .ok ())
    (ok : interface.generate config = .ok generated) : generated.PrintsPaths := by
  obtain ⟨emitted, definitions, _, rfl⟩ := generate_eq_ok_iff.mp ok
  have nodes : ∀ node,
      Generated.code ⟨interface.witness config, definitions, config⟩ |>.PrintsPath node →
      ∃ path, Surface.Path.ofText node.name = .ok path ∧ pathTokens node.name = path.tokens := by
    rintro node ⟨field, member, function, isFunction, type, isType, isNode, scope, _, reads⟩
    rcases mem_fields.mp member with ⟨_, _, _, _, rfl⟩ | ⟨requirement, required, rfl⟩
    · cases isFunction
    · obtain rfl := FieldKind.function.inj isFunction
      rcases Requirement.signatureTypes_function isType with rfl | isDeclared
      · -- The receiver is the subject, which is always in scope.
        obtain rfl := List.mem_singleton.mp isNode
        simp [Scope.Reads, Scope.parameter?] at reads
      · obtain ⟨checked, -⟩ := TypeExpr.checkIn_eq_ok (checkIn_of_emit emitted required isDeclared)
        obtain ⟨path, read⟩ := TypeExpr.path_of_check type checked node isNode
        exact ⟨path, read, by rw [pathTokens, read]⟩
  refine ⟨nodes, runtimeTokens_eq valid, fun reports => ?_⟩
  -- Otherwise no template, name or path of the witness has the word.
  by_contra unsaid
  simp only [not_or, not_exists, not_and] at unsaid
  obtain ⟨words, paths⟩ := unsaid
  refine (WitnessCode.silent_ofSpec words (fun node prints => ?_) ?_).tokens reports
  · obtain ⟨path, read, printed⟩ := nodes node prints
    rw [printed]
    exact paths path (.inl ⟨node, prints, read⟩)
  · obtain ⟨path, rooted, read, printed⟩ := runtimeTokens_eq valid
    have silent := paths path (.inr read)
    rwa [printed, reports_rooted]

theorem printsPaths_of_generate_cache :
    let config : Config := { runtime := "::shared::witness" }
    let cache : Interface :=
      { name := "Cache"
        access := .exported
        requirements := [.method
            { name := "replace"
              parameters := [⟨"entries", .generic "std::collections::BTreeMap"
                [.identifier "Key", .function [.optional (.identifier "Self::Key")]
                  (some (.identifier "u8"))], .owned⟩]
              receiver := .mutable
              generics := []
              output := some (.tuple [.identifier "Self", .identifier "Key"]) },
          .property ⟨"capacity", .identifier "core::num::NonZeroUsize", true, true⟩]
        associatedTypes := [⟨"Key", some "Hashing"⟩]
        options := { utilities := true, conformance := true } }
    ∃ generated, config.validate = .ok () ∧ cache.generate config = .ok generated ∧
      generated.PrintsPaths := by
  intro config cache
  have valid : config.validate = .ok () := by decide +kernel
  have ok : cache.generate config = .ok ⟨cache.witness config, [(cache.witness config).transformOf
      [⟨"key", .nested⟩, ⟨"replace", .rebuild [.inout, .pass] .map⟩, ⟨"capacity", .forward⟩]],
        config⟩ := by
    decide +kernel
  exact ⟨_, valid, ok, printsPaths_of_generate valid ok⟩

end Interface

end InterfaceWitness
