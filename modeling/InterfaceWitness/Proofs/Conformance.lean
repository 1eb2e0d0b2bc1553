import InterfaceWitness.Expansion
import InterfaceWitness.Proofs.Lowering

/-!
The conforming constructor of a trait's witness passes on each item of the
trait as the trait declares it.
-/

namespace InterfaceWitness

open Code
open Surface (Input TraitItem TraitDeclaration)

/-- A member of the subject's implementation of an interface. -/
def projection (subject interface member : String) : List Token :=
  angled (word subject ++ fragment "as" ++ word interface) ++ Token.pathSeparator ++ word member

/-- What a conforming constructor passes on for an item of a trait, to the
parameter of the item's field. -/
inductive Conforms (subject interface : String) : TraitItem → WitnessField → List Token → Prop where
  /-- The conforming witness over the projection to an associated type. -/
  | nested {attributes : List Token} {item : Surface.AssociatedTypeItem} {constraint : String} :
      Conforms subject interface (.associatedType attributes item)
        ⟨Text.snakeCase item.name, .nested constraint (witnessName constraint) item.name⟩
        (angled (word (witnessName constraint)
          ++ angled (projection subject interface item.name)) ++ fragment "::conforming()")
  /-- The constant, read without an argument. -/
  | constant {attributes : List Token} {item : Surface.ConstantItem} {function : FunctionField}
      (arity : function.parameters = []) :
      Conforms subject interface (.constant attributes item)
        ⟨Text.snakeCase item.name, .function function⟩
        (fragment "||" ++ projection subject interface item.name)
  /-- A call with one argument for each input, in order, by reference where the
  input is shared. -/
  | call {attributes body : List Token} {signature : Surface.Signature} {function : FunctionField}
      (arity : function.parameters.length = (Input.sharing signature.inputs.items).length) :
      Conforms subject interface (.function attributes signature body)
        ⟨Text.snakeCase signature.name, .function function⟩
        (Token.operator ['|']
          ++ commaSeparated ((List.range (Input.sharing signature.inputs.items).length).map
            fun index => word (argumentName index))
          ++ Token.operator ['|'] ++ projection subject interface signature.name
          ++ parenthesized (commaSeparated ((Input.sharing signature.inputs.items).mapIdx
            fun index isShared =>
              (if isShared then Token.operator ['&'] else []) ++ word (argumentName index))))

namespace Code.ConformingArgument

theorem forwarded_eq_mapIdx (index : Nat) (arguments : List Bool) :
    forwarded index arguments = arguments.mapIdx fun place isShared =>
      (if isShared then Token.operator ['&'] else []) ++ word (argumentName (index + place)) := by
  induction arguments generalizing index with
  | nil => rfl
  | cons isShared rest inductionHypothesis =>
      simp only [forwarded, inductionHypothesis, List.mapIdx_cons, Nat.add_zero, List.cons.injEq,
        true_and]
      congr 1
      funext place
      rw [Nat.add_assoc, Nat.add_comm 1 place]

theorem tokens_call (subject interface member : String) (arguments : List Bool) :
    (call member arguments).tokens subject interface
      = Token.operator ['|']
        ++ commaSeparated ((List.range arguments.length).map fun index =>
          word (argumentName index))
        ++ Token.operator ['|'] ++ projection subject interface member
        ++ parenthesized (commaSeparated (arguments.mapIdx fun index isShared =>
          (if isShared then Token.operator ['&'] else []) ++ word (argumentName index))) := by
  simp [tokens, forwarded_eq_mapIdx, projection]

end Code.ConformingArgument

variable {subject interface : String} {item : TraitItem} {field : WitnessField}
  {requirement : Requirement}

theorem conforms_of_nests (nests : Nests item field) :
    Conforms subject interface item field
      ((conformingArgument field).tokens subject interface) := by
  cases nests with
  | associatedType => exact .nested

theorem conforms_of_requires (requires : Requires item requirement) (names : SubjectNames) :
    Conforms subject interface item
      ⟨Text.snakeCase requirement.name, .function (requirement.function names)⟩
      ((conformingArgument ⟨Text.snakeCase requirement.name,
        .function (requirement.function names)⟩).tokens subject interface) := by
  cases requires with
  | @constant attributes item type =>
      have noParameters :
          ((Requirement.property ⟨item.name, type, true, true⟩).function names).parameters = [] :=
        rfl
      have passed : Conforms subject interface (.constant attributes item) _ _ :=
        .constant noParameters
      simpa [conformingArgument, ConformingArgument.tokens, projection, Requirement.function,
        Requirement.access, Requirement.name] using passed
  | @function attributes body signature method named lent =>
      have arity : ((Requirement.method method).function names).parameters.length
          = (Input.sharing signature.inputs.items).length := by
        rw [← lent, List.length_map]
        rfl
      have passed : Conforms subject interface (.function attributes signature body) _ _ :=
        .call arity
      have argument : conformingArgument ⟨Text.snakeCase method.name,
          .function ((Requirement.method method).function names)⟩
          = .call signature.name (Input.sharing signature.inputs.items) := by
        rw [← lent, ← named]
        rfl
      rw [show (Requirement.method method).name = method.name from rfl, argument,
        ConformingArgument.tokens_call, named]
      exact passed

namespace Code

variable {first middle last : List Token}

theorem infix_delimited (delimiter : Delimiter) (tokens : List Token) :
    tokens <:+: Token.delimited delimiter tokens :=
  ⟨[.opening delimiter], [.closing delimiter], rfl⟩

theorem infix_append_assoc : middle ++ last <:+: first ++ middle ++ last := by
  rw [List.append_assoc]
  exact List.infix_append_right

theorem infix_implementation (parameters : List String) (header items : List Token) :
    items <:+: implementation parameters header items :=
  List.infix_append_of_infix_right (infix_delimited .brace items)

/-- Where the constructor and the conforming constructor stand in a printed
witness. -/
theorem WitnessCode.infix_tokens (code : WitnessCode) {conformance : Conformance}
    (conforms : code.conformance = some conformance) :
    fragment "fn new" ++ parenthesized
        (commaSeparated (code.fields.map (constructorParameter code.scope))) <:+: code.tokens ∧
      fragment "fn conforming() -> Self" ++ braced (fragment "Self::new" ++ parenthesized
        (commaSeparated (conformance.arguments.map
          (ConformingArgument.tokens code.scope.subject conformance.interface))))
        <:+: code.tokens := by
  constructor
  · have inside : _ <:+: code.constructorTokens :=
      (List.infix_append_of_infix_left (List.infix_append_of_infix_left infix_append_assoc)).trans
        (infix_implementation ..)
    exact List.infix_append_of_infix_left (List.infix_append_of_infix_left
      (List.infix_append_of_infix_left (List.infix_append_of_infix_right inside)))
  · have inside : _ <:+: code.conformanceTokens conformance :=
      List.infix_append_of_infix_right (infix_append_assoc.trans (infix_delimited .brace _))
    have printed : (code.conformance.map code.conformanceTokens).getD []
        = code.conformanceTokens conformance := by
      rw [conforms]
      rfl
    exact List.infix_append_of_infix_right (printed ▸ inside)

end Code

namespace Interface

variable {interface : Interface} {options : GenerationOptions} {nested : List String}
  {declaration : TraitDeclaration} {config : Config} {generated : Generated}
  {tokens output : List Token}

theorem ofTrait_eq_ok (first : ∀ item ∈ declaration.items, item.ReceiverFirst)
    (lowered : ofTrait declaration options nested = .ok interface) :
    interface.name = declaration.name ∧ interface.options = options ∧
      List.Forall₂ Nests (declaration.items.filter (·.isNested nested)) interface.nestedFields ∧
      List.Forall₂ Requires (declaration.items.filter (·.isRequirement))
        interface.requirements := by
  obtain ⟨-, -, -, added⟩ := ofTrait_eq_ok_iff.mp lowered
  obtain ⟨name, options, ⟨fields, nests, areFields⟩, requirements, requires, areRequirements⟩ :=
    addItems_eq_ok first added
  rw [nests, requires]
  exact ⟨name, options, areFields, areRequirements⟩

theorem conforms_fields
    (nests : List.Forall₂ Nests (declaration.items.filter (·.isNested nested))
      interface.nestedFields)
    (requires : List.Forall₂ Requires (declaration.items.filter (·.isRequirement))
      interface.requirements) (subject name : String) :
    List.Forall₂ (fun item (entry : WitnessField × List Token) =>
        Conforms subject name item entry.1 entry.2)
      (declaration.items.filter (·.isNested nested) ++ declaration.items.filter (·.isRequirement))
      (interface.fields.zip
        (interface.fields.map fun field => (conformingArgument field).tokens subject name)) := by
  rw [← List.map_prod_left_eq_zip, List.forall₂_map_right_iff, fields]
  refine List.rel_append (nests.imp fun _ _ => conforms_of_nests) ?_
  rw [functionFields, List.forall₂_map_right_iff]
  exact requires.imp fun _ _ isRequired => conforms_of_requires isRequired _

/-- The conforming constructor of a trait's witness calls the constructor with
one argument for each parameter: in order, those of the associated types whose
witnesses are embedded and those of the constants and functions. -/
theorem conforming_of_trait (parsed : TraitDeclaration.ofTokens tokens = .ok declaration)
    (lowered : ofTrait declaration options nested = .ok interface)
    (conforms : options.conformance = true) (ok : interface.generate config = .ok generated)
    (printed : generated.tokens? = some output) :
    ∃ arguments,
      fragment "fn new" ++ parenthesized (commaSeparated
        (generated.spec.fields.map (constructorParameter generated.code.scope))) <:+: output ∧
      fragment "fn conforming() -> Self" ++ braced (fragment "Self::new" ++ parenthesized
        (commaSeparated arguments)) <:+: output ∧
      arguments.length = generated.spec.fields.length ∧
      List.Forall₂ (fun item (entry : WitnessField × List Token) =>
          Conforms config.subject declaration.name item entry.1 entry.2)
        (declaration.items.filter (·.isNested nested) ++ declaration.items.filter (·.isRequirement))
        (generated.spec.fields.zip arguments) := by
  obtain ⟨name, enabled, nests, requires⟩ :=
    ofTrait_eq_ok (TraitDeclaration.receiverFirst parsed) lowered
  obtain ⟨_, definitions, _, rfl⟩ := generate_eq_ok ok
  have code : (⟨interface.witness config, definitions, config⟩ : Generated).code.conformance
      = some ⟨interface.name, interface.fields.map conformingArgument⟩ := by
    have enabled : (interface.witness config).options.conformance = true := by
      rw [witness, enabled, conforms]
    rw [Generated.code, WitnessCode.ofSpec, enabled, if_pos rfl]
    rfl
  obtain ⟨_, isOutput⟩ := Option.ite_none_right_eq_some.mp printed
  obtain rfl := Option.some.inj isOutput
  obtain ⟨constructor, conforming⟩ := WitnessCode.infix_tokens _ code
  refine ⟨_, constructor, conforming, by simp [witness], ?_⟩
  rw [List.map_map, ← name]
  exact conforms_fields nests requires config.subject interface.name

theorem conforming_of_trait_merging :
    let tokens := Token.ofFragment
      ("trait Merging \x7b const ZERO: u8; type Step: Stepping; "
        ++ "fn mergeInto(&self, by: &Self::Step, other: Self) -> Option<Self>; \x7d")
    let options : GenerationOptions := { conformance := true }
    ∃ declaration interface generated output,
      TraitDeclaration.ofTokens tokens = .ok declaration ∧
      ofTrait declaration options ["Step"] = .ok interface ∧ options.conformance = true ∧
      interface.generate {} = .ok generated ∧ generated.tokens? = some output ∧
      ∃ arguments,
        fragment "fn new" ++ parenthesized (commaSeparated
          (generated.spec.fields.map (constructorParameter generated.code.scope))) <:+: output ∧
        fragment "fn conforming() -> Self" ++ braced (fragment "Self::new" ++ parenthesized
          (commaSeparated arguments)) <:+: output ∧
        arguments.length = generated.spec.fields.length ∧
        List.Forall₂ (fun item (entry : WitnessField × List Token) =>
            Conforms "A" declaration.name item entry.1 entry.2)
          (declaration.items.filter (·.isNested ["Step"])
            ++ declaration.items.filter (·.isRequirement))
          (generated.spec.fields.zip arguments) := by
  intro tokens options
  have ran : ((TraitDeclaration.ofTokens tokens).toOption.bind fun declaration =>
      (ofTrait declaration options ["Step"]).toOption.bind fun interface =>
        (interface.generate {}).toOption.bind Generated.tokens?).isSome = true := by
    decide +kernel
  simp only [Option.isSome_iff_exists, Option.bind_eq_some_iff, toOption_eq_some_iff] at ran
  obtain ⟨output, declaration, parsed, interface, lowered, generated, ok, printed⟩ := ran
  exact ⟨declaration, interface, generated, output, parsed, lowered, rfl, ok, printed,
    conforming_of_trait parsed lowered rfl ok printed⟩

end Interface

end InterfaceWitness
