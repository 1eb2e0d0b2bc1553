import InterfaceWitness.Code.Printing
import InterfaceWitness.Proofs.Transform.Directions
import Mathlib.Data.List.Nodup

/-!
The functions that a printed witness declares on its own type.
-/

namespace InterfaceWitness.Code

/-- A function as it is printed. -/
structure PrintedFunction where
  /-- What stands before the keyword but for the access. -/
  attributes : List Token
  access : Access
  name : String
  /-- The parameters, the result, the bounds and the body. -/
  rest : List Token

def PrintedFunction.tokens (function : PrintedFunction) : List Token :=
  function.attributes ++ accessTokens function.access ++ fragment "fn" ++ word function.name
    ++ function.rest

/-- An implementation that belongs to no interface. -/
structure InherentImplementation where
  /-- The type parameters, the type and its bounds. -/
  header : List Token
  functions : List PrintedFunction

def InherentImplementation.tokens (inherent : InherentImplementation) : List Token :=
  fragment "impl" ++ inherent.header ++ braced (inherent.functions.flatMap PrintedFunction.tokens)

namespace WitnessCode

variable (code : WitnessCode)

def constructorFunction : PrintedFunction :=
  { attributes :=
      fixedDocumentation " Builds a witness from one value per requirement, in declaration order."
        ++ fragment "#[allow(clippy::too_many_arguments, clippy::new_without_default)]"
    access := code.access
    name := "new"
    rest :=
      parenthesized (commaSeparated (code.fields.map (constructorParameter code.scope)))
        ++ fragment "-> Self"
        ++ braced (fragment "Self" ++ braced
          (commaTerminated (code.fields.map constructorInit) ++ phantom ++ [Token.comma])) }

def transformerFunction (transformer : Transformer) : PrintedFunction :=
  let subject := code.scope.subject
  let conversions := conversionParameters transformer.kind
  { attributes :=
      computedDocumentation (transformerDocumentation transformer.kind subject code.target)
        ++ fragment "#[allow(unused_variables)]"
    access := code.access
    name := transformer.name
    rest :=
      parameterList [code.target]
        ++ parenthesized (fragment "&self," ++ commaSeparated
          (conversions.map fun conversion => conversion.tokens subject code.target))
        ++ Token.arrow ++ applied code.name (code.target :: code.scope.associated)
        ++ fragment "where"
        ++ commaTerminated ((code.scope.parameters ++ [code.target]).map fun parameter =>
          word parameter ++ fragment ": 'static")
        ++ (if transformer.clonesTarget then
            word code.target ++ fragment ": ::core::clone::Clone,"
          else [])
        ++ braced
          (conversions.flatMap ConversionParameter.setup ++ word code.name
            ++ braced
              (commaTerminated (transformer.inits.map fun entry => entry.2.tokens entry.1)
                ++ phantom ++ [Token.comma])) }

def foldFunction (field : String) : PrintedFunction :=
  let subject := word code.scope.subject
  { attributes :=
      computedDocumentation (" Folds `items` into `initial` with `" ++ field ++ "`, left to right.")
    access := code.access
    name := foldName field
    rest :=
      parenthesized
          (fragment "&self, initial:" ++ subject
            ++ fragment ", items: impl ::core::iter::IntoIterator"
            ++ angled (fragment "Item =" ++ subject))
        ++ Token.arrow ++ subject
        ++ braced
          (fragment "items.into_iter().fold" ++ parenthesized
            (fragment "initial, |acc, item|" ++ parenthesized (ownField field)
              ++ fragment "(acc, item)")) }

def registerFunction (runtime : List Token) : PrintedFunction :=
  { attributes :=
      fixedDocumentation " Stores this witness in the shared registry under its subject type."
    access := code.access
    name := "register"
    rest :=
      fragment "(self, label: ::core::option::Option<&str>)" ++ fragment "where Self: 'static,"
        ++ braced
          (runtime ++ fragment "::registry::register::"
            ++ angled (word code.scope.subject ++ fragment ", Self") ++ fragment "(self, label)") }

def registeredFunction (runtime : List Token) : PrintedFunction :=
  { attributes :=
      fixedDocumentation " Fetches the witness registered for the subject type under `label`."
    access := code.access
    name := "registered"
    rest :=
      fragment "(label: ::core::option::Option<&str>)"
        ++ fragment "-> ::core::option::Option<Self>" ++ fragment "where Self: 'static,"
        ++ braced
          (runtime ++ fragment "::registry::lookup::"
            ++ angled (word code.scope.subject ++ fragment ", Self") ++ fragment "(label)") }

def conformingFunction (conformance : Conformance) : PrintedFunction :=
  { attributes :=
      fixedDocumentation
        " Builds the witness from the subject's own implementation of the interface."
    access := code.access
    name := "conforming"
    rest :=
      fragment "() -> Self"
        ++ braced
          (fragment "Self::new" ++ parenthesized (commaSeparated
            (conformance.arguments.map
              (ConformingArgument.tokens code.scope.subject conformance.interface)))) }

/-- For all parameters. -/
def ownHeader : List Token :=
  parameterList code.scope.parameters ++ applied code.name code.scope.parameters

/-- For every subject that has the interface, with its own associated types. -/
def conformingHeader (conformance : Conformance) : List Token :=
  let subject := word code.scope.subject
  let interface := word conformance.interface
  let projections := code.scope.associated.map fun associated =>
    angled (subject ++ fragment "as" ++ interface) ++ Token.pathSeparator ++ word associated
  angled subject ++ word code.name ++ angled (commaSeparated (subject :: projections))
    ++ fragment "where" ++ subject ++ Token.colon :: interface ++ fragment "+ 'static,"
    ++ commaTerminated (projections.map (· ++ fragment ": 'static"))

def inherent : List InherentImplementation :=
  ⟨code.ownHeader, [code.constructorFunction]⟩
    :: code.transformers.map (fun transformer =>
      ⟨code.ownHeader, [code.transformerFunction transformer]⟩)
    ++ (code.utilities.map fun utilities =>
      ⟨code.ownHeader, utilities.folds.map code.foldFunction
        ++ [code.registerFunction utilities.runtime, code.registeredFunction utilities.runtime]⟩
      ).toList
    ++ (code.conformance.map fun conformance =>
      ⟨code.conformingHeader conformance, [code.conformingFunction conformance]⟩).toList

/-- The names of all functions that a witness declares on its own type. -/
def declaredNames : List String :=
  (code.inherent.flatMap InherentImplementation.functions).map PrintedFunction.name

@[simp]
theorem constructorFunction_name : code.constructorFunction.name = "new" := rfl

@[simp]
theorem transformerFunction_name (transformer : Transformer) :
    (code.transformerFunction transformer).name = transformer.name := rfl

@[simp]
theorem foldFunction_name (field : String) : (code.foldFunction field).name = foldName field := rfl

@[simp]
theorem registerFunction_name (runtime : List Token) :
    (code.registerFunction runtime).name = "register" := rfl

@[simp]
theorem registeredFunction_name (runtime : List Token) :
    (code.registeredFunction runtime).name = "registered" := rfl

@[simp]
theorem conformingFunction_name (conformance : Conformance) :
    (code.conformingFunction conformance).name = "conforming" := rfl

theorem declaredNames_eq : code.declaredNames = code.methodNames := by
  have transformers : (code.transformers.map fun transformer =>
      (⟨code.ownHeader, [code.transformerFunction transformer]⟩ :
        InherentImplementation)).flatMap InherentImplementation.functions
      = code.transformers.map code.transformerFunction := by
    rw [List.flatMap_map]
    exact List.flatMap_pure_eq_map ..
  rw [declaredNames, inherent, methodNames]
  cases code.utilities <;> cases code.conformance <;> simp [transformers, Function.comp_def]

theorem constructorTokens_eq : code.constructorTokens
    = InherentImplementation.tokens ⟨code.ownHeader, [code.constructorFunction]⟩ := by
  have named : fragment "fn new" = fragment "fn" ++ word "new" := by decide +kernel
  simp [constructorTokens, implementation, InherentImplementation.tokens, ownHeader,
    PrintedFunction.tokens, constructorFunction, named]

theorem transformerTokens_eq (transformer : Transformer) : code.transformerTokens transformer
    = InherentImplementation.tokens ⟨code.ownHeader, [code.transformerFunction transformer]⟩ := by
  simp [transformerTokens, implementation, InherentImplementation.tokens, ownHeader,
    PrintedFunction.tokens, transformerFunction, applied]

theorem foldTokens_eq (field : String) :
    code.foldTokens field = (code.foldFunction field).tokens := by
  simp [foldTokens, PrintedFunction.tokens, foldFunction]

theorem utilitiesTokens_eq (utilities : Utilities) : code.utilitiesTokens utilities
    = InherentImplementation.tokens ⟨code.ownHeader, utilities.folds.map code.foldFunction
        ++ [code.registerFunction utilities.runtime,
          code.registeredFunction utilities.runtime]⟩ := by
  have register : fragment "fn register(self, label: ::core::option::Option<&str>)"
      = fragment "fn" ++ word "register"
        ++ fragment "(self, label: ::core::option::Option<&str>)" := by decide +kernel
  have registered : fragment "fn registered(label: ::core::option::Option<&str>)"
      = fragment "fn" ++ word "registered"
        ++ fragment "(label: ::core::option::Option<&str>)" := by decide +kernel
  have folds : utilities.folds.flatMap code.foldTokens
      = (utilities.folds.map code.foldFunction).flatMap PrintedFunction.tokens := by
    rw [List.flatMap_map]
    exact congrArg (utilities.folds.flatMap ·) (funext code.foldTokens_eq)
  rw [utilitiesTokens, folds, register, registered]
  simp only [implementation, InherentImplementation.tokens, ownHeader, List.flatMap_append,
    List.flatMap_cons, List.flatMap_nil, PrintedFunction.tokens, registerFunction,
    registeredFunction, List.append_assoc, List.append_nil]

theorem conformanceTokens_eq (conformance : Conformance) : code.conformanceTokens conformance
    = InherentImplementation.tokens
      ⟨code.conformingHeader conformance, [code.conformingFunction conformance]⟩ := by
  have named : fragment "fn conforming() -> Self"
      = fragment "fn" ++ word "conforming" ++ fragment "() -> Self" := by decide +kernel
  simp [conformanceTokens, InherentImplementation.tokens, conformingHeader,
    PrintedFunction.tokens, conformingFunction, named]

theorem tokens_eq : code.tokens = code.definitionTokens ++ code.cloneTokens
    ++ code.inherent.flatMap InherentImplementation.tokens := by
  have transformers : code.transformers.flatMap code.transformerTokens
      = (code.transformers.map fun transformer => (⟨code.ownHeader,
        [code.transformerFunction transformer]⟩ : InherentImplementation)).flatMap
          InherentImplementation.tokens := by
    rw [List.flatMap_map]
    exact congrArg (code.transformers.flatMap ·) (funext code.transformerTokens_eq)
  rw [tokens, inherent, transformers, constructorTokens_eq]
  cases code.utilities <;> cases code.conformance <;>
    simp [utilitiesTokens_eq, conformanceTokens_eq]

theorem foldName_injective : Function.Injective foldName := by
  intro left right equal
  simpa [foldName] using equal

/-- The names of a witness that do not depend on its fields. -/
def fixedNames : List String :=
  ["new", "map", "pullback", "iso", "register", "registered", "conforming"]

theorem foldName_ne_of_mem_fixedNames {field name : String} (fixed : name ∈ fixedNames) :
    foldName field ≠ name := by
  have ends : "_all".toList <:+ (foldName field).toList := by
    simp [foldName]
  have others : ∀ name ∈ fixedNames, ¬ "_all".toList <:+ name.toList := by decide
  rintro rfl
  exact others _ fixed ends

end WitnessCode

theorem methodName_mem (definition : TransformDef) :
    definition.methodName ∈ ["map", "pullback", "iso"] := by
  cases kind : definition.kind <;>
    simp [TransformDef.methodName, TransformKind.methodName?, kind]

theorem functionFields_sublist (spec : WitnessSpec) :
    (spec.functionFields.map Prod.fst).Sublist (spec.fields.map WitnessField.name) := by
  unfold WitnessSpec.functionFields
  induction spec.fields with
  | nil => simp
  | cons field rest inductionHypothesis =>
      cases kind : field.kind with
      | function function => simpa [kind] using inductionHypothesis
      | nested => simpa [kind] using inductionHypothesis.cons _

variable {spec : WitnessSpec} {interface : String} {definitions : List TransformDef}

/-- At most one transformer, and folds that are named apart. -/
theorem nodup_withFolds {transformers folds : List String}
    (single : transformers ∈ [[], ["map"], ["pullback"], ["iso"]]) (distinct : folds.Nodup)
    (apart : ∀ name ∈ WitnessCode.fixedNames, name ∉ folds) :
    ("new" :: transformers ++ (folds ++ ["register", "registered"]) ++ ["conforming"]).Nodup := by
  have others : ∀ transformers ∈ [[], ["map"], ["pullback"], ["iso"]],
      ("new" :: transformers ++ (["register", "registered"] ++ ["conforming"])).Nodup ∧
      ∀ name ∈ "new" :: transformers ++ (["register", "registered"] ++ ["conforming"]),
        name ∈ WitnessCode.fixedNames := by
    decide
  obtain ⟨othersDistinct, fixed⟩ := others transformers single
  have moved : ("new" :: transformers ++ (folds ++ ["register", "registered"])
      ++ ["conforming"]).Perm
        (folds ++ ("new" :: transformers ++ (["register", "registered"] ++ ["conforming"]))) := by
    rw [List.append_assoc, List.append_assoc]
    exact List.perm_append_comm_assoc ..
  rw [moved.nodup_iff, List.nodup_append]
  refine ⟨distinct, othersDistinct, ?_⟩
  rintro name isFold _ isOther rfl
  exact apart name (fixed name isOther) isFold

/-- The names of the folds end as none of the others does. -/
theorem nodup_methodNames (distinct : (spec.fields.map WitnessField.name).Nodup)
    (routed : spec.transforms interface = .ok definitions) (config : Config) :
    (WitnessCode.ofSpec spec definitions config).methodNames.Nodup := by
  let folded := (spec.functionFields.filter fun entry => isBinaryOperation entry.2).map Prod.fst
  let folds := folded.map WitnessCode.foldName
  have foldsDistinct : folds.Nodup := by
    apply List.Nodup.map WitnessCode.foldName_injective
    exact (distinct.sublist (functionFields_sublist spec)).sublist (List.filter_sublist.map _)
  have apart : ∀ name ∈ WitnessCode.fixedNames, name ∉ folds := by
    intro name fixed member
    obtain ⟨field, _, equal⟩ := List.mem_map.mp member
    exact WitnessCode.foldName_ne_of_mem_fixedNames fixed equal
  have single : definitions.map TransformDef.methodName ∈ [[], ["map"], ["pullback"], ["iso"]] := by
    obtain ⟨_, rfl⟩ | ⟨_, routes, _, rfl⟩ := WitnessSpec.transforms_eq_ok_iff.mp routed
    · simp
    · simpa using methodName_mem (spec.transformOf routes)
  have contained : (WitnessCode.ofSpec spec definitions config).methodNames.Sublist
      ("new" :: definitions.map TransformDef.methodName ++ (folds ++ ["register", "registered"])
        ++ ["conforming"]) := by
    have transformers : (WitnessCode.ofSpec spec definitions config).transformers.map
        Transformer.name = definitions.map TransformDef.methodName := by
      rw [WitnessCode.ofSpec, List.map_map]
      rfl
    rw [WitnessCode.methodNames, transformers]
    refine .append (.append (.refl _) ?_) ?_
    · simp only [WitnessCode.ofSpec]
      cases spec.options.utilities with
      | false => exact List.nil_sublist _
      | true => exact .refl _
    · simp only [WitnessCode.ofSpec]
      cases spec.options.conformance with
      | false => exact List.nil_sublist _
      | true => exact .refl _
  exact (nodup_withFolds single foldsDistinct apart).sublist contained

end InterfaceWitness.Code
