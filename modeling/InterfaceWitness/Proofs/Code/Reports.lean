import InterfaceWitness.Proofs.Code.Names
import InterfaceWitness.Proofs.Code.Spelling
import Mathlib.Logic.Basic

/-!
Where a printed witness has the compiler report an error.  No template does, so
the word comes from a name or from a path.
-/

namespace InterfaceWitness

/-- The types in the signature of a field. -/
def FunctionField.signatureTypes (function : FunctionField) : List TypeExpr :=
  function.parameters.map FieldParameter.type ++ function.output.toList

namespace Code

/-- Whether the compiler is told to report an error. -/
abbrev Reports (tokens : List Token) : Prop := .identifier "compile_error" ∈ tokens

/-- The fragments of source text that witnesses are printed with. -/
def fragments : List String :=
  ["pub", "pub(crate)", "struct", "impl", "fn", "let", "as", "where", "Self", "::new", "-> Self",
    "+ 'static", "+ 'static,", ": 'static", "where Self: 'static,", ": ::core::clone::Clone,",
    "_marker: ::core::marker::PhantomData", "fn() ->", "#[allow(clippy::type_complexity)]",
    "#[allow(clippy::too_many_arguments, clippy::new_without_default)]",
    "#[allow(unused_variables)]", "::core::clone::Clone for", "fn clone(&self) -> Self", "fn new",
    "&self,", "&self, initial:", ", items: impl ::core::iter::IntoIterator", "Item =",
    "items.into_iter().fold", "initial, |acc, item|", "(acc, item)",
    "fn register(self, label: ::core::option::Option<&str>)", "::registry::register::",
    "(self, label)", "fn registered(label: ::core::option::Option<&str>)",
    "-> ::core::option::Option<Self>", "::registry::lookup::", "(label)", ", Self",
    "fn conforming() -> Self", "Self::new", "::conforming()", "||"]

theorem not_reports_fragment {source : String} (isFixed : source ∈ fragments) :
    ¬Reports (fragment source) := by
  have all : ∀ source ∈ fragments, ¬Reports (fragment source) := by decide +kernel
  exact all source isFixed

section Templates

variable {tokens : List Token} {text : String} {items : List (List Token)}

@[simp]
theorem identifier_mem_braced :
    .identifier text ∈ braced tokens ↔ .identifier text ∈ tokens := by
  simp [braced, Token.delimited]

@[simp]
theorem identifier_mem_word {name : String} : .identifier text ∈ word name ↔ text = name := by
  simp [word]

@[simp]
theorem identifier_not_mem_operator (chars : List Char) :
    .identifier text ∉ Token.operator chars := by
  fun_induction Token.operator chars <;> simp_all

@[simp]
theorem identifier_not_mem_arrow : .identifier text ∉ Token.arrow :=
  identifier_not_mem_operator _

@[simp]
theorem identifier_not_mem_pathSeparator : .identifier text ∉ Token.pathSeparator :=
  identifier_not_mem_operator _

@[simp]
theorem not_reports_accessTokens (access : Access) : ¬Reports (accessTokens access) := by
  cases access <;> simp (disch := decide) [accessTokens, not_reports_fragment]

@[simp]
theorem not_reports_phantom : ¬Reports phantom := not_reports_fragment (by decide)

@[simp]
theorem not_reports_documentationTokens (literal : String) :
    ¬Reports (documentationTokens literal) := by
  simp [documentationTokens, Token.delimited]

@[simp]
theorem not_reports_sharedPath : ¬Reports sharedPath := by simp [sharedPath]

@[simp]
theorem not_reports_clonePath : ¬Reports clonePath := by simp [clonePath]

@[simp]
theorem not_reports_storable : ¬Reports storable := by
  simp (disch := decide) [storable, sendAndSync, not_reports_fragment]

@[simp]
theorem reports_parameterList {parameters : List String} :
    Reports (parameterList parameters) ↔ "compile_error" ∈ parameters := by
  simp [parameterList]

@[simp]
theorem reports_applied {name : String} {parameters : List String} :
    Reports (applied name parameters) ↔
      "compile_error" = name ∨ "compile_error" ∈ parameters := by
  simp [applied]

@[simp]
theorem reports_implementation {parameters : List String} {header : List Token} :
    Reports (implementation parameters header tokens) ↔
      "compile_error" ∈ parameters ∨ Reports header ∨ Reports tokens := by
  simp (disch := decide) [implementation, not_reports_fragment]

end Templates

section Types

variable {scope : Scope} {type : TypeExpr} {parameter : FieldParameter}
  {function : FunctionField} {field : WitnessField}

/-- Whether a node is printed as a path: a base, or a name for which no type
parameter is in scope. -/
def Scope.Reads (scope : Scope) (node : NamedNode) : Prop :=
  node.isBase = true ∨ scope.parameter? node.name = none

theorem Scope.spelling_of_reads {node : NamedNode} (reads : scope.Reads node) :
    scope.spelling node = pathTokens node.name := by
  unfold spelling
  split
  case isTrue => rfl
  case isFalse isIdentifier => simp [resolve, reads.resolve_left isIdentifier]

theorem Scope.parameter?_mem_parameters {name parameter : String}
    (found : scope.parameter? name = some parameter) : parameter ∈ scope.parameters := by
  unfold parameter? at found
  split at found
  case isTrue => exact Option.some.inj found ▸ List.mem_cons_self ..
  case isFalse => exact List.mem_cons_of_mem _ (List.mem_of_find?_eq_some found)

/-- A type reports where a type parameter is called so, or where a path in it
does. -/
theorem reports_typeTokens (reports : Reports (typeTokens scope type)) :
    "compile_error" ∈ scope.parameters ∨
      ∃ node ∈ type.nodes, scope.Reads node ∧ Reports (pathTokens node.name) := by
  rw [typeTokens_eq_spelledBy, Reports, TypeExpr.identifier_mem_spelledBy (by decide)] at reports
  obtain ⟨node, member, spelled⟩ := reports
  -- A node is either printed as a path or replaced by a type parameter.
  by_cases reads : scope.Reads node
  · rw [Scope.spelling_of_reads reads] at spelled
    exact .inr ⟨node, member, reads, spelled⟩
  · left
    simp only [Scope.Reads, not_or, ← ne_eq, Option.ne_none_iff_exists'] at reads
    obtain ⟨isIdentifier, parameter, found⟩ := reads
    rw [Scope.spelling, if_neg isIdentifier, Scope.resolve, found] at spelled
    obtain rfl : "compile_error" = parameter := by simpa using spelled
    exact Scope.parameter?_mem_parameters found

theorem reports_parameterTokens :
    Reports (parameterTokens scope parameter) ↔ Reports (typeTokens scope parameter.type) := by
  cases passing : parameter.passing <;> simp [parameterTokens, passing]

theorem reports_signatureTokens : Reports (signatureTokens scope function) ↔
    ∃ type ∈ function.signatureTypes, Reports (typeTokens scope type) := by
  rw [signatureTokens, Reports, identifier_mem_functionTrait (by decide)]
  simp [FunctionField.signatureTypes, reports_parameterTokens, or_and_right, exists_or]

theorem reports_fieldTypeTokens_of_function (isFunction : field.kind = .function function) :
    Reports (fieldTypeTokens scope field) ↔
      ∃ type ∈ function.signatureTypes, Reports (typeTokens scope type) := by
  rw [← reports_signatureTokens, fieldTypeTokens, isFunction, Reports,
    identifier_mem_sharedFunction (by decide)]

@[simp]
theorem reports_constructorParameter : Reports (constructorParameter scope field) ↔
    "compile_error" = field.name ∨ Reports (fieldTypeTokens scope field) := by
  cases isKind : field.kind with
  | function function =>
      simp (disch := decide) [constructorParameter, isKind, reports_signatureTokens,
        reports_fieldTypeTokens_of_function isKind, not_reports_fragment, Token.colon]
  | nested interface witness associated => simp [constructorParameter, isKind, Token.colon]

@[simp]
theorem reports_constructorInit :
    Reports (constructorInit field) ↔ "compile_error" = field.name := by
  cases isKind : field.kind <;>
    simp (disch := decide) [constructorInit, isKind, not_reports_fragment, Token.colon]

end Types

section Closures

theorem ne_of_initial_ne {name : String} (initial : name.toList.head? ≠ some 'c') :
    "compile_error" ≠ name :=
  ne_of_initial fun equal => initial (equal ▸ rfl)

@[simp]
theorem ne_argumentName (index : Nat) : "compile_error" ≠ argumentName index :=
  ne_of_initial_ne (by simp)

@[simp]
theorem ne_subjectName (index : Nat) : "compile_error" ≠ subjectName index :=
  ne_of_initial_ne (by simp)

@[simp]
theorem ne_valueBinder (depth : Nat) : "compile_error" ≠ valueBinder depth :=
  ne_of_initial_ne (by simp)

@[simp]
theorem ne_elementBinder (depth index : Nat) : "compile_error" ≠ elementBinder depth index :=
  ne_of_initial_ne (by simp)

theorem Expr.tokensOfAll_eq_map (values : List Expr) :
    Expr.tokensOfAll values = values.map Expr.tokens := by
  induction values with
  | nil => rfl
  | cons value rest inductionHypothesis => rw [tokensOfAll, inductionHypothesis, List.map_cons]

/-- Where there is nothing to convert, a value is written as it is. -/
theorem not_reports_call_or_self {function : String} {value : Expr} {converted : Prop}
    [Decidable converted] (other : "compile_error" ≠ function) (silent : ¬Reports value.tokens) :
    ¬Reports (if converted then Expr.call function [value] else value).tokens := by
  split
  · simp [Expr.tokens, Expr.tokensOfAll_eq_map, other, silent]
  · exact silent

mutual

/-- A conversion is written with its function, what it converts and binders. -/
theorem not_reports_convert {function : String} (other : "compile_error" ≠ function) (depth : Nat)
    {value : Expr} (silent : ¬Reports value.tokens) :
    (type : TypeExpr) → ¬Reports (convert function depth value type).tokens
  | .identifier name => by
      unfold convert
      exact not_reports_call_or_self other silent
  | .generic base arguments => by
      unfold convert
      exact not_reports_call_or_self other silent
  | .function parameters output => by
      unfold convert
      exact not_reports_call_or_self other silent
  | .optional inner => by
      unfold convert
      split
      · have body : ¬Reports (convert function (depth + 1) (.variable (valueBinder depth))
            inner).tokens :=
          not_reports_convert other (depth + 1) (by simp [Expr.tokens]) inner
        simp [Expr.tokens, silent, body]
      · exact silent
  | .tuple elements => by
      unfold convert
      split
      · have converted := not_reports_convertElements other depth 0 elements
        simpa [Expr.tokens, Expr.tokensOfAll_eq_map, silent, Token.semicolon] using converted
      · exact silent

theorem not_reports_convertElements {function : String} (other : "compile_error" ≠ function)
    (depth index : Nat) : (elements : List TypeExpr) →
    ∀ value ∈ convertElements function depth index elements, ¬Reports value.tokens
  | [] => by simp [convertElements]
  | element :: rest => by
      rw [convertElements, List.forall_mem_cons]
      exact ⟨not_reports_convert other (depth + 1) (by simp [Expr.tokens]) element,
        not_reports_convertElements other depth (index + 1) rest⟩

end

/-- What a routed parameter adds to the body of a closure reports nothing. -/
structure RoutedParameter.Silent (routed : RoutedParameter) : Prop where
  before : ∀ statement ∈ routed.before, ¬Reports statement.tokens
  argument : ¬Reports routed.argument.tokens
  after : ∀ statement ∈ routed.after, ¬Reports statement.tokens

theorem silent_routeParameter (index : Nat) (parameter : FieldParameter) (route : ParameterRoute) :
    (routeParameter index parameter route).Silent := by
  cases route with
  | pass => constructor <;> simp [routeParameter, Expr.tokens]
  | pullBack =>
      have converted : ¬Reports (convert "to" 0 (.variable (argumentName index))
          parameter.type).tokens :=
        not_reports_convert (by decide) 0 (by simp [Expr.tokens]) parameter.type
      constructor <;> simp [routeParameter, converted]
  | inout =>
      constructor <;>
        simp [routeParameter, Statement.tokens, Expr.tokens, Expr.tokensOfAll_eq_map,
          Token.semicolon]

theorem silent_routeParameters (index : Nat) (parameters : List FieldParameter)
    (routes : List ParameterRoute) :
    ∀ routed ∈ routeParameters index parameters routes, routed.Silent := by
  induction parameters generalizing index routes with
  | nil => simp [routeParameters]
  | cons parameter parameters inductionHypothesis =>
      cases routes with
      | nil => simp [routeParameters]
      | cons route routes =>
          rw [routeParameters, List.forall_mem_cons]
          exact ⟨silent_routeParameter index parameter route, inductionHypothesis _ routes⟩

theorem not_reports_convertOutput {function : FunctionField} {route : OutputRoute} {value : Expr}
    (silent : ¬Reports value.tokens) : ¬Reports (convertOutput function route value).tokens := by
  unfold convertOutput
  split
  · exact not_reports_convert (by decide) 0 silent _
  · exact silent

theorem not_reports_body {statements : List Statement} {result : Option Expr}
    (silent : ∀ statement ∈ statements, ¬Reports statement.tokens)
    (resultSilent : ∀ value ∈ result, ¬Reports value.tokens) :
    ¬Reports (Body.tokens ⟨statements, result⟩) := by
  cases result with
  | none => simpa [Body.tokens] using silent
  | some value => simpa [Body.tokens, resultSilent] using silent

theorem not_reports_rebuiltBody {function : FunctionField} {routed : List RoutedParameter}
    {output : OutputRoute} (silent : ∀ parameter ∈ routed, parameter.Silent) :
    ¬Reports (rebuiltBody function routed output).tokens := by
  have before : ∀ statement ∈ routed.flatMap RoutedParameter.before,
      ¬Reports statement.tokens := by
    simp only [List.mem_flatMap]
    rintro statement ⟨parameter, isRouted, member⟩
    exact (silent parameter isRouted).before statement member
  have after : ∀ statement ∈ routed.flatMap RoutedParameter.after,
      ¬Reports statement.tokens := by
    simp only [List.mem_flatMap]
    rintro statement ⟨parameter, isRouted, member⟩
    exact (silent parameter isRouted).after statement member
  have call : ¬Reports (Expr.call "field" (routed.map RoutedParameter.argument)).tokens := by
    simpa [Expr.tokens, Expr.tokensOfAll_eq_map] using
      fun parameter isRouted => (silent parameter isRouted).argument
  unfold rebuiltBody
  dsimp only
  split
  · exact not_reports_body before (by simpa using not_reports_convertOutput call)
  · split
    · have run : ¬Reports (Statement.run
          (.call "field" (routed.map RoutedParameter.argument))).tokens := by
        simpa [Statement.tokens, Token.semicolon] using call
      exact not_reports_body
        (List.forall_mem_append.mpr ⟨before, List.forall_mem_cons.mpr ⟨run, after⟩⟩) (by simp)
    · have bound : ¬Reports (Statement.bind "result" false
          (.call "field" (routed.map RoutedParameter.argument))).tokens := by
        simpa [Statement.tokens, Token.semicolon] using call
      have converted : ¬Reports (convertOutput function output (.variable "result")).tokens :=
        not_reports_convertOutput (by simp [Expr.tokens])
      exact not_reports_body
        (List.forall_mem_append.mpr ⟨before, List.forall_mem_cons.mpr ⟨bound, after⟩⟩)
        (by simpa using converted)

theorem reports_closureParameters {scope : Scope} {index : Nat} {parameters : List FieldParameter}
    {routes : List ParameterRoute} {printed : ClosureParameter}
    (member : printed ∈ closureParameters scope index parameters routes)
    (reports : Reports printed.tokens) :
    ∃ parameter ∈ parameters, Reports (typeTokens scope parameter.type) := by
  induction parameters generalizing index routes with
  | nil => simp [closureParameters] at member
  | cons parameter parameters inductionHypothesis =>
      cases routes with
      | nil => simp [closureParameters] at member
      | cons route routes =>
          rcases List.mem_cons.mp member with rfl | isLater
          · refine ⟨parameter, List.mem_cons_self .., ?_⟩
            simpa [ClosureParameter.tokens, reports_parameterTokens, Token.colon] using reports
          · obtain ⟨later, isParameter, reports⟩ := inductionHypothesis isLater
            exact ⟨later, List.mem_cons_of_mem _ isParameter, reports⟩

theorem reports_rebuiltClosure {scope : Scope} {function : FunctionField}
    {parameters : List ParameterRoute} {output : OutputRoute}
    (reports : Reports (rebuiltClosure scope function parameters output).tokens) :
    ∃ type ∈ function.signatureTypes, Reports (typeTokens scope type) := by
  have body : ¬Reports (rebuiltBody function
      (routeParameters 0 function.parameters parameters) output).tokens :=
    not_reports_rebuiltBody (silent_routeParameters 0 function.parameters parameters)
  obtain ⟨printed, member, reports⟩ : ∃ printed ∈ closureParameters scope 0 function.parameters
      parameters, Reports printed.tokens := by
    simpa [rebuiltClosure, Closure.tokens, body] using reports
  obtain ⟨parameter, isParameter, reports⟩ := reports_closureParameters member reports
  exact ⟨parameter.type, List.mem_append_left _ (List.mem_map_of_mem isParameter), reports⟩

/-- A field is carried over in words of its own type. -/
theorem reports_fieldInit {scope : Scope} {field : WitnessField} {transport : Transport}
    (reports : Reports ((fieldInit scope field transport).tokens field.name)) :
    "compile_error" = field.name ∨ Reports (fieldTypeTokens scope field) := by
  have captured (name : String) {value : List Token} :
      Reports (captureTokens name value) ↔ "compile_error" = name ∨ Reports value := by
    simp [captureTokens, sharedClone, Token.semicolon]
  unfold fieldInit at reports
  split at reports
  case h_1 function parameters output isFunction =>
    rw [reports_fieldTypeTokens_of_function isFunction]
    by_cases inClosure : Reports (rebuiltClosure scope function parameters output).tokens
    · exact .inr (reports_rebuiltClosure inClosure)
    · left
      simpa [FieldInit.tokens, captured, ownField, inClosure, Token.colon] using reports
  case h_2 =>
    exact .inl (by simpa [FieldInit.tokens, sharedClone, ownField, Token.colon] using reports)
  case h_3 => exact .inl (by simpa [FieldInit.tokens, ownField, Token.colon] using reports)

end Closures

end Code

end InterfaceWitness
