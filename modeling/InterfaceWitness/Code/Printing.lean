import InterfaceWitness.Code.Witness

/-!
The tokens of a witness.
-/

namespace InterfaceWitness.Code

def word (name : String) : List Token := [.identifier name]

def fragment (source : String) : List Token := Token.ofFragment source

/-- Documentation as an attribute. -/
def documentationTokens (literal : String) : List Token :=
  Token.operator ['#'] ++ Token.delimited .bracket
    (word "doc" ++ Token.operator ['='] ++ [.literal literal])

/-- Documentation that names something. -/
def computedDocumentation (text : String) : List Token :=
  documentationTokens (Text.stringLiteral text)

def fixedDocumentation (text : String) : List Token :=
  documentationTokens ("r\"" ++ text ++ "\"")

def accessTokens : Access → List Token
  | .exported => fragment "pub"
  | .internal => fragment "pub(crate)"
  | .unmarked => []
  | .hidden => []

def parameterList (parameters : List String) : List Token :=
  angled (commaSeparated (parameters.map word))

/-- A name with its parameters in angle brackets. -/
def applied (name : String) (parameters : List String) : List Token :=
  word name ++ parameterList parameters

/-- An implementation for all parameters. -/
def implementation (parameters : List String) (header items : List Token) : List Token :=
  fragment "impl" ++ parameterList parameters ++ header ++ braced items

def phantom : List Token := fragment "_marker: ::core::marker::PhantomData"

def fieldTypeTokens (scope : Scope) (field : WitnessField) : List Token :=
  match field.kind with
  | .function function => sharedFunction (signatureTokens scope function)
  | .nested _ witness associatedType => word witness ++ angled (word associatedType)

def storable : List Token := sendAndSync ++ fragment "+ 'static"

def constructorParameter (scope : Scope) (field : WitnessField) : List Token :=
  word field.name ++ Token.colon :: match field.kind with
    | .function function => fragment "impl" ++ signatureTokens scope function ++ storable
    | .nested .. => fieldTypeTokens scope field

def constructorInit (field : WitnessField) : List Token :=
  match field.kind with
  | .function _ =>
      word field.name ++ Token.colon :: sharedPath ++ fragment "::new"
        ++ parenthesized (word field.name)
  | .nested .. => word field.name

/-- A function from one type parameter to another. -/
def conversionType (conversion : ConversionParameter) (subject target : String) : List Token :=
  let source := if conversion.intoSubject then target else subject
  let goal := if conversion.intoSubject then subject else target
  fragment "impl" ++ functionTrait [word source] (some (word goal)) ++ storable

def ConversionParameter.tokens (conversion : ConversionParameter) (subject target : String) :
    List Token :=
  word conversion.parameter ++ Token.colon :: conversionType conversion subject target

def ConversionParameter.setup (conversion : ConversionParameter) : List Token :=
  fragment "let" ++ word conversion.captured ++ Token.operator ['='] ++ sharedPath
    ++ fragment "::new" ++ parenthesized (word conversion.parameter) ++ [Token.semicolon]

def transformerDocumentation (kind : TransformKind) (subject target : String) : String :=
  match kind with
  | .map => " Moves the witness to `" ++ target ++ "` along a function out of `" ++ subject ++ "`."
  | .pullback =>
      " Moves the witness to `" ++ target ++ "` along a function into `" ++ subject ++ "`."
  | _ => " Moves the witness to `" ++ target ++ "` along a pair of inverse functions."

namespace ConformingArgument

/-- An argument of a forwarding closure where it is passed on. -/
def forwarded (index : Nat) : List Bool → List (List Token)
  | [] => []
  | byReference :: rest =>
      ((if byReference then Token.operator ['&'] else []) ++ word (argumentName index))
        :: forwarded (index + 1) rest

def tokens (subject interface : String) : ConformingArgument → List Token
  | .nested witness associatedType =>
      angled (word witness ++ angled (angled (word subject ++ fragment "as" ++ word interface)
        ++ Token.pathSeparator ++ word associatedType)) ++ fragment "::conforming()"
  | .constant member =>
      fragment "||" ++ angled (word subject ++ fragment "as" ++ word interface)
        ++ Token.pathSeparator ++ word member
  | .call member arguments =>
      Token.operator ['|']
        ++ commaSeparated ((List.range arguments.length).map fun index => word (argumentName index))
        ++ Token.operator ['|'] ++ angled (word subject ++ fragment "as" ++ word interface)
        ++ Token.pathSeparator ++ word member
        ++ parenthesized (commaSeparated (forwarded 0 arguments))

end ConformingArgument

namespace WitnessCode

variable (code : WitnessCode)

def definitionTokens : List Token :=
  computedDocumentation
      (" Witness of `" ++ code.interface ++ "`: each requirement as a function over `"
        ++ code.scope.subject ++ "`.")
    ++ fragment "#[allow(clippy::type_complexity)]" ++ accessTokens code.access
    ++ fragment "struct" ++ applied code.name code.scope.parameters
    ++ braced
      (commaTerminated (code.fields.map fun field =>
          accessTokens code.access ++ word field.name
            ++ Token.colon :: fieldTypeTokens code.scope field)
        ++ phantom
        ++ angled (fragment "fn() ->"
          ++ parenthesized (commaTerminated (code.scope.parameters.map word)))
        ++ [Token.comma])

def cloneTokens : List Token :=
  implementation code.scope.parameters
    (fragment "::core::clone::Clone for" ++ applied code.name code.scope.parameters)
    (fragment "fn clone(&self) -> Self"
      ++ braced (fragment "Self" ++ braced
        (commaTerminated (code.fields.map fun field =>
            word field.name ++ Token.colon :: clonePath
              ++ parenthesized (Token.operator ['&'] ++ ownField field.name))
          ++ phantom ++ [Token.comma])))

def constructorTokens : List Token :=
  implementation code.scope.parameters (applied code.name code.scope.parameters)
    (fixedDocumentation " Builds a witness from one value per requirement, in declaration order."
      ++ fragment "#[allow(clippy::too_many_arguments, clippy::new_without_default)]"
      ++ accessTokens code.access ++ fragment "fn new"
      ++ parenthesized (commaSeparated (code.fields.map (constructorParameter code.scope)))
      ++ fragment "-> Self"
      ++ braced (fragment "Self" ++ braced
        (commaTerminated (code.fields.map constructorInit) ++ phantom ++ [Token.comma])))

def transformerTokens (transformer : Transformer) : List Token :=
  let subject := code.scope.subject
  let conversions := conversionParameters transformer.kind
  implementation code.scope.parameters (applied code.name code.scope.parameters)
    (computedDocumentation (transformerDocumentation transformer.kind subject code.target)
      ++ fragment "#[allow(unused_variables)]" ++ accessTokens code.access ++ fragment "fn"
      ++ applied transformer.name [code.target]
      ++ parenthesized (fragment "&self," ++ commaSeparated
        (conversions.map fun conversion => conversion.tokens subject code.target))
      ++ Token.arrow ++ applied code.name (code.target :: code.scope.associated)
      ++ fragment "where"
      ++ commaTerminated ((code.scope.parameters ++ [code.target]).map fun parameter =>
        word parameter ++ fragment ": 'static")
      ++ (if transformer.clonesTarget then
          word code.target ++ fragment ": ::core::clone::Clone,"
        else [])
      ++ braced
        (conversions.flatMap ConversionParameter.setup ++ word code.name
          ++ braced
            (commaTerminated (transformer.inits.map fun entry => entry.2.tokens entry.1)
              ++ phantom ++ [Token.comma])))

def foldTokens (field : String) : List Token :=
  let subject := word code.scope.subject
  computedDocumentation (" Folds `items` into `initial` with `" ++ field ++ "`, left to right.")
    ++ accessTokens code.access ++ fragment "fn" ++ word (foldName field)
    ++ parenthesized
      (fragment "&self, initial:" ++ subject
        ++ fragment ", items: impl ::core::iter::IntoIterator"
        ++ angled (fragment "Item =" ++ subject))
    ++ Token.arrow ++ subject
    ++ braced
      (fragment "items.into_iter().fold" ++ parenthesized
        (fragment "initial, |acc, item|" ++ parenthesized (ownField field)
          ++ fragment "(acc, item)"))

def utilitiesTokens (utilities : Utilities) : List Token :=
  let subject := word code.scope.subject
  let selfBound := fragment "where Self: 'static,"
  implementation code.scope.parameters (applied code.name code.scope.parameters)
    (utilities.folds.flatMap code.foldTokens
      ++ fixedDocumentation " Stores this witness in the shared registry under its subject type."
      ++ accessTokens code.access
      ++ fragment "fn register(self, label: ::core::option::Option<&str>)" ++ selfBound
      ++ braced
        (utilities.runtime ++ fragment "::registry::register::"
          ++ angled (subject ++ fragment ", Self") ++ fragment "(self, label)")
      ++ fixedDocumentation
        " Fetches the witness registered for the subject type under `label`."
      ++ accessTokens code.access
      ++ fragment "fn registered(label: ::core::option::Option<&str>)"
      ++ fragment "-> ::core::option::Option<Self>" ++ selfBound
      ++ braced
        (utilities.runtime ++ fragment "::registry::lookup::"
          ++ angled (subject ++ fragment ", Self") ++ fragment "(label)"))

def conformanceTokens (conformance : Conformance) : List Token :=
  let subject := word code.scope.subject
  let interface := word conformance.interface
  let projections := code.scope.associated.map fun associated =>
    angled (subject ++ fragment "as" ++ interface) ++ Token.pathSeparator ++ word associated
  fragment "impl" ++ angled subject ++ word code.name
    ++ angled (commaSeparated (subject :: projections)) ++ fragment "where" ++ subject
    ++ Token.colon :: interface ++ fragment "+ 'static,"
    ++ commaTerminated (projections.map (· ++ fragment ": 'static"))
    ++ braced
      (fixedDocumentation
          " Builds the witness from the subject's own implementation of the interface."
        ++ accessTokens code.access ++ fragment "fn conforming() -> Self"
        ++ braced
          (fragment "Self::new" ++ parenthesized (commaSeparated
            (conformance.arguments.map
              (ConformingArgument.tokens code.scope.subject conformance.interface)))))

def tokens : List Token :=
  code.definitionTokens ++ code.cloneTokens ++ code.constructorTokens
    ++ code.transformers.flatMap code.transformerTokens
    ++ (code.utilities.map code.utilitiesTokens).getD []
    ++ (code.conformance.map code.conformanceTokens).getD []

end WitnessCode

end InterfaceWitness.Code
