import InterfaceWitness.Code.Type

/-!
The closures that carry a field from one subject to another.
-/

namespace InterfaceWitness.Code

def valueBinder (depth : Nat) : String := "value" ++ toString depth

def elementBinder (depth index : Nat) : String :=
  "item" ++ toString depth ++ "_" ++ toString index

mutual

/-- Applies `function` to `value` wherever the subject stands in its type:
alone, under options or in tuples. -/
def convert (function : String) (depth : Nat) (value : Expr) : TypeExpr → Expr
  | .optional inner =>
      if inner.mentions SubjectNames.primary then
        .mapOption value (valueBinder depth)
          (convert function (depth + 1) (.variable (valueBinder depth)) inner)
      else value
  | .tuple elements =>
      if (TypeExpr.tuple elements).mentions SubjectNames.primary then
        .mapTuple value ((List.range elements.length).map (elementBinder depth))
          (convertElements function depth 0 elements)
      else value
  | type => if type.mentions SubjectNames.primary then .call function [value] else value

def convertElements (function : String) (depth index : Nat) : List TypeExpr → List Expr
  | [] => []
  | element :: rest =>
      convert function (depth + 1) (.variable (elementBinder depth index)) element
        :: convertElements function depth (index + 1) rest

end

def argumentName (index : Nat) : String := "arg" ++ toString index

def subjectName (index : Nat) : String := "subject" ++ toString index

/-- What becomes of the parameter at `index`: the statements before the call,
the argument, and the statements after it. -/
structure RoutedParameter where
  before : List Statement
  argument : Expr
  after : List Statement

def routeParameter (index : Nat) (parameter : FieldParameter) : ParameterRoute → RoutedParameter
  | .pass => ⟨[], .variable (argumentName index), []⟩
  | .pullBack => ⟨[], convert "to" 0 (.variable (argumentName index)) parameter.type, []⟩
  | .inout =>
      ⟨[.bind (subjectName index) true (.call "to" [.cloned (argumentName index)])],
        .borrowed (subjectName index),
        [.store (argumentName index) (.call "from" [.variable (subjectName index)])]⟩

def routeParameters (index : Nat) :
    List FieldParameter → List ParameterRoute → List RoutedParameter
  | parameter :: parameters, route :: routes =>
      routeParameter index parameter route :: routeParameters (index + 1) parameters routes
  | _, _ => []

def closureParameters (scope : Scope) (index : Nat) :
    List FieldParameter → List ParameterRoute → List ClosureParameter
  | parameter :: parameters, _ :: routes =>
      ⟨argumentName index, parameterTokens scope parameter⟩
        :: closureParameters scope (index + 1) parameters routes
  | _, _ => []

def convertOutput (function : FunctionField) (route : OutputRoute) (value : Expr) : Expr :=
  match function.output, route with
  | some type, .map => convert "from" 0 value type
  | _, _ => value

/-- The body of a rebuilt field.  What was changed in place is written back
before the result is converted. -/
def rebuiltBody (function : FunctionField) (routed : List RoutedParameter) (output : OutputRoute) :
    Body :=
  let before := routed.flatMap RoutedParameter.before
  let call := Expr.call "field" (routed.map RoutedParameter.argument)
  let after := routed.flatMap RoutedParameter.after
  if after.isEmpty then ⟨before, some (convertOutput function output call)⟩
  else if function.output.isNone then ⟨before ++ .run call :: after, none⟩
  else
    ⟨before ++ .bind "result" false call :: after,
      some (convertOutput function output (.variable "result"))⟩

def rebuiltClosure (scope : Scope) (function : FunctionField) (parameters : List ParameterRoute)
    (output : OutputRoute) : Closure :=
  ⟨closureParameters scope 0 function.parameters parameters,
    rebuiltBody function (routeParameters 0 function.parameters parameters) output⟩

/-- How a field of the converted witness is made. -/
inductive FieldInit where
  /-- The same function, shared. -/
  | shared
  /-- A copy of an embedded witness. -/
  | copied
  /-- A closure over the old function and the conversions that it uses. -/
  | rebuilt (conversions : List String) (closure : Closure)
  deriving Repr

def fieldInit (scope : Scope) (field : WitnessField) (transport : Transport) : FieldInit :=
  match field.kind, transport with
  | .function function, .rebuild parameters output =>
      .rebuilt
        ((if transport.needsTo then ["to"] else [])
          ++ if transport.needsFrom then ["from"] else [])
        (rebuiltClosure scope function parameters output)
  | _, .forward => .shared
  | _, _ => .copied

def sharedClone (value : List Token) : List Token :=
  sharedPath ++ Token.pathSeparator ++ .identifier "clone"
    :: parenthesized (Token.operator ['&'] ++ value)

def ownField (name : String) : List Token :=
  .identifier "self" :: Token.operator ['.'] ++ [.identifier name]

/-- A capture: a second handle on what the closure uses. -/
def captureTokens (name : String) (value : List Token) : List Token :=
  .identifier "let" :: .identifier name :: Token.operator ['='] ++ sharedClone value
    ++ [Token.semicolon]

def FieldInit.tokens (field : String) : FieldInit → List Token
  | .shared => .identifier field :: Token.colon :: sharedClone (ownField field)
  | .copied =>
      .identifier field :: Token.colon :: clonePath
        ++ parenthesized (Token.operator ['&'] ++ ownField field)
  | .rebuilt conversions closure =>
      .identifier field :: Token.colon :: braced
        (captureTokens "field" (ownField field)
          ++ conversions.flatMap (fun name => captureTokens name [.identifier name])
          ++ sharedPath ++ Token.pathSeparator ++ .identifier "new" :: parenthesized closure.tokens)

end InterfaceWitness.Code
