import InterfaceWitness.Code.Expr
import InterfaceWitness.Transform

/-!
The types that stand for type expressions in generated code, where a type
parameter takes the place of the subject.
-/

namespace InterfaceWitness.Code

/-- An error for the compiler to report. -/
def compileError (message : String) : List Token :=
  rootPath ["core", "compile_error"] ++ Token.operator ['!']
    ++ braced [.literal (Text.stringLiteral message)]

def pathTokens (name : String) : List Token :=
  match Surface.Path.ofText name with
  | .ok path => path.tokens
  | .error error => compileError error.message

/-- The type parameters in scope. -/
structure Scope where
  subject : String
  associated : List String
  deriving DecidableEq, Repr

namespace Scope

/-- The parameter that `name` stands for, if there is one. -/
def parameter? (scope : Scope) (name : String) : Option String :=
  if name = selfType then some scope.subject
  else scope.associated.find? (namesSubject name)

def resolve (scope : Scope) (name : String) : List Token :=
  match scope.parameter? name with
  | some parameter => [.identifier parameter]
  | none => pathTokens name

def parameters (scope : Scope) : List String :=
  scope.subject :: scope.associated

end Scope

/-- The marker traits of values that threads share. -/
def sendAndSync : List Token :=
  Token.operator ['+'] ++ rootPath ["core", "marker", "Send"] ++ Token.operator ['+']
    ++ rootPath ["core", "marker", "Sync"]

def functionTrait (parameters : List (List Token)) (output : Option (List Token)) : List Token :=
  .identifier "Fn" :: parenthesized (commaSeparated parameters)
    ++ (match output with
      | some type => Token.arrow ++ type
      | none => [])

/-- A function that threads share. -/
def sharedFunction (signature : List Token) : List Token :=
  sharedPath ++ angled (.identifier "dyn" :: signature ++ sendAndSync)

mutual

def typeTokens (scope : Scope) : TypeExpr → List Token
  | .identifier name => scope.resolve name
  | .generic base arguments =>
      pathTokens base ++ angled (commaSeparated (typeTokensOfAll scope arguments))
  | .function parameters output =>
      sharedFunction (functionTrait (typeTokensOfAll scope parameters)
        (typeTokensOfOutput scope output))
  | .tuple elements => parenthesized (commaTerminated (typeTokensOfAll scope elements))
  | .optional inner =>
      rootPath ["core", "option", "Option"] ++ angled (typeTokens scope inner)

def typeTokensOfAll (scope : Scope) : List TypeExpr → List (List Token)
  | [] => []
  | type :: rest => typeTokens scope type :: typeTokensOfAll scope rest

def typeTokensOfOutput (scope : Scope) : Option TypeExpr → Option (List Token)
  | none => none
  | some output => some (typeTokens scope output)

end

def parameterTokens (scope : Scope) (parameter : FieldParameter) : List Token :=
  match parameter.passing with
  | .inout => Token.operator ['&'] ++ .identifier "mut" :: typeTokens scope parameter.type
  | _ => typeTokens scope parameter.type

def signatureTokens (scope : Scope) (function : FunctionField) : List Token :=
  functionTrait (function.parameters.map (parameterTokens scope))
    (function.output.map (typeTokens scope))

end InterfaceWitness.Code
