import InterfaceWitness.Token.Reading

/-!
The expressions of generated closures, and their tokens.
-/

namespace InterfaceWitness.Code

inductive Expr where
  | variable (name : String)
  | call (function : String) (arguments : List Expr)
  /-- A borrow of a variable that lets the callee change it. -/
  | borrowed (name : String)
  /-- A copy of what a reference refers to. -/
  | cloned (name : String)
  /-- The value of an option mapped under `binder`. -/
  | mapOption (value : Expr) (binder : String) (body : Expr)
  /-- A tuple taken apart and put together again. -/
  | mapTuple (value : Expr) (binders : List String) (elements : List Expr)
  deriving Repr

inductive Statement where
  | bind (name : String) (isMutable : Bool) (value : Expr)
  /-- Writes through a reference. -/
  | store (name : String) (value : Expr)
  | run (value : Expr)
  deriving Repr

structure Body where
  statements : List Statement
  result : Option Expr
  deriving Repr

structure ClosureParameter where
  name : String
  type : List Token
  deriving Repr

structure Closure where
  parameters : List ClosureParameter
  body : Body
  deriving Repr

/-- Items with a comma between any two. -/
def commaSeparated : List (List Token) → List Token
  | [] => []
  | [last] => last
  | item :: rest => item ++ Token.comma :: commaSeparated rest

/-- Items with a comma after each. -/
def commaTerminated (items : List (List Token)) : List Token :=
  items.flatMap (· ++ [Token.comma])

def parenthesized (tokens : List Token) : List Token :=
  Token.delimited .parenthesis tokens

def braced (tokens : List Token) : List Token :=
  Token.delimited .brace tokens

def angled (tokens : List Token) : List Token :=
  Token.operator ['<'] ++ tokens ++ Token.operator ['>']

/-- A path from the root of all names. -/
def rootPath (segments : List String) : List Token :=
  segments.flatMap fun segment => Token.pathSeparator ++ [.identifier segment]

def clonePath : List Token := rootPath ["core", "clone", "Clone", "clone"]

def sharedPath : List Token := rootPath ["std", "sync", "Arc"]

namespace Expr

mutual

def tokens : Expr → List Token
  | .variable name => [.identifier name]
  | .call function arguments =>
      .identifier function :: parenthesized (commaSeparated (tokensOfAll arguments))
  | .borrowed name => Token.operator ['&'] ++ [.identifier "mut", .identifier name]
  | .cloned name =>
      clonePath ++ parenthesized
        (Token.operator ['&'] ++ Token.operator ['*'] ++ [.identifier name])
  | .mapOption value binder body =>
      tokens value ++ Token.operator ['.'] ++ [.identifier "map"] ++ parenthesized
        (Token.operator ['|'] ++ [.identifier binder] ++ Token.operator ['|'] ++ tokens body)
  | .mapTuple value binders elements =>
      braced
        (.identifier "let"
          :: parenthesized (commaTerminated (binders.map fun binder => [.identifier binder]))
          ++ Token.operator ['='] ++ tokens value ++ [Token.semicolon]
          ++ parenthesized (commaTerminated (tokensOfAll elements)))

def tokensOfAll : List Expr → List (List Token)
  | [] => []
  | value :: rest => tokens value :: tokensOfAll rest

end

end Expr

def Statement.tokens : Statement → List Token
  | .bind name isMutable value =>
      .identifier "let" :: (if isMutable then [.identifier "mut"] else [])
        ++ .identifier name :: Token.operator ['='] ++ value.tokens ++ [Token.semicolon]
  | .store name value =>
      Token.operator ['*'] ++ .identifier name :: Token.operator ['='] ++ value.tokens
        ++ [Token.semicolon]
  | .run value => value.tokens ++ [Token.semicolon]

def Body.tokens (body : Body) : List Token :=
  body.statements.flatMap Statement.tokens ++ (body.result.map Expr.tokens).getD []

def ClosureParameter.tokens (parameter : ClosureParameter) : List Token :=
  .identifier parameter.name :: Token.colon :: parameter.type

/-- A closure that owns what it captures. -/
def Closure.tokens (closure : Closure) : List Token :=
  .identifier "move" :: Token.operator ['|']
    ++ commaSeparated (closure.parameters.map ClosureParameter.tokens) ++ Token.operator ['|']
    ++ braced closure.body.tokens

end InterfaceWitness.Code
