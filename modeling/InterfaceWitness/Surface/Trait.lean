import InterfaceWitness.Surface.Bound
import InterfaceWitness.Surface.Pattern

/-!
Trait declarations as they are written, and their tokens.  Attributes, default
bodies, default values and where clauses are kept as tokens.
-/

namespace InterfaceWitness.Surface

inductive Visibility where
  | inherited
  | everywhere
  /-- Visible in a part of the program that the parentheses name. -/
  | restricted (tokens : List Token)

def Visibility.tokens : Visibility → List Token
  | .inherited => []
  | .everywhere => [.identifier "pub"]
  | .restricted tokens => .identifier "pub" :: Token.delimited .parenthesis tokens

def Visibility.isInherited : Visibility → Bool
  | .inherited => true
  | _ => false

structure ReceiverInput where
  /-- Whether it is taken by reference, and for how long. -/
  reference : Option (Option String)
  isMutable : Bool
  type : Option SourceType

inductive Input where
  | receiver (attributes : List Token) (receiver : ReceiverInput)
  | typed (attributes : List Token) (pattern : Pattern) (type : SourceType)
  | variadic (tokens : List Token)

def ReceiverInput.tokens (receiver : ReceiverInput) : List Token :=
  (match receiver.reference with
    | none => []
    | some lifetime => Token.operator ['&'] ++ (lifetime.map Token.lifetime).toList)
    ++ (if receiver.isMutable then [.identifier "mut"] else []) ++ [.identifier "self"]
    ++ (match receiver.type with
      | none => []
      | some type => Token.colon :: type.tokens)

namespace Input

def tokens : Input → List Token
  | .receiver attributes found => attributes ++ found.tokens
  | .typed attributes pattern type => attributes ++ pattern.tokens ++ Token.colon :: type.tokens
  | .variadic tokens => tokens

def isReceiver : Input → Bool
  | .receiver .. => true
  | _ => false

def isVariadic : Input → Bool
  | .variadic _ => true
  | _ => false

end Input

structure Signature where
  isConstant : Bool
  isAsync : Bool
  isUnsafe : Bool
  convention : List Token
  name : String
  generics : Generics
  inputs : Separated Input
  output : Option SourceType
  constraints : WhereClause

def Signature.tokens (signature : Signature) : List Token :=
  (if signature.isConstant then [.identifier "const"] else [])
    ++ (if signature.isAsync then [.identifier "async"] else [])
    ++ (if signature.isUnsafe then [.identifier "unsafe"] else [])
    ++ signature.convention ++ [.identifier "fn", .identifier signature.name]
    ++ signature.generics.tokens
    ++ Token.delimited .parenthesis (signature.inputs.tokens [Token.comma] Input.tokens)
    ++ (match signature.output with
      | none => []
      | some type => Token.arrow ++ type.tokens)
    ++ WhereClause.tokens signature.constraints

structure AssociatedTypeItem where
  name : String
  generics : Generics
  bounds : Separated Bound
  default : Option SourceType
  constraints : WhereClause

def AssociatedTypeItem.tokens (item : AssociatedTypeItem) : List Token :=
  [.identifier "type", .identifier item.name] ++ item.generics.tokens
    ++ boundedTokens item.bounds
    ++ (match item.default with
      | none => []
      | some type => Token.operator ['='] ++ type.tokens)
    ++ WhereClause.tokens item.constraints ++ [Token.semicolon]

structure ConstantItem where
  name : String
  type : SourceType
  /-- The default value, with the sign before it. -/
  value : List Token

def ConstantItem.tokens (item : ConstantItem) : List Token :=
  [.identifier "const", .identifier item.name, Token.colon] ++ item.type.tokens ++ item.value
    ++ [Token.semicolon]

/-- An item of a trait with its attributes. -/
inductive TraitItem where
  | associatedType (attributes : List Token) (item : AssociatedTypeItem)
  | constant (attributes : List Token) (item : ConstantItem)
  /-- A function with its default body, or with a semicolon. -/
  | function (attributes : List Token) (signature : Signature) (body : List Token)
  | other (tokens : List Token)

def TraitItem.tokens : TraitItem → List Token
  | .associatedType attributes item => attributes ++ item.tokens
  | .constant attributes item => attributes ++ item.tokens
  | .function attributes signature body => attributes ++ signature.tokens ++ body
  | .other tokens => tokens

structure TraitDeclaration where
  attributes : List Token
  visibility : Visibility
  modifiers : List Token
  name : String
  generics : Generics
  supertraits : Separated Bound
  constraints : WhereClause
  innerAttributes : List Token
  items : List TraitItem

/-- A declaration reads as it was written, but for empty lists and the order
of generic parameters. -/
def TraitDeclaration.tokens (declaration : TraitDeclaration) : List Token :=
  declaration.attributes ++ declaration.visibility.tokens ++ declaration.modifiers
    ++ [.identifier "trait", .identifier declaration.name] ++ declaration.generics.tokens
    ++ boundedTokens declaration.supertraits
    ++ WhereClause.tokens declaration.constraints
    ++ Token.delimited .brace
      (declaration.innerAttributes ++ declaration.items.flatMap TraitItem.tokens)

end InterfaceWitness.Surface
