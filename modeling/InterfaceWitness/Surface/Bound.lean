import InterfaceWitness.Surface.Separated
import InterfaceWitness.Surface.Type

/-!
Bounds, generic parameters and where clauses as they are written.
-/

namespace InterfaceWitness.Surface

/-- Where bounds stand, which decides what may be among them. -/
inductive BoundPlace where
  /-- In an object type: lifetimes and plain traits only. -/
  | object
  /-- In a type that `impl` begins: also captured names and constant traits. -/
  | anonymous
  /-- After a colon or as a supertrait: also constant traits. -/
  | declared
  deriving DecidableEq, Repr

def BoundPlace.allowsConstants : BoundPlace → Bool
  | .object => false
  | .anonymous => true
  | .declared => true

def BoundPlace.allowsCaptures : BoundPlace → Bool
  | .anonymous => true
  | _ => false

/-- A bound on a type.  A plain one is a trait that is neither optional nor
written with the arguments of a call. -/
inductive Bound where
  | lifetime (name : String)
  | trait (path : Path) (isPlain : Bool) (tokens : List Token)
  /-- A trait that is marked as constant, which is kept as it is written. -/
  | constantTrait (tokens : List Token)
  | captures (tokens : List Token)

namespace Bound

def tokens : Bound → List Token
  | .lifetime name => [.lifetime name]
  | .trait _ _ tokens => tokens
  | .constantTrait tokens => tokens
  | .captures tokens => tokens

def isTrait : Bound → Bool
  | .trait .. => true
  | .constantTrait _ => true
  | _ => false

end Bound

def boundsTokens (bounds : Separated Bound) : List Token :=
  bounds.tokens (Token.operator ['+']) Bound.tokens

/-- A colon and bounds, or nothing where there are none. -/
def boundedTokens (bounds : Separated Bound) : List Token :=
  if bounds.items.isEmpty then [] else Token.colon :: boundsTokens bounds

def lifetimesTokens (lifetimes : Separated String) : List Token :=
  lifetimes.tokens (Token.operator ['+']) fun name => [.lifetime name]

/-- Items of which the lifetimes are printed first, with commas. -/
def lifetimesFirst {α : Type} (isLifetime : α → Bool) (tokens : α → List Token)
    (separated : Separated α) : List Token :=
  tokensWhere isLifetime separated.items
    ++ (if lacksComma isLifetime separated.trailing separated.items
          && separated.items.any (!isLifetime ·) then [Token.comma] else [])
    ++ tokensWhere (!isLifetime ·) separated.items
where
  /-- The items of one kind, each with the comma that follows it. -/
  tokensWhere (wanted : α → Bool) : List α → List Token
    | [] => []
    | [last] =>
        if wanted last then tokens last ++ if separated.trailing then [Token.comma] else [] else []
    | item :: rest =>
        (if wanted item then tokens item ++ [Token.comma] else []) ++ tokensWhere wanted rest

inductive ParameterKind where
  | lifetime
  | type
  | constant
  deriving DecidableEq, Repr

structure GenericParameter where
  kind : ParameterKind
  name : String
  tokens : List Token

def GenericParameter.isLifetime (parameter : GenericParameter) : Bool :=
  parameter.kind = .lifetime

abbrev Generics := Separated GenericParameter

/-- An empty list is not printed. -/
def Generics.tokens (generics : Generics) : List Token :=
  if generics.items.isEmpty then []
  else
    Token.operator ['<']
      ++ lifetimesFirst GenericParameter.isLifetime GenericParameter.tokens generics
      ++ Token.operator ['>']

/-- The predicates of a where clause, which may be there without any. -/
abbrev WhereClause := Option (List Token)

def WhereClause.tokens : WhereClause → List Token
  | none => []
  | some predicates => if predicates.isEmpty then [] else .identifier "where" :: predicates

end InterfaceWitness.Surface
