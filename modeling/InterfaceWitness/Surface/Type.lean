import InterfaceWitness.Token

/-!
Types as they are written in a declaration.  Forms that no witnessed
requirement can hold are kept as their tokens.
-/

namespace InterfaceWitness.Surface

mutual

inductive SourceType where
  | parenthesized (inner : SourceType)
  /-- A group without visible delimiters. -/
  | grouped (inner : SourceType)
  | tuple (elements : List SourceType) (trailing : Bool)
  | path (rooted : Bool) (segments : List Segment)
  | reference (lifetime : Option String) (isMutable : Bool) (referent : SourceType)
  | slice (element : SourceType)
  /-- One bound of an object type that no keyword introduces. -/
  | bareBound (bound : List Token) (isParenthesized : Bool)
  | other (tokens : List Token)

inductive Segment where
  | plain (name : String)
  /-- A name with arguments in angle brackets, perhaps after a separator. -/
  | applied (name : String) (separated : Bool) (arguments : List Argument) (trailing : Bool)

inductive Argument where
  | lifetime (name : String)
  | type (type : SourceType)
  | other (tokens : List Token)

end

/-- A path: its segments, and whether it begins with a separator. -/
structure Path where
  rooted : Bool
  segments : List Segment

namespace Segment

def name : Segment → String
  | .plain name => name
  | .applied name _ _ _ => name

def isPlain : Segment → Bool
  | .plain _ => true
  | .applied .. => false

end Segment

def Argument.isLifetime : Argument → Bool
  | .lifetime _ => true
  | _ => false

/-- Whether one of several arguments or parameters, the lifetimes among them
being printed first, still needs a comma before the others: the last of those
that come first had none. -/
def lacksComma {α : Type} (first : α → Bool) (trailing : Bool) : List α → Bool
  | [] => false
  | [last] => first last && !trailing
  | _ :: rest => lacksComma first trailing rest

mutual

def SourceType.tokens : SourceType → List Token
  | .parenthesized inner => Token.delimited .parenthesis inner.tokens
  | .grouped inner => inner.tokens
  | .tuple elements trailing =>
      Token.delimited .parenthesis (SourceType.tokensOfAll trailing elements)
  | .path rooted segments =>
      (if rooted then Token.pathSeparator else []) ++ Segment.tokensOfAll segments
  | .reference lifetime isMutable referent =>
      Token.operator ['&'] ++ (lifetime.map Token.lifetime).toList
        ++ (if isMutable then [.identifier "mut"] else []) ++ referent.tokens
  | .slice element => Token.delimited .bracket element.tokens
  | .bareBound bound true => Token.delimited .parenthesis bound
  | .bareBound bound false => bound
  | .other tokens => tokens

def SourceType.tokensOfAll (trailing : Bool) : List SourceType → List Token
  | [] => []
  | [last] => last.tokens ++ if trailing then [Token.comma] else []
  | element :: rest =>
      element.tokens ++ Token.comma :: SourceType.tokensOfAll trailing rest

def Segment.tokens : Segment → List Token
  | .plain name => [.identifier name]
  | .applied name separated arguments trailing =>
      .identifier name :: (if separated then Token.pathSeparator else [])
        ++ Token.operator ['<'] ++ Argument.tokensWhere Argument.isLifetime trailing arguments
        ++ (if lacksComma Argument.isLifetime trailing arguments
              && arguments.any (!·.isLifetime) then [Token.comma] else [])
        ++ Argument.tokensWhere (!·.isLifetime) trailing arguments ++ Token.operator ['>']

def Segment.tokensOfAll : List Segment → List Token
  | [] => []
  | [last] => last.tokens
  | segment :: rest => segment.tokens ++ Token.pathSeparator ++ Segment.tokensOfAll rest

def Argument.tokens : Argument → List Token
  | .lifetime name => [.lifetime name]
  | .type type => type.tokens
  | .other tokens => tokens

/-- The arguments of one kind, each with the comma that follows it. -/
def Argument.tokensWhere (wanted : Argument → Bool) (trailing : Bool) :
    List Argument → List Token
  | [] => []
  | [last] =>
      if wanted last then last.tokens ++ if trailing then [Token.comma] else [] else []
  | argument :: rest =>
      (if wanted argument then argument.tokens ++ [Token.comma] else [])
        ++ Argument.tokensWhere wanted trailing rest

end

namespace Path

def tokens (path : Path) : List Token :=
  (if path.rooted then Token.pathSeparator else []) ++ Segment.tokensOfAll path.segments

end Path

end InterfaceWitness.Surface
