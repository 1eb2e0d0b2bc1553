import InterfaceWitness.Surface.BoundReading

/-!
Reading types.  What a type begins with decides its form.
-/

namespace InterfaceWitness.Surface

open Reader

/-- What a type may begin with, as a message lists it. -/
def typeStarts : List String :=
  ["`for`", "parentheses", "`fn`", "`unsafe`", "`extern`", "identifier", "`::`", "`<`", "`dyn`",
    "square brackets", "`*`", "`&`", "`!`", "`impl`", "`_`", "lifetime"]

/-- What may follow the parameters that a `for` brings in. -/
def quantifiedTypeStarts : List String :=
  ["identifier", "`fn`", "`unsafe`", "`extern`", "`super`", "`self`", "`Self`", "`crate`"]

def startsFunctionType (tokens : List Token) : Bool :=
  startsWordOf ["fn", "unsafe", "extern"] tokens

/-- Whether another bound can follow a plus sign. -/
def startsBound (place : BoundPlace) (tokens : List Token) : Bool :=
  startsAnyWord tokens || startsPathSeparator tokens || startsOperator ['?'] tokens
    || startsLifetime tokens || startsOpening .parenthesis tokens
    || (place.allowsConstants && startsOpening .bracket tokens)

/-- The call of a form that only the language itself provides. -/
def startsBuiltin (tokens : List Token) : Bool :=
  startsWord "builtin" tokens && startsOperator ['#'] (behind tokens)

def builtin : Reader (List Token) := do
  let keyword ← word "builtin"
  let pound ← operator ['#']
  let name ← name
  if ← look (startsOpening .parenthesis) then
    pure (keyword ++ pound ++ .identifier name :: (← group))
  else
    want Delimiter.parenthesis.description

/-- A calling convention, which may be left unnamed. -/
def abi : Reader (List Token) := do
  let keyword ← word "extern"
  if ← look startsString then pure (keyword ++ (← literal)) else pure keyword

def abi? : Reader (List Token) := do
  if ← look (startsWord "extern") then abi else pure []

section Readers

variable (inner : Nested)

/-- Bounds joined by plus signs, one of them if `sums` does not hold. -/
def boundSum (sums : Bool) (place : BoundPlace) : Reader (Separated Bound) := do
  let first ← inner.bound place
  if sums && (← look (startsOperator ['+'])) then
    let _ ← operator ['+']
    let more ← Separated.readLenient ['+'] (!startsBound place ·) (inner.bound place)
    pure ⟨first :: more.items, more.trailing⟩
  else
    pure ⟨[first], false⟩

/-- Bounds of which one names a trait. -/
def traitSum (sums : Bool) (place : BoundPlace) (fault : String) : Reader (Separated Bound) := do
  let bounds ← boundSum inner sums place
  if bounds.items.any Bound.isTrait then pure bounds else fail (.refused fault false)

def objectBounds (sums : Bool) : Reader (Separated Bound) :=
  traitSum inner sums .object "at least one trait is required for an object type"

/-- A plus sign and a bound, as often as a plus sign follows. -/
def addedBounds : Reader (List Token) :=
  readWhile (startsOperator ['+']) do
    let sign ← operator ['+']
    pure (sign ++ (← inner.bound .object).tokens)

/-- What stands between parentheses in a type. -/
inductive ParenthesizedType where
  | complete (type : SourceType)
  /-- The first bound of an object type. -/
  | bound (tokens : List Token)
  | single (type : SourceType)

def parenthesizedContent : Reader ParenthesizedType := do
  if ← atEnd then pure (.complete (.tuple [] false))
  else if ← look startsLifetime then
    pure (.complete (.parenthesized (.other (boundsTokens (← objectBounds inner true)))))
  else if ← look (startsOperator ['?']) then
    pure (.bound (← traitBound inner .object).tokens)
  else
    let first ← inner.type true
    if ← look (startsOperator [',']) then
      let _ ← operator [',']
      let more ← Separated.read [','] ended (inner.type true)
      pure (.complete (.tuple (first :: more.items) more.trailing))
    else
      pure (.single first)

/-- The bound that a type in parentheses is, if more of them may follow. -/
def SourceType.bound? : SourceType → Option (List Token)
  | .path rooted segments => some (SourceType.path rooted segments).tokens
  | .bareBound bound _ => some bound
  | _ => none

def parenthesizedType (sums : Bool) : Reader SourceType := do
  match ← within .parenthesis (parenthesizedContent inner) with
  | .complete type => pure type
  | .bound tokens =>
      if ← look (startsOperator ['+']) then
        pure (.other (Token.delimited .parenthesis tokens ++ (← addedBounds inner)))
      else
        pure (.bareBound tokens true)
  | .single type =>
      match type.bound? with
      | none => pure (.parenthesized type)
      | some tokens =>
          if sums && (← look (startsOperator ['+'])) then
            pure (.other (Token.delimited .parenthesis tokens ++ (← addedBounds inner)))
          else
            pure (.parenthesized type)

/-- The dots of a variable argument list, perhaps with a name. -/
def startsVariadic (tokens : List Token) : Bool :=
  startsEllipsis tokens
    || ((startsName tokens || startsWord "_" tokens) && startsOperator [':'] (behind tokens)
      && startsEllipsis (behind (behind tokens)))

def variadicParameter : Reader (List Token) := do
  let label ←
    if ← look fun tokens => startsName tokens || startsWord "_" tokens then
      let name ← nameOr ["_"]
      pure (.identifier name :: (← operator [':']))
    else
      pure []
  let dots ← operator ['.', '.', '.']
  pure (label ++ dots ++ (← operator? [',']))

/-- The name of a parameter.  That of the first one may be `self`. -/
def startsLabel (isFirst : Bool) (tokens : List Token) : Bool :=
  (startsName tokens || startsWord "_" tokens || (isFirst && startsWord "self" tokens))
    && startsColon (behind tokens)

def parameterLabel (isFirst : Bool) : Reader (List Token) := do
  if ← look (startsLabel isFirst) then
    let name ← nameOr ["_", "self"]
    pure (.identifier name :: (← operator [':']))
  else
    pure []

/-- A parameter that begins with `mut self`, which is kept as it is written. -/
def mutableSelfParameter : Reader (List Token) := do
  let start ← upcoming
  let _ ← word "mut"
  if ← look (startsLabel true) then
    let _ ← parameterLabel true
    let _ ← inner.type true
  else
    let _ ← word "self"
  since start

/-- A parameter of a function type, and whether it has to be the last. -/
def functionTypeParameter (isFirst : Bool) : Reader (List Token × Bool) := do
  let attributes ← outerAttributes inner
  if ← look startsVariadic then pure (attributes ++ (← variadicParameter), true)
  else if isFirst
      && (← look fun tokens => startsWord "mut" tokens && startsWord "self" (behind tokens)) then
    pure (attributes ++ (← mutableSelfParameter inner), false)
  else
    let label ← parameterLabel isFirst
    pure (attributes ++ label ++ (← inner.typeTokens true), false)

def functionType : Reader (List Token) := do
  let unsafety ← word? "unsafe"
  let convention ← abi?
  let keyword ← word "fn"
  let parameters ← within .parenthesis
    (Separated.readAll fun before => functionTypeParameter inner before.isEmpty)
  pure (unsafety ++ convention ++ keyword
    ++ Token.delimited .parenthesis (parameters.tokens [Token.comma] id) ++ (← inner.output false))

/-- The object type that begins with a path, or the path itself. -/
def pathSum (sums : Bool) (binder : Option (List Token)) (found : Path) : Reader SourceType := do
  let first := binder.getD [] ++ found.tokens
  if sums && (← look (startsOperator ['+'])) then
    let sign ← operator ['+']
    let more ← Separated.readLenient ['+'] (!startsBound .object ·) (inner.bound .object)
    pure (.other (first ++ sign ++ boundsTokens more))
  else if binder.isSome then
    pure (.bareBound first false)
  else
    pure (.path found.rooted found.segments)

/-- A path, the call of a macro, or bounds that begin with a path. -/
def pathType (sums : Bool) (binder : Option (List Token)) : Reader SourceType := do
  let found ← path inner false
  if (← look startsBang) && found.segments.all Segment.isPlain then
    pure (.other (found.tokens ++ (← macroArguments)))
  else
    pathSum inner sums binder found

def arrayOrSlice : Reader SourceType :=
  within .bracket do
    let element ← inner.type true
    if ← look (startsOperator [';']) then
      let sign ← operator [';']
      let count ← inner.expression
      pure (.other (Token.delimited .bracket (element.tokens ++ sign ++ count)))
    else
      pure (.slice element)

def pointerType : Reader SourceType := do
  let star ← operator ['*']
  let qualifier ←
    if ← look (startsWord "const") then word "const"
    else if ← look (startsWord "mut") then word "mut"
    else wantOneOf ["`const`", "`mut`"]
  pure (.other (star ++ qualifier ++ (← inner.typeTokens false)))

def referenceType : Reader SourceType := do
  let _ ← operator ['&']
  let lifetime ← lifetime?
  let mutability ← word? "mut"
  pure (.reference lifetime (!mutability.isEmpty) (← inner.type false))

def sourceType (sums : Bool) : Reader SourceType := do
  let binder ← binder? inner
  if binder.isSome
      && !(← look fun tokens => startsModuleWord tokens || startsFunctionType tokens) then
    wantOneOf quantifiedTypeStarts
  else if ← look (startsOpening .parenthesis) then parenthesizedType inner sums
  else if ← look startsFunctionType then
    pure (.other (binder.getD [] ++ (← functionType inner)))
  else if ← look startsBuiltin then pure (.other (← builtin))
  else if ← look fun tokens => startsModuleWord tokens || startsPathSeparator tokens then
    pathType inner sums binder
  else if ← look (startsOperator ['<']) then
    pure (.other (← qualifiedPath inner false))
  else if ← look (startsWord "dyn") then
    let start ← upcoming
    let keyword ← word "dyn"
    let star ← operator? ['*']
    let bounds ← objectBounds inner sums
    if star.isEmpty then pure (.other (keyword ++ boundsTokens bounds))
    else pure (.other (← since start))
  else if ← look (startsOpening .bracket) then arrayOrSlice inner
  else if ← look (startsOperator ['*']) then pointerType inner
  else if ← look (startsOperator ['&']) then referenceType inner
  else if ← look (startsOperator ['!']) then pure (.other (← operator ['!']))
  else if ← look (startsWord "impl") then
    let keyword ← word "impl"
    let bounds ← traitSum inner sums .anonymous "at least one trait must be specified"
    pure (.other (keyword ++ boundsTokens bounds))
  else if ← look (startsWord "_") then pure (.other (← word "_"))
  else if ← look startsLifetime then
    pure (.other (boundsTokens (← objectBounds inner true)))
  else wantOneOf typeStarts

end Readers

end InterfaceWitness.Surface
