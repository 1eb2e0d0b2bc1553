import InterfaceWitness.Surface.PathReading

/-!
Reading bounds, generic parameters and where clauses.
-/

namespace InterfaceWitness.Surface

open Reader

/-- A name that an anonymous type may depend on, and whether it is a
lifetime. -/
def capturedName : Reader (Bool × List Token) := do
  if ← look startsLifetime then pure (true, [.lifetime (← lifetime)])
  else if ← look fun tokens => startsName tokens || startsWord "Self" tokens then
    pure (false, [.identifier (← nameOr ["Self"])])
  else
    wantOneOf ["lifetime", "identifier", "`>`"]

/-- The names that an anonymous type may depend on. -/
def captures : Reader (List Token) := do
  let keyword ← word "use"
  let opener ← operator ['<']
  let names ← extend (Separated.step [','] (startsOperator ['>']) (startsOperator ['>'])
    fun _ => do
      let found ← capturedName
      if ← look fun tokens => startsOperator [','] tokens || startsOperator ['>'] tokens then
        pure (found, false)
      else
        wantOneOf ["`,`", "`>`"]) Separated.empty
  let closer ← operator ['>']
  pure (keyword ++ opener ++ lifetimesFirst Prod.fst Prod.snd names ++ closer)

section Readers

variable (inner : Nested)

def lifetimeParameter : Reader GenericParameter := do
  let name ← lifetime
  let bounds ←
    if ← look (startsOperator [':']) then
      let _ ← operator [':']
      Separated.readLenient ['+']
        (fun tokens => ended tokens || startsOperator [','] tokens || startsOperator ['>'] tokens)
        lifetime
    else
      pure .empty
  let bounded := if bounds.items.isEmpty then [] else Token.colon :: lifetimesTokens bounds
  pure ⟨.lifetime, name, .lifetime name :: bounded⟩

def typeParameter : Reader GenericParameter := do
  let name ← name
  let bounds ←
    if ← look (startsOperator [':']) then
      let _ ← operator [':']
      Separated.readLenient ['+'] (fun tokens => ended tokens || startsOperator [','] tokens
        || startsOperator ['>'] tokens || startsOperator ['='] tokens) (inner.bound .declared)
    else
      pure .empty
  let default ←
    if ← look (startsOperator ['=']) then
      let sign ← operator ['=']
      pure (sign ++ (← inner.typeTokens true))
    else
      pure []
  pure ⟨.type, name, .identifier name :: boundedTokens bounds ++ default⟩

def constantParameter : Reader GenericParameter := do
  let keyword ← word "const"
  let name ← name
  let sign ← operator [':']
  let type ← inner.typeTokens true
  let default ←
    if ← look (startsOperator ['=']) then
      let sign ← operator ['=']
      pure (sign ++ (← constantArgument inner))
    else
      pure []
  pure ⟨.constant, name, keyword ++ .identifier name :: sign ++ type ++ default⟩

/-- A parameter; `starts` lists what it may begin with. -/
def genericParameter (starts : List String) : Reader GenericParameter := do
  let attributes ← outerAttributes inner
  let parameter ←
    if ← look startsLifetime then lifetimeParameter
    else if ← look startsName then typeParameter inner
    else if ← look (startsWord "const") then constantParameter inner
    else wantOneOf starts
  pure { parameter with tokens := attributes ++ parameter.tokens }

/-- A parameter of a declaration, which may be left without a name. -/
def declaredParameter : Reader GenericParameter := do
  match ← attempt do
    let attributes ← outerAttributes inner
    pure (attributes ++ (← word "_")) with
  | some tokens => pure ⟨.type, "_", tokens⟩
  | none => genericParameter inner ["lifetime", "identifier", "`const`"]

def generics : Reader Generics := do
  if ← look (startsOperator ['<']) then
    let _ ← operator ['<']
    let parameters ← Separated.read [','] (startsOperator ['>']) (declaredParameter inner)
    let _ ← operator ['>']
    pure parameters
  else
    pure .empty

/-- The parameters that a `for` brings in. -/
def binder? : Reader (Option (List Token)) := do
  if ← look (startsWord "for") then
    let keyword ← word "for"
    let opener ← operator ['<']
    let parameters ← Separated.read [','] (startsOperator ['>'])
      (genericParameter inner ["identifier", "lifetime", "`const`"])
    let closer ← operator ['>']
    pure (some (keyword ++ opener ++ parameters.tokens [Token.comma] GenericParameter.tokens
      ++ closer))
  else
    pure none

/-- The arguments of a call in a bound, with the type of its result. -/
def callArguments : Reader (List Token) := do
  let inputs ← delimited .parenthesis (commaList (inner.typeTokens true))
  pure (inputs ++ (← inner.output false))

/-- Whether the mark of a trait that holds in constant evaluation is there. -/
def constantMark (place : BoundPlace) : Reader Bool := do
  if ← look (startsOpening .bracket) then
    let _ ← within .bracket (word "const")
    if place.allowsConstants then pure true
    else fail (.refused "`[const]` is not allowed here" false)
  else if ← look (startsWord "const") then
    let _ ← word "const"
    if place.allowsConstants then pure true
    else fail (.refused "`const` is not allowed here" false)
  else
    pure false

/-- The last segment of a path without its arguments, if it has none. -/
def withoutEmptyArguments? : List Segment → Option (List Segment)
  | [] => none
  | [.plain name] => some [.plain name]
  | [.applied name _ [] _] => some [.plain name]
  | [.applied ..] => none
  | segment :: rest => (withoutEmptyArguments? rest).map (segment :: ·)

def startsCall (tokens : List Token) : Bool :=
  startsOpening .parenthesis tokens
    || (startsPathSeparator tokens && startsOpening .parenthesis (behind (behind tokens)))

/-- A trait with its arguments, and whether they are the arguments of a call. -/
def traitPath : Reader (Path × Bool × List Token) := do
  let path ← path inner false
  match withoutEmptyArguments? path.segments with
  | some segments =>
      if ← look startsCall then
        let _ ← operator? [':', ':']
        let path := { path with segments }
        pure (path, true, path.tokens ++ (← callArguments inner))
      else
        pure (path, false, path.tokens)
  | none => pure (path, false, path.tokens)

/-- A bound that names a trait.  One with a mark is kept as it is written. -/
def traitBound (place : BoundPlace) : Reader Bound := do
  let before ← binder? inner
  let isMarked ← constantMark place
  let optional ← operator? ['?']
  let binder ← if before.isNone && !optional.isEmpty then binder? inner else pure before
  let (path, isCalled, tokens) ← traitPath inner
  if binder.isSome && !optional.isEmpty then
    fail (.refused "`for<...>` binder not allowed with `?` trait polarity modifier" false)
  else if isMarked then
    pure (.constantTrait [])
  else
    pure (.trait path (optional.isEmpty && !isCalled) (optional ++ binder.getD [] ++ tokens))

def bound (place : BoundPlace) : Reader Bound := do
  let start ← upcoming
  if ← look startsLifetime then pure (.lifetime (← lifetime))
  else if ← look (startsWord "use") then
    let tokens ← captures
    if place.allowsCaptures then pure (.captures tokens)
    else fail (.refused "`use<...>` precise capturing syntax is not allowed here" false)
  else
    let isParenthesized ← look (startsOpening .parenthesis)
    let found ←
      if isParenthesized then within .parenthesis (traitBound inner place)
      else traitBound inner place
    match found with
    | .trait path isPlain tokens =>
        pure (.trait path isPlain
          (if isParenthesized then Token.delimited .parenthesis tokens else tokens))
    | _ => pure (.constantTrait (← since start))

/-- Where a predicate and a where clause as a whole may end. -/
def endsPredicate (tokens : List Token) : Bool :=
  ended tokens || startsOpening .brace tokens || startsOperator [','] tokens
    || startsOperator [';'] tokens || startsColon tokens || startsOperator ['='] tokens

def predicate : Reader (List Token) := do
  if ← look fun tokens => startsLifetime tokens && startsOperator [':'] (behind tokens) then
    let name ← lifetime
    let sign ← operator [':']
    let bounds ← Separated.readLenient ['+']
      (fun tokens => endsPredicate tokens || startsOperator [':'] tokens) lifetime
    pure (.lifetime name :: sign ++ lifetimesTokens bounds)
  else
    let binder ← binder? inner
    let type ← inner.typeTokens true
    let sign ← operator [':']
    let bounds ← Separated.readLenient ['+'] endsPredicate (inner.bound .declared)
    pure (binder.getD [] ++ type ++ sign ++ boundsTokens bounds)

def whereClause : Reader WhereClause := do
  if ← look (startsWord "where") then
    let _ ← word "where"
    if ← look startsParameters then
      refuse "generic parameters on `where` clauses are reserved for future use"
    else
      let predicates ← Separated.readLenient [','] endsPredicate (predicate inner)
      pure (some (predicates.tokens [Token.comma] id))
  else
    pure none

end Readers

end InterfaceWitness.Surface
