import InterfaceWitness.Surface.Nested

/-!
Reading attributes and paths.
-/

namespace InterfaceWitness.Surface

open Reader

/-- A path without arguments. -/
def modulePath : Reader (List Token) := do
  let root ← operator? [':', ':']
  let segments ← Separated.readLenient [':', ':'] (!startsModuleWord ·) (anyWord "identifier")
  if segments.items.isEmpty then
    pure [.identifier (← name)]
  else if segments.trailing then
    refuse "expected path segment after `::`"
  else
    pure (root ++ segments.tokens Token.pathSeparator fun segment => [.identifier segment])

/-- What a field is known by. -/
inductive FieldLabel where
  | name (text : String)
  | number (value : Nat)

namespace FieldLabel

def isName : FieldLabel → Bool
  | .name _ => true
  | .number _ => false

/-- A number is printed in decimal. -/
def tokens : FieldLabel → List Token
  | .name text => [.identifier text]
  | .number value => [.literal (toString value)]

/-- The number of a field is a word of 32 bits. -/
def limit : Nat := 0x100000000

end FieldLabel

/-- The number of a field, as the text of a literal gives it. -/
def fieldNumber (isNegative : Bool) (text : String) : Reader FieldLabel :=
  match Token.WholeNumber.ofText? text with
  | none => fail (.expected "integer literal" false)
  | some number =>
      if !number.suffix.isEmpty then fail (.expected "unsuffixed integer" false)
      else if isNegative then fail (.refused "invalid digit found in string" false)
      else if FieldLabel.limit ≤ number.value then
        fail (.refused "number too large to fit in target type" false)
      else
        pure (.number number.value)

def fieldLabel : Reader FieldLabel := do
  if ← look startsName then
    pure (.name (← name))
  else if ← look (startsNumber (!Token.isFractional ·)) then
    match ← literal with
    | [.literal text] => fieldNumber false text
    | [_, .literal text] => fieldNumber true text
    | _ => want "identifier or integer"
  else
    want "identifier or integer"

section Readers

variable (inner : Nested)

/-- What an attribute is equal to. -/
def attributeValue : Reader (List Token) := do
  if ← look fun tokens =>
      startsOperator ['#'] tokens && startsOpening .bracket (behind tokens) then
    refuse "unexpected attribute inside of attribute"
  else
    inner.expression

def attributeContent : Reader (List Token) := do
  let path ← if ← look (startsWord "unsafe") then word "unsafe" else modulePath
  if ← look startsGroup then
    pure (path ++ (← group))
  else if ← look fun tokens =>
      startsAssignment tokens && !startsOperator ['=', '='] tokens then
    let sign ← operator ['=']
    pure (path ++ sign ++ (← attributeValue inner))
  else
    pure path

def outerAttribute : Reader (List Token) := do
  let pound ← operator ['#']
  pure (pound ++ (← delimited .bracket (attributeContent inner)))

def innerAttribute : Reader (List Token) := do
  let pound ← operator ['#']
  let bang ← operator ['!']
  pure (pound ++ bang ++ (← delimited .bracket (attributeContent inner)))

def outerAttributes : Reader (List Token) :=
  readWhile (startsOperator ['#']) (outerAttribute inner)

def innerAttributes : Reader (List Token) :=
  readWhile (fun tokens => startsOperator ['#'] tokens && startsOperator ['!'] (behind tokens))
    (innerAttribute inner)

/-- A block that may begin with attributes of its own. -/
def body : Reader (List Token) :=
  delimited .brace do
    let attributes ← innerAttributes inner
    pure (attributes ++ (← inner.statements))

def startsConstant (tokens : List Token) : Bool :=
  startsLiteral tokens || startsOpening .brace tokens

def constantArgument : Reader (List Token) := do
  if ← look startsLiteral then literal
  else if ← look startsName then pure [.identifier (← name)]
  else if ← look (startsOpening .brace) then body inner
  else if ← atEnd then fail .ended
  else fail (.leftOver none)

/-- An argument in angle brackets: a lifetime, a constant, a type, or what an
associated item is equal to or bounded by. -/
def argument : Reader Argument := do
  if ← look fun tokens => startsLifetime tokens && !startsOperator ['+'] (behind tokens) then
    pure (.lifetime (← lifetime))
  else if ← look startsConstant then
    pure (.other (← constantArgument inner))
  else
    match ← inner.type true with
    | .path false [segment] =>
        if ← look (startsOperator ['=']) then
          let sign ← operator ['=']
          let value ←
            if ← look startsConstant then constantArgument inner else inner.typeTokens true
          pure (.other (segment.tokens ++ sign ++ value))
        else if ← look (startsOperator [':']) then
          let sign ← operator [':']
          let bounds ← Separated.readLenient ['+']
            (fun tokens => startsOperator [','] tokens || startsOperator ['>'] tokens)
            (inner.bound .declared)
          pure (.other (segment.tokens ++ sign ++ boundsTokens bounds))
        else
          pure (.type (.path false [segment]))
    | type => pure (.type type)

def angleArguments : Reader (Separated Argument) := do
  let _ ← operator ['<']
  let arguments ← Separated.read [','] (startsOperator ['>']) (argument inner)
  let _ ← operator ['>']
  pure arguments

/-- A segment of a path.  In an expression, arguments need a separator before
them. -/
def segment (inExpression : Bool) : Reader Segment := do
  if ← look (startsWordOf ["super", "self", "crate", "try"]) then
    pure (.plain (← anyWord "identifier"))
  else
    let name ← nameOr ["Self"]
    if (← look startsArguments) && !inExpression then
      let arguments ← angleArguments inner
      pure (.applied name false arguments.items arguments.trailing)
    else if ← look fun tokens => startsPathSeparator tokens
        && startsOperator ['<'] (behind (behind tokens)) then
      let _ ← operator [':', ':']
      let arguments ← angleArguments inner
      pure (.applied name true arguments.items arguments.trailing)
    else
      pure (.plain name)

/-- A separator goes on with a path unless a parenthesis follows it. -/
def startsSegment (tokens : List Token) : Bool :=
  startsPathSeparator tokens && !startsOpening .parenthesis (behind (behind tokens))

def path (inExpression : Bool) : Reader Path := do
  let root ← operator? [':', ':']
  let first ← segment inner inExpression
  let segments ← extend (fun segments => do
    if ← look startsSegment then
      let _ ← operator [':', ':']
      pure (some (segments ++ [← segment inner inExpression]))
    else
      pure none) [first]
  pure ⟨!root.isEmpty, segments⟩

/-- A path that begins with a type, perhaps seen as a trait. -/
def qualifiedPath (inExpression : Bool) : Reader (List Token) := do
  let opener ← operator ['<']
  let subject ← inner.typeTokens true
  let trait ←
    if ← look (startsWord "as") then
      let keyword ← word "as"
      pure (keyword ++ (← path inner false).tokens)
    else
      pure []
  let closer ← operator ['>']
  let separator ← operator [':', ':']
  let segments ← Separated.readLenient [':', ':'] (fun _ => false) (segment inner inExpression)
  pure (opener ++ subject ++ trait ++ closer ++ separator
    ++ segments.tokens Token.pathSeparator Segment.tokens)

/-- A path in an expression or a pattern, and whether it may name a macro. -/
def expressionPath : Reader (Bool × List Token) := do
  if ← look (startsOperator ['<']) then
    pure (false, ← qualifiedPath inner true)
  else
    let path ← path inner true
    pure (path.segments.all Segment.isPlain, path.tokens)

/-- What is applied when a macro is called. -/
def macroArguments : Reader (List Token) := do
  let bang ← operator ['!']
  pure (bang ++ (← group))

end Readers

end InterfaceWitness.Surface
