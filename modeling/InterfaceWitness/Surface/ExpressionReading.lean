import InterfaceWitness.Surface.PatternReading

/-!
Reading expressions.
-/

namespace InterfaceWitness.Surface

open Reader

/-- Whether the value of a jump follows it. -/
def startsExpression (tokens : List Token) : Bool :=
  (startsAnyWord tokens && !startsWord "as" tokens) || startsGroup tokens || startsLiteral tokens
    || (startsOperator ['!'] tokens && !startsOperator ['!', '='] tokens)
    || (startsOperator ['-'] tokens && !startsOperator ['-', '='] tokens && !startsArrow tokens)
    || (startsOperator ['*'] tokens && !startsOperator ['*', '='] tokens)
    || (startsOperator ['|'] tokens && !startsOperator ['|', '='] tokens)
    || (startsOperator ['&'] tokens && !startsOperator ['&', '='] tokens)
    || startsDots tokens || startsArguments tokens || startsPathSeparator tokens
    || startsLifetime tokens || startsOperator ['#'] tokens

/-- Operators and words that cannot begin the end of a range. -/
def startsNoRangeEnd (tokens : List Token) : Bool :=
  startsDot tokens || startsWord "as" tokens
    || ([",", ";", "?", "=>", "=", "+", "/", "%", "^", ">", "<=", "!=", "-=", "*=", "&=", "|=",
      "<<="].any fun text => startsOperator text.toList tokens)

/-- The parameters of a loop over all choices, or the pattern of a loop. -/
def startsQuantifiedClosure (tokens : List Token) : Bool :=
  startsWord "for" tokens && startsParameters (behind tokens)

def startsClosure (tokens : List Token) : Bool :=
  let second := behind tokens
  startsOperator ['|'] tokens || startsWord "move" tokens || startsQuantifiedClosure tokens
    || (startsWord "const" tokens && !startsOpening .brace second) || startsWord "static" tokens
    || (startsWord "async" tokens && (startsOperator ['|'] second || startsWord "move" second))

def startsAsyncBlock (tokens : List Token) : Bool :=
  let second := behind tokens
  startsWord "async" tokens
    && (startsOpening .brace second
      || (startsWord "move" second && startsOpening .brace (behind second)))

/-- A form that ends with a block: a conditional, a loop, a match or the block
itself. -/
def startsBlockForm (tokens : List Token) : Bool :=
  startsOpening .brace tokens || startsWordOf ["if", "while", "loop", "match", "unsafe"] tokens
    || (startsWord "for" tokens && !startsQuantifiedClosure tokens)
    || (startsWordOf ["try", "const"] tokens && startsOpening .brace (behind tokens))
    || startsLifetime tokens

def startsExpressionPath (tokens : List Token) : Bool :=
  startsModuleWord tokens || startsPathSeparator tokens || startsOperator ['<'] tokens
    || (startsWord "try" tokens
      && (startsOperator ['!'] (behind tokens) || startsPathSeparator (behind tokens)))

/-- The parts of a number that is written where the numbers of fields are
expected, as in `pair.0.1`, and whether it ends with the point. -/
def fieldNumbers (text : String) : List String × Bool :=
  let isPointed : Bool := text.toList.getLast? = some '.'
  let numbers := text.splitOn "."
  (if isPointed then numbers.dropLast else numbers, isPointed)

/-- A cast has to be parenthesized before anything is applied to it. -/
def checkCast : Reader Unit := do
  let tokens ← upcoming
  let second := behind tokens
  let third := behind second
  let refuseCast (what : String) : Reader Unit := refuse ("casts cannot be followed by " ++ what)
  if startsDot tokens then
    if startsWord "await" second then refuseCast "`.await`"
    else if startsName second
        && (startsOpening .parenthesis third || startsPathSeparator third) then
      refuseCast "a method call"
    else refuseCast "a field access"
  else if startsOperator ['?'] tokens then refuseCast "`?`"
  else if startsOpening .bracket tokens then refuseCast "indexing"
  else if startsOpening .parenthesis tokens then refuseCast "a function call"

section Readers

variable (inner : Nested)

/-! ## Operators -/

/-- The right operand of an operator, with whatever binds more tightly. -/
def rightOperand (structures : Bool) (precedence : Precedence) : Reader Expression := do
  let first ← inner.operand structures
  extend (fun right => do
    let next := nextPrecedence (← upcoming)
    if precedence.rank < next.rank
        || (next = precedence && precedence = .assignment) then
      pure (some (← inner.operations structures next right))
    else
      pure none) first

/-- The end of a range, which may be missing. -/
def rangeEnd (structures isOpenEnded : Bool) : Reader (List Token) := do
  if isOpenEnded && (← look fun tokens => ended tokens || startsNoRangeEnd tokens
      || (!structures && startsOpening .brace tokens)) then
    pure []
  else
    pure (← rightOperand inner structures .range).tokens

/-- A range that begins with its dots. -/
def rangeExpression (structures : Bool) : Reader (List Token) := do
  let (isOpenEnded, dots) ← rangeDots
  pure (dots ++ (← rangeEnd inner structures isOpenEnded))

/-- One more operator that binds at least as tightly as `least`, with what
stands to the right of it. -/
def operation (structures : Bool) (least : Precedence) (left : Expression) :
    Reader (Option Expression) := do
  let tokens ← upcoming
  if left.isRange then pure none
  else
    match binaryOperator? tokens with
    | some (characters, precedence) =>
        if precedence.rank < least.rank then pure none
        else if precedence = .comparison && left.form = .comparison then
          refuse "comparison operators cannot be chained"
        else
          let sign ← operator characters
          let right ← rightOperand inner structures precedence
          pure (some (left.followedBy (sign ++ right.tokens)
            (if precedence = .comparison then .comparison else .plain)))
    | none =>
        if least.rank ≤ Precedence.assignment.rank && startsAssignment tokens then
          let sign ← operator ['=']
          let right ← rightOperand inner structures .assignment
          pure (some (left.followedBy (sign ++ right.tokens) .plain))
        else if least.rank ≤ Precedence.range.rank && startsDots tokens then
          let rest ← rangeExpression inner structures
          pure (some ⟨left.tokens ++ rest, .range, false⟩)
        else if startsWord "as" tokens then
          let keyword ← word "as"
          let type ← inner.typeTokens false
          checkCast
          pure (some (left.followedBy (keyword ++ type) .plain))
        else
          pure none

def operations (structures : Bool) (least : Precedence) (left : Expression) :
    Reader Expression :=
  extend (operation inner structures least) left

/-! ## What is applied to an operand -/

/-- A field or the call of a method, after the dot. -/
def member : Reader (List Token) := do
  match ← fieldLabel with
  | .number value => pure (FieldLabel.number value).tokens
  | .name text =>
      if ← look startsPathSeparator then
        let _ ← operator [':', ':']
        let arguments ← angleArguments inner
        let method := Segment.applied text true arguments.items arguments.trailing
        pure (method.tokens ++ (← inner.expressionList .parenthesis))
      else if ← look (startsOpening .parenthesis) then
        pure (.identifier text :: (← inner.expressionList .parenthesis))
      else
        pure [.identifier text]

/-- The numbers of fields that are written as one number. -/
def fieldNumberTokens (isNegative : Bool) : List String → Reader (List Token)
  | [] => pure []
  | [last] => do pure (← fieldNumber isNegative last).tokens
  | first :: rest => do
      let label ← fieldNumber isNegative first
      pure (label.tokens ++ Token.operator ['.'] ++ (← fieldNumberTokens false rest))

/-- What follows the dot: a member, a suspension, or the numbers of fields. -/
def afterDot : Reader (List Token) := do
  let numbers ←
    if ← look (startsNumber Token.isFractional) then do
      let tokens ← literal
      let (numbers, isPointed) := fieldNumbers ((tokens.getLast?.map Token.text).getD "")
      let fields ← fieldNumberTokens (1 < tokens.length) numbers
      pure (some (fields, isPointed))
    else
      pure none
  match numbers with
  | some (fields, false) => pure fields
  | _ =>
      let before := (numbers.map fun (fields, _) => fields ++ Token.operator ['.']).getD []
      if ← look (startsWord "await") then pure (before ++ (← word "await"))
      else pure (before ++ (← member inner))

def trailer (expression : Expression) : Reader (Option Expression) := do
  let tokens ← upcoming
  let applied (more : List Token) : Option Expression := some (.plain (expression.tokens ++ more))
  if startsOpening .parenthesis tokens then
    pure (applied (← inner.expressionList .parenthesis))
  else if startsDot tokens && !expression.isRange then
    let dot ← operator ['.']
    pure (applied (dot ++ (← afterDot inner)))
  else if startsOpening .bracket tokens then
    pure (applied (← delimited .bracket inner.expression))
  else if startsOperator ['?'] tokens && !expression.isRange then
    pure (applied (← operator ['?']))
  else
    pure none

def trailers (expression : Expression) : Reader Expression :=
  extend (trailer inner) expression

/-! ## Operands -/

def fieldValue : Reader (List Token) := do
  let attributes ← outerAttributes inner
  let label ← fieldLabel
  if !label.isName || (← look (startsOperator [':'])) then
    let sign ← operator [':']
    pure (attributes ++ label.tokens ++ sign ++ (← inner.expression))
  else
    pure (attributes ++ label.tokens)

/-- A field, or the structure that the other fields come from, which comes
last. -/
def structureItem : Reader (List Token × Bool) := do
  if ← look startsDots then
    let dots ← operator ['.', '.']
    if ← atEnd then pure (dots, true) else pure (dots ++ (← inner.expression), true)
  else
    pure (← fieldValue inner, false)

def pathExpression (structures : Bool) : Reader Expression := do
  let (isPlain, path) ← expressionPath inner
  if isPlain && (← look startsBang) then
    let arguments ← macroArguments
    pure ⟨path ++ arguments, .macroCall (arguments.getLast? = some (.closing .brace)), false⟩
  else if structures && (← look (startsOpening .brace)) then
    let fields ← within .brace (Separated.readAll fun _ => structureItem inner)
    pure (.plain (path ++ Token.delimited .brace (fields.tokens [Token.comma] id)))
  else
    pure (.plain path)

def closureParameter : Reader (List Token) := do
  let attributes ← outerAttributes inner
  let pattern ← inner.pattern
  if ← look (startsOperator [':']) then
    let sign ← operator [':']
    pure (attributes ++ pattern.tokens ++ sign ++ (← inner.typeTokens true))
  else
    pure (pattern.withAttributes attributes)

def closure (structures : Bool) : Reader (List Token) := do
  let binder ← binder? inner
  let constness ← word? "const"
  let movability ← word? "static"
  let asyncness ← word? "async"
  let capture ← word? "move"
  let opener ← operator ['|']
  let parameters ← Separated.read [','] (startsOperator ['|']) (closureParameter inner)
  let closer ← operator ['|']
  let head := binder.getD [] ++ constness ++ movability ++ asyncness ++ capture ++ opener
    ++ parameters.tokens [Token.comma] id ++ closer
  if ← look startsArrow then
    let output ← inner.output true
    pure (head ++ output ++ (← inner.block))
  else
    pure (head ++ (← inner.expressionWhere structures).tokens)

def asyncBlock : Reader (List Token) := do
  let keyword ← word "async"
  let capture ← word? "move"
  pure (keyword ++ capture ++ (← inner.block))

/-- One element, or a list of them with commas. -/
def parenthesizedExpression : Reader (List Token) :=
  inner.expressionList .parenthesis

/-- A list of elements, or one element and how often it is repeated. -/
def bracketedExpression : Reader (List Token) :=
  delimited .bracket do
    if ← atEnd then pure []
    else
      let first ← inner.expression
      if ← look (startsOperator [';']) then
        let sign ← operator [';']
        pure (first ++ sign ++ (← inner.expression))
      else if ← atEnd then pure first
      else if ← look (startsOperator [',']) then
        let sign ← operator [',']
        pure (first ++ sign ++ (← commaList inner.expression))
      else
        refuse "expected `,` or `;`"

/-- The value of a jump, if it has one. -/
def jumpValue : Reader (List Token) := do
  if ← look startsExpression then inner.expression else pure []

def breakExpression (structures : Bool) : Reader (List Token) := do
  let keyword ← word "break"
  if ← look fun tokens => startsLifetime tokens && startsOperator [':'] (behind tokens) then
    let _ ← inner.expression
    fail (.refused "parentheses required" false)
  else
    let label ← lifetime?
    let head := keyword ++ (label.map Token.lifetime).toList
    if !structures && (← look (startsOpening .brace)) then pure head
    else pure (head ++ (← jumpValue inner))

/-- The test of a pattern. -/
def letExpression (structures : Bool) : Reader (List Token) := do
  let keyword ← word "let"
  let pattern ← alternativesTokens inner
  let sign ← operator ['=']
  let first ← inner.operand structures
  let value ← operations inner structures .comparison first
  pure (keyword ++ pattern ++ sign ++ value.tokens)

/-- A condition with the block that it guards. -/
def guardedBlock : Reader (List Token) := do
  let keyword ← word "if"
  let condition ← inner.condition
  pure (keyword ++ condition ++ (← inner.block))

/-- A conditional.  After a block without a condition it is complete. -/
def conditional : Reader (List Token) := do
  let first ← guardedBlock inner
  let (tokens, _) ← extend (fun (tokens, isComplete) => do
    if !isComplete && (← look (startsWord "else")) then
      let keyword ← word "else"
      if ← look (startsWord "if") then
        pure (some (tokens ++ keyword ++ (← guardedBlock inner), false))
      else if ← look (startsOpening .brace) then
        pure (some (tokens ++ keyword ++ (← inner.block), true))
      else
        wantOneOf ["`if`", "curly braces"]
    else
      pure none) (first, false)
  pure tokens

def whileLoop : Reader (List Token) := do
  let keyword ← word "while"
  let condition ← inner.condition
  pure (keyword ++ condition ++ (← body inner))

def forLoop : Reader (List Token) := do
  let keyword ← word "for"
  let pattern ← alternativesTokens inner
  let separator ← word "in"
  let source ← inner.condition
  pure (keyword ++ pattern ++ separator ++ source ++ (← body inner))

/-- A case of a match.  A comma follows it unless it ends with a block. -/
def matchArm : Reader (List Token) := do
  let attributes ← outerAttributes inner
  let pattern ← alternativesTokens inner
  let guard ←
    if ← look (startsWord "if") then
      let keyword ← word "if"
      pure (keyword ++ (← inner.expression))
    else
      pure []
  let arrow ← operator ['=', '>']
  let value ← inner.leading
  let comma ← if value.isBlockLike || (← atEnd) then operator? [','] else operator [',']
  pure (attributes ++ pattern ++ guard ++ arrow ++ value.tokens ++ comma)

def matchExpression : Reader (List Token) := do
  let keyword ← word "match"
  let subject ← inner.condition
  let arms ← delimited .brace do
    let attributes ← innerAttributes inner
    pure (attributes ++ (← readWhile (!ended ·) (matchArm inner)))
  pure (keyword ++ subject ++ arms)

/-- A form that may have a label, which `label` is the text of. -/
def loopForm (label : List Token) : Reader Expression := do
  let start ← upcoming
  if startsWord "while" start then pure (.blockLike (label ++ (← whileLoop inner)))
  else if startsWord "for" start then pure (.blockLike (label ++ (← forLoop inner)))
  else if startsWord "loop" start then
    let keyword ← word "loop"
    pure (.blockLike (label ++ keyword ++ (← body inner)))
  else if startsOpening .brace start then pure (.blockLike (label ++ (← body inner)))
  else refuse "expected loop or block expression"

/-- A form that ends with a block. -/
def blockForm : Reader Expression := do
  let start ← upcoming
  if startsLifetime start then
    let label ← lifetime
    let sign ← operator [':']
    loopForm inner (.lifetime label :: sign)
  else if startsWord "if" start then pure (.blockLike (← conditional inner))
  else if startsWord "match" start then pure (.blockLike (← matchExpression inner))
  else if startsWord "try" start then
    let keyword ← word "try"
    pure (.blockLike (keyword ++ (← inner.block)))
  else if startsWordOf ["unsafe", "const"] start then
    let keyword ← anyWord "identifier"
    pure (.blockLike (.identifier keyword :: (← body inner)))
  else
    loopForm inner []

/-- A jump that hands over to another call, which is kept as it is written. -/
def becomeExpression : Reader Expression := do
  let start ← upcoming
  let _ ← word "become"
  let _ ← inner.expression
  pure ⟨← since start, .unchanged, true⟩

/-- An operand without what is applied to it. -/
def operandHead (structures : Bool) : Reader Expression := do
  let start ← upcoming
  if startsLiteral start then pure (.plain (← literal))
  else if startsAsyncBlock start then pure (.plain (← asyncBlock inner))
  else if startsClosure start then pure (.plain (← closure inner structures))
  else if startsBuiltin start then pure ⟨← builtin, .unchanged, true⟩
  else if startsExpressionPath start then pathExpression inner structures
  else if startsOpening .parenthesis start then pure (.plain (← parenthesizedExpression inner))
  else if startsWord "break" start then pure (.plain (← breakExpression inner structures))
  else if startsWord "continue" start then
    let keyword ← word "continue"
    pure (.plain (keyword ++ ((← lifetime?).map Token.lifetime).toList))
  else if startsWordOf ["return", "yield"] start then
    let keyword ← anyWord "identifier"
    pure (.plain (.identifier keyword :: (← jumpValue inner)))
  else if startsWord "become" start then becomeExpression inner
  else if startsOpening .bracket start then pure (.plain (← bracketedExpression inner))
  else if startsWord "let" start then pure (.plain (← letExpression inner structures))
  else if startsBlockForm start then blockForm inner
  else if startsDots start then pure ⟨← rangeExpression inner structures, .range, false⟩
  else if startsWord "_" start then pure (.plain (← word "_"))
  else refuse "expected an expression"

/-- What makes a reference: a raw one says whether it is constant. -/
def referenceMark : Reader (List Token) := do
  let sign ← operator ['&']
  if ← look fun tokens => startsWord "raw" tokens && startsWordOf ["mut", "const"] (behind tokens)
  then
    let raw ← word "raw"
    pure (sign ++ raw ++ [.identifier (← anyWord "identifier")])
  else
    pure (sign ++ (← word? "mut"))

/-- Whatever an operand begins with and has applied to it. -/
def appliedOperand (structures : Bool) (start attributes : List Token) : Reader Expression := do
  let value ← trailers inner (← operandHead inner structures)
  match value.form with
  | .unchanged => pure { value with tokens := ← since start }
  | .range =>
      if attributes.isEmpty then pure value
      else
        fail (.refused "attributes are not allowed on range expressions starting with `..`" false)
  | _ => pure (value.withAttributes attributes)

def operand (structures : Bool) : Reader Expression := do
  let start ← upcoming
  let attributes ← outerAttributes inner
  let next ← upcoming
  if startsOperator ['&'] next then
    let mark ← referenceMark
    pure (.plain (attributes ++ mark ++ (← inner.operand structures).tokens))
  else
    match ['*', '!', '-'].find? (startsOperator [·] next) with
    | some sign =>
        let sign ← operator [sign]
        pure (.plain (attributes ++ sign ++ (← inner.operand structures).tokens))
    | none => appliedOperand inner structures start attributes

/-- An expression that ends where a block ends, unless a dot or a question mark
goes on with the block. -/
def leadingExpression : Reader Expression := do
  let attributes ← outerAttributes inner
  let start ← upcoming
  let first ← if startsBlockForm start then blockForm inner else inner.operand true
  if !first.isBlockLike then
    inner.operations true .jump (first.withAttributes attributes)
  else if ← look fun tokens => startsDot tokens || startsOperator ['?'] tokens then
    let applied ← trailers inner first
    inner.operations true .jump (applied.withAttributes attributes)
  else
    pure (first.withAttributes attributes)

end Readers

end InterfaceWitness.Surface
