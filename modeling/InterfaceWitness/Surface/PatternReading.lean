import InterfaceWitness.Surface.TypeReading

/-!
Reading patterns.
-/

namespace InterfaceWitness.Surface

open Reader

/-- What a pattern may begin with, as a message lists it. -/
def patternStarts (tokens : List Token) : List String :=
  ["identifier", "`::`", "`<`", "`_`", "literal", "`const`", "`ref`", "`mut`", "`&`",
    "parentheses", "square brackets"]
    ++ (if startsDots tokens then [] else ["`..`"]) ++ ["`const`"]

def patternBoundStarts : List String :=
  ["literal", "identifier", "`::`", "`<`", "`self`", "`Self`", "`super`", "`crate`", "`const`"]

def startsPathPattern (tokens : List Token) : Bool :=
  let second := behind tokens
  (startsName tokens
      && (startsPathSeparator second || startsOperator ['!'] second
        || startsOpening .brace second || startsOpening .parenthesis second
        || startsDots second))
    || (startsWord "self" tokens && startsPathSeparator second)
    || startsPathSeparator tokens || startsOperator ['<'] tokens
    || startsWordOf ["Self", "super", "crate"] tokens

/-- The dots of a range, and whether its end may be missing.  Three dots are
an old way to write those that include the end. -/
def patternDots : Reader (Bool × List Token) := do
  let closed := Token.operator ['.', '.', '=']
  if ← look (startsOperator ['.', '.', '=']) then
    let _ ← operator ['.', '.', '=']
    pure (false, closed)
  else if ← look startsEllipsis then
    let _ ← operator ['.', '.', '.']
    pure (false, closed)
  else
    pure (true, ← operator ['.', '.'])

/-- The dots of a range, of which there are two, perhaps with an equals sign. -/
def rangeDots : Reader (Bool × List Token) := do
  if ← look (startsOperator ['.', '.', '=']) then
    pure (false, ← operator ['.', '.', '='])
  else if ← look startsEllipsis then
    want "`..=`"
  else
    pure (true, ← operator ['.', '.'])

section Readers

variable (inner : Nested)

/-- Patterns of which one has to match.  A bar in front makes a single one such
a list. -/
def alternatives : Reader Pattern := do
  let bar ← operator? ['|']
  let first ← inner.pattern
  let more ← readWhile startsBar do
    let bar ← operator ['|']
    pure (bar ++ (← inner.pattern).tokens)
  if bar.isEmpty && more.isEmpty then pure first
  else pure ⟨bar ++ first.tokens ++ more, .plain⟩

def alternativesTokens : Reader (List Token) := do
  pure (← alternatives inner).tokens

/-- The end of a range, if there is one. -/
def patternBound : Reader (Option (List Token)) := do
  if ← look fun tokens => ended tokens || startsOperator ['|'] tokens || startsOperator ['='] tokens
      || startsColon tokens || startsOperator [','] tokens || startsOperator [';'] tokens
      || startsWord "if" tokens then
    pure none
  else if ← look startsLiteral then some <$> literal
  else if ← look fun tokens => startsModuleWord tokens || startsPathSeparator tokens
      || startsOperator ['<'] tokens then
    some <$> Prod.snd <$> expressionPath inner
  else if ← look (startsWord "const") then
    let keyword ← word "const"
    pure (some (keyword ++ (← body inner)))
  else
    wantOneOf patternBoundStarts

/-- What follows the dots of a range. -/
def rangeRest (isOpenEnded : Bool) : Reader (Option (List Token)) := do
  match ← patternBound inner with
  | some tokens => pure (some tokens)
  | none => if isOpenEnded then pure none else refuse "expected range upper bound"

/-- A range whose beginning has been read. -/
def rangeFrom (start : List Token) : Reader Pattern := do
  let (isOpenEnded, dots) ← patternDots
  match ← rangeRest inner isOpenEnded with
  | some last => pure ⟨start ++ dots ++ last, .plain⟩
  | none => pure ⟨start ++ dots, .openRange⟩

/-- A range without a beginning, or the dots that stand for all that is left. -/
def rangeTo : Reader Pattern := do
  let (isOpenEnded, dots) ← rangeDots
  match ← rangeRest inner isOpenEnded with
  | some last => pure ⟨dots ++ last, .openRange⟩
  | none => pure ⟨dots, .plain⟩

/-- A literal, a constant or a range that begins with one. -/
def literalPattern : Reader Pattern := do
  match ← patternBound inner with
  | some start => if ← look startsDots then rangeFrom inner start else pure ⟨start, .plain⟩
  | none => wantOneOf patternBoundStarts

/-- A field whose name is also what it is bound to, or a field with a pattern
of its own. -/
def fieldPattern : Reader (List Token) := do
  let box ← word? "box"
  let reference ← word? "ref"
  let mutability ← word? "mut"
  let marks := box ++ reference ++ mutability
  if marks.isEmpty then
    let label ← fieldLabel
    if !label.isName || (← look (startsOperator [':'])) then
      let sign ← operator [':']
      pure (label.tokens ++ sign ++ (← alternativesTokens inner))
    else
      pure label.tokens
  else
    pure (marks ++ [.identifier (← name)])

/-- A field, or the dots that stand for all others and come last. -/
def structurePatternItem : Reader (List Token × Bool) := do
  let attributes ← outerAttributes inner
  if ← look startsDots then pure (attributes ++ (← operator ['.', '.']), true)
  else pure (attributes ++ (← fieldPattern inner), false)

/-- A path, the call of a macro, a structure, a tuple structure or a range. -/
def pathPattern : Reader Pattern := do
  let (isPlain, path) ← expressionPath inner
  if isPlain && (← look startsBang) then
    pure ⟨path ++ (← macroArguments), .plain⟩
  else if ← look (startsOpening .brace) then
    let fields ← within .brace (Separated.readAll fun _ => structurePatternItem inner)
    pure ⟨path ++ Token.delimited .brace (fields.tokens [Token.comma] id), .plain⟩
  else if ← look (startsOpening .parenthesis) then
    pure ⟨path ++ (← delimited .parenthesis (commaList (alternativesTokens inner))), .plain⟩
  else if ← look startsDots then rangeFrom inner path
  else pure ⟨path, .plain⟩

/-- A name, perhaps with a pattern for what it is bound to. -/
def bindingPattern : Reader Pattern := do
  let reference ← word? "ref"
  let mutability ← word? "mut"
  let name ← nameOr ["self"]
  let tokens := reference ++ mutability ++ [.identifier name]
  if ← look (startsOperator ['@']) then
    let sign ← operator ['@']
    pure ⟨tokens ++ sign ++ (← inner.pattern).tokens, .binding name⟩
  else
    pure ⟨tokens, .binding name⟩

/-- An element of a slice, which an open range cannot be without parentheses. -/
def sliceElement : Reader (List Token) := do
  let element ← alternatives inner
  if element.form = .openRange then
    fail (.refused "range pattern is not allowed unparenthesized inside slice pattern" false)
  else
    pure element.tokens

def pattern : Reader Pattern := do
  let start ← upcoming
  if startsPathPattern start then pathPattern inner
  else if startsWord "_" start then pure ⟨← word "_", .plain⟩
  else if startsWord "box" start then
    let _ ← word "box"
    let _ ← inner.pattern
    pure ⟨← since start, .unchanged⟩
  else if startsOperator ['-'] start || startsLiteral start || startsWord "const" start then
    literalPattern inner
  else if startsWordOf ["ref", "mut", "self"] start || startsName start then bindingPattern inner
  else if startsOperator ['&'] start then
    let sign ← operator ['&']
    let mutability ← word? "mut"
    pure ⟨sign ++ mutability ++ (← inner.pattern).tokens, .plain⟩
  else if startsOpening .parenthesis start then
    pure ⟨← delimited .parenthesis (commaList (alternativesTokens inner)), .plain⟩
  else if startsOpening .bracket start then
    pure ⟨← delimited .bracket (commaList (sliceElement inner)), .plain⟩
  else if startsDots start && !startsEllipsis start then rangeTo inner
  else wantOneOf (patternStarts start)

end Readers

end InterfaceWitness.Surface
