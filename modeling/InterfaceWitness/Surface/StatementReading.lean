import InterfaceWitness.Surface.ItemReading

/-!
Reading statements.
-/

namespace InterfaceWitness.Surface

open Reader

/-- Whether an item comes next rather than an expression. -/
def startsItem (tokens : List Token) : Bool :=
  let second := behind tokens
  let third := behind second
  startsWordOf ["pub", "extern", "use", "fn", "mod", "type", "struct", "enum", "trait", "impl",
      "macro"] tokens
    || (startsWord "crate" tokens && !startsPathSeparator second)
    || (startsWord "static" tokens && (startsWord "mut" second || startsName second))
    || (startsWord "const" tokens
      && !(startsOpening .brace second || startsWordOf ["static", "move"] second
        || startsOperator ['|'] second
        || (startsWord "async" second && !startsWordOf ["unsafe", "extern", "fn"] third)))
    || (startsWord "unsafe" tokens && !startsOpening .brace second)
    || (startsWord "async" tokens && startsWordOf ["unsafe", "extern", "fn"] second)
    || (startsWord "union" tokens && startsName second)
    || startsAutomaticTrait tokens
    || (startsWord "default" tokens && startsWordOf ["unsafe", "impl"] second)

/-- A mark behind a path, and a name: the call of a macro that declares it. -/
def startsNamedMacro (afterPath : List Token) : Bool :=
  startsOperator ['!'] afterPath
    && (startsName (behind afterPath) || startsTry (behind afterPath))

/-- A mark behind a path, and a brace: a statement of its own, unless something
is applied to it. -/
def startsBracedMacro (afterPath : List Token) : Bool :=
  let third := behind (behind afterPath)
  startsOperator ['!'] afterPath && startsOpening .brace (behind afterPath)
    && !(startsDot third || startsOperator ['?'] third)

section Readers

variable (inner : Nested)

/-- A block that the code goes on with if a pattern does not match. -/
def diverging : Reader (List Token) := do
  let keyword ← word "else"
  pure (keyword ++ (← inner.block))

def localBinding : Reader (List Token) := do
  let keyword ← word "let"
  let pattern ← inner.pattern
  let type ←
    if ← look (startsOperator [':']) then
      let sign ← operator [':']
      pure (sign ++ (← inner.typeTokens true))
    else
      pure []
  let value ←
    if ← look (startsOperator ['=']) then
      let sign ← operator ['=']
      let value ← inner.expressionWhere true
      if !value.endsWithBrace && (← look (startsWord "else")) then
        pure (sign ++ value.tokens ++ (← diverging inner))
      else
        pure (sign ++ value.tokens)
    else
      pure []
  pure (keyword ++ pattern.tokens ++ type ++ value ++ (← operator [';']))

/-- An expression as a statement, and whether another one can follow. -/
def expressionStatement (attributes : List Token) : Reader (Bool × List Token) := do
  let value ← inner.leading
  let ending ← operator? [';']
  pure (!ending.isEmpty || !value.needsSemicolon,
    value.withStatementAttributes attributes ++ ending)

def statement : Reader (Bool × List Token) := do
  let start ← upcoming
  let attributes ← outerAttributes inner
  let afterPath ← lookAfter modulePath
  if startsBracedMacro afterPath then
    let path ← modulePath
    let arguments ← macroArguments
    pure (true, attributes ++ path ++ arguments ++ (← operator? [';']))
  else if ← look (startsWord "let") then
    pure (true, attributes ++ (← localBinding inner))
  else if startsNamedMacro afterPath || (← look startsItem) then
    match ← itemContent inner with
    | some tokens => pure (true, attributes ++ tokens)
    | none => pure (true, ← since start)
  else
    expressionStatement inner attributes

/-- A statement and the semicolons in front of it. -/
def spacedStatement (tokens : List Token) : Reader (Option (List Token)) := do
  let semicolons ← readWhile (startsOperator [';']) (operator [';'])
  if ← atEnd then
    if semicolons.isEmpty then pure none else pure (some (tokens ++ semicolons))
  else
    let (isComplete, found) ← statement inner
    if isComplete || (← atEnd) then pure (some (tokens ++ semicolons ++ found))
    else refuse "unexpected token, expected `;`"

def statements : Reader (List Token) :=
  extend (spacedStatement inner) []

end Readers

end InterfaceWitness.Surface
