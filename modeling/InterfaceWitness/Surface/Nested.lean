import InterfaceWitness.Surface.Bound
import InterfaceWitness.Surface.Expression
import InterfaceWitness.Surface.Pattern

/-!
The readers for what is nested one level further in, which every reader of a
recursive form is given.
-/

namespace InterfaceWitness.Surface

open Reader

structure Nested where
  /-- Whether a sum of bounds may stand for a type. -/
  type : (sums : Bool) → Reader SourceType
  bound : BoundPlace → Reader Bound
  /-- An operand with its signs.  Whether a brace may open a structure. -/
  operand : (structures : Bool) → Reader Expression
  /-- The operators that follow an operand and bind at least as tightly as
  given. -/
  operations : (structures : Bool) → Precedence → Expression → Reader Expression
  /-- An expression that ends where a block ends. -/
  leading : Reader Expression
  pattern : Reader Pattern
  statements : Reader (List Token)
  item : Reader (List Token)
  /-- The fields of a structure, in braces. -/
  fields : Reader (List Token)

namespace Nested

/-- Readers that fail at once. -/
def exhausted : Nested where
  type _ := fail (.leftOver none)
  bound _ := fail (.leftOver none)
  operand _ := fail (.leftOver none)
  operations _ _ _ := fail (.leftOver none)
  leading := fail (.leftOver none)
  pattern := fail (.leftOver none)
  statements := fail (.leftOver none)
  item := fail (.leftOver none)
  fields := fail (.leftOver none)

variable (inner : Nested)

def expressionWhere (structures : Bool) : Reader Expression := do
  inner.operations structures .jump (← inner.operand structures)

def expression : Reader (List Token) := do
  pure (← inner.expressionWhere true).tokens

/-- An expression in front of a brace that is no part of it. -/
def condition : Reader (List Token) := do
  pure (← inner.expressionWhere false).tokens

def typeTokens (sums : Bool) : Reader (List Token) := do
  pure (← inner.type sums).tokens

/-- The type of a result, if there is one. -/
def output (sums : Bool) : Reader (List Token) := do
  if ← look startsArrow then
    let arrow ← operator ['-', '>']
    pure (arrow ++ (← inner.typeTokens sums))
  else
    pure []

/-- A block of statements with its braces. -/
def block : Reader (List Token) :=
  delimited .brace inner.statements

def expressionList (delimiter : Delimiter) : Reader (List Token) :=
  delimited delimiter (commaList inner.expression)

end Nested

end InterfaceWitness.Surface
