import InterfaceWitness.Surface.Lookahead

/-!
Expressions as they are printed, and how tightly operators bind.
-/

namespace InterfaceWitness.Surface

inductive ExpressionForm where
  /-- It ends with a block of its own, so that it is a statement as it stands. -/
  | blockLike
  | macroCall (isBraced : Bool)
  | range
  | comparison
  /-- Kept as it is written; attributes in front of it vanish. -/
  | unchanged
  | plain
  deriving DecidableEq, Repr

structure Expression where
  tokens : List Token
  form : ExpressionForm
  /-- Whether the leftmost operand is kept as it is written. -/
  startsUnchanged : Bool

namespace Expression

def plain (tokens : List Token) : Expression := ⟨tokens, .plain, false⟩

def blockLike (tokens : List Token) : Expression := ⟨tokens, .blockLike, false⟩

def isRange (expression : Expression) : Bool :=
  expression.form = .range

def isBlockLike (expression : Expression) : Bool :=
  expression.form = .blockLike

/-- Whether it needs a semicolon where another statement follows. -/
def needsSemicolon (expression : Expression) : Bool :=
  match expression.form with
  | .blockLike => false
  | .macroCall isBraced => !isBraced
  | _ => true

def endsWithBrace (expression : Expression) : Bool :=
  expression.tokens.getLast? = some (.closing .brace)

/-- Attributes of the expression as a whole. -/
def withAttributes (attributes : List Token) (expression : Expression) : Expression :=
  match expression.form with
  | .unchanged => expression
  | _ => { expression with tokens := attributes ++ expression.tokens }

/-- Attributes of a statement belong to the leftmost operand. -/
def withStatementAttributes (attributes : List Token) (expression : Expression) : List Token :=
  if expression.startsUnchanged then expression.tokens else attributes ++ expression.tokens

/-- A larger expression whose leftmost operand is the same. -/
def followedBy (left : Expression) (rest : List Token) (form : ExpressionForm) : Expression :=
  { left with tokens := left.tokens ++ rest, form }

end Expression

/-- How tightly an operator binds, the loosest ones first. -/
inductive Precedence where
  | jump
  | assignment
  | range
  | disjunction
  | conjunction
  | scrutinee
  | comparison
  | bitDisjunction
  | bitExclusion
  | bitConjunction
  | shift
  | sum
  | product
  | cast
  deriving DecidableEq, Repr

namespace Precedence

def rank : Precedence → Nat
  | .jump => 0
  | .assignment => 1
  | .range => 2
  | .disjunction => 3
  | .conjunction => 4
  | .scrutinee => 5
  | .comparison => 6
  | .bitDisjunction => 7
  | .bitExclusion => 8
  | .bitConjunction => 9
  | .shift => 10
  | .sum => 11
  | .product => 12
  | .cast => 13

end Precedence

/-- The operators between two operands, longer ones first. -/
def binaryOperators : List (List Char × Precedence) :=
  [("+=", .assignment), ("-=", .assignment), ("*=", .assignment), ("/=", .assignment),
    ("%=", .assignment), ("^=", .assignment), ("&=", .assignment), ("|=", .assignment),
    ("<<=", .assignment), (">>=", .assignment), ("&&", .conjunction), ("||", .disjunction),
    ("<<", .shift), (">>", .shift), ("==", .comparison), ("<=", .comparison),
    ("!=", .comparison), (">=", .comparison), ("+", .sum), ("-", .sum), ("*", .product),
    ("/", .product), ("%", .product), ("^", .bitExclusion), ("&", .bitConjunction),
    ("|", .bitDisjunction), ("<", .comparison), (">", .comparison)].map
      fun (text, precedence) => (text.toList, precedence)

def binaryOperator? (tokens : List Token) : Option (List Char × Precedence) :=
  binaryOperators.find? fun entry => startsOperator entry.1 tokens

/-- How tightly what comes next would bind as an operator. -/
def nextPrecedence (tokens : List Token) : Precedence :=
  match binaryOperator? tokens with
  | some (_, precedence) => precedence
  | none =>
      if startsAssignment tokens then .assignment
      else if startsDots tokens then .range
      else if startsWord "as" tokens then .cast
      else .jump

end InterfaceWitness.Surface
