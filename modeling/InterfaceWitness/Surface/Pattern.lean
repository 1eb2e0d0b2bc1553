import InterfaceWitness.Token

/-!
Patterns as they are printed.
-/

namespace InterfaceWitness.Surface

inductive PatternForm where
  /-- A name for the whole value. -/
  | binding (name : String)
  /-- A range that lacks an end. -/
  | openRange
  /-- Kept as it is written; attributes in front of it vanish. -/
  | unchanged
  | plain
  deriving DecidableEq, Repr

structure Pattern where
  tokens : List Token
  form : PatternForm

namespace Pattern

/-- The name that a pattern binds as a whole. -/
def boundName? (pattern : Pattern) : Option String :=
  match pattern.form with
  | .binding name => some name
  | _ => none

def withAttributes (attributes : List Token) (pattern : Pattern) : List Token :=
  match pattern.form with
  | .unchanged => pattern.tokens
  | _ => attributes ++ pattern.tokens

end Pattern

end InterfaceWitness.Surface
