import InterfaceWitness.Surface.StatementReading

/-!
Readers for whole streams.  Every step inward but a few takes a token, so a
bound on the number of levels follows from the length of the stream.
-/

namespace InterfaceWitness.Surface

open Reader

namespace Nested

/-- The readers of a level, given those of the next one. -/
def outward (inner : Nested) : Nested where
  type := sourceType inner
  bound := Surface.bound inner
  operand := Surface.operand inner
  operations := Surface.operations inner
  leading := leadingExpression inner
  pattern := Surface.pattern inner
  statements := Surface.statements inner
  item := Surface.item inner
  fields := namedFields inner

def ofDepth (depth : Nat) : Nested :=
  Nat.repeat outward depth exhausted

def forStream (tokens : List Token) : Nested :=
  ofDepth (8 * tokens.length + 16)

end Nested

/-- Reads a whole stream. -/
def readAll {α : Type} (reader : Nested → Reader α) (tokens : List Token) : Except ReadError α :=
  run (reader (Nested.forStream tokens)) tokens

def SourceType.ofTokens (tokens : List Token) : Except ReadError SourceType :=
  readAll (sourceType · true) tokens

def Path.ofTokens (tokens : List Token) : Except ReadError Path :=
  readAll (path · false) tokens

def Path.ofText (text : String) : Except ReadError Path :=
  match Token.ofSource? text with
  | none => .error .notTokens
  | some tokens => Path.ofTokens tokens

def TraitDeclaration.ofTokens (tokens : List Token) : Except ReadError TraitDeclaration :=
  readAll traitDeclaration tokens

end InterfaceWitness.Surface
