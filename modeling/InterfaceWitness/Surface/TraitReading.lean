import InterfaceWitness.Surface.SignatureReading

/-!
Reading the items of traits and trait declarations.
-/

namespace InterfaceWitness.Surface

open Reader

/-- Whether the path of a macro comes next, where only an item may stand. -/
def startsMacroPath (tokens : List Token) : Bool :=
  startsName tokens || startsWordOf ["self", "super", "crate"] tokens
    || startsPathSeparator tokens

/-- What an item may begin with, after the kinds that have a keyword. -/
def macroPathStarts : List String := ["identifier", "`self`", "`super`", "`crate`", "`::`"]

/-- The call of a macro, which needs a semicolon unless it ends with a brace. -/
def macroCallItem : Reader (List Token) := do
  let path ← modulePath
  let arguments ← macroArguments
  if arguments.getLast? = some (.closing .brace) then pure (path ++ arguments)
  else pure (path ++ arguments ++ (← operator [';']))

section Readers

variable (inner : Nested)

/-- Bounds after a colon, up to where `stop` holds. -/
def declaredBounds (stop : List Token → Bool) : Reader (Separated Bound) := do
  if ← look (startsOperator [':']) then
    let _ ← operator [':']
    Separated.read ['+'] stop (inner.bound .declared)
  else
    pure .empty

/-- A type or a value after an equals sign, if there is one. -/
def assigned? {α : Type} (value : Reader α) : Reader (Option α) := do
  if ← look (startsOperator ['=']) then
    let _ ← operator ['=']
    some <$> value
  else
    pure none

/-- A function of a trait: its signature and its default body. -/
def functionItem (attributes : List Token) : Reader TraitItem := do
  let signature ← signature inner
  if ← look (startsOpening .brace) then pure (.function attributes signature (← body inner))
  else if ← look (startsOperator [';']) then
    pure (.function attributes signature (← operator [';']))
  else wantOneOf ["curly braces", "`;`"]

/-- A constant, and whether it has parameters or bounds of its own. -/
def constantItem (attributes : List Token) : Reader (Bool × TraitItem) := do
  let _ ← word "const"
  if !(← look fun tokens => startsName tokens || startsWord "_" tokens) then
    wantOneOf ["identifier", "`_`", "`async`", "`unsafe`", "`extern`", "`fn`"]
  else
    let name ← nameOr ["_"]
    let isGeneric ← look (startsOperator ['<'])
    let _ ← generics inner
    let _ ← operator [':']
    let type ← inner.type true
    let value ← assigned? inner.expression
    let constraints ← whereClause inner
    let _ ← operator [';']
    pure (isGeneric || constraints.isSome, .constant attributes ⟨name, type,
      (value.map (Token.operator ['='] ++ ·)).getD []⟩)

def endsTypeBounds (tokens : List Token) : Bool :=
  startsWord "where" tokens || startsOperator ['='] tokens || startsOperator [';'] tokens

def typeItem (attributes : List Token) : Reader TraitItem := do
  let _ ← word "type"
  let name ← name
  let generics ← generics inner
  let bounds ← declaredBounds inner endsTypeBounds
  let default ← assigned? (inner.type true)
  let constraints ← whereClause inner
  let _ ← operator [';']
  pure (.associatedType attributes ⟨name, generics, bounds, default, constraints⟩)

/-- An item, and whether it is kept as it is written: one that is marked as
visible or as a default, or a constant with parameters or bounds. -/
def markedItem : Reader (Bool × TraitItem) := do
  let attributes ← outerAttributes inner
  let visibility ← visibility
  let default ← word? "default"
  let isMarked := !visibility.isInherited || !default.isEmpty
  if ← signatureFollows false then pure (isMarked, ← functionItem inner attributes)
  else if ← look (startsWord "const") then
    let (isBounded, found) ← constantItem inner attributes
    pure (isMarked || isBounded, found)
  else if ← look (startsWord "type") then pure (isMarked, ← typeItem inner attributes)
  else if !isMarked && (← look startsMacroPath) then
    pure (false, .other (attributes ++ (← macroCallItem)))
  else
    wantOneOf (["`fn`", "`const`", "`type`"] ++ if isMarked then [] else macroPathStarts)

def traitItem : Reader TraitItem := do
  let start ← upcoming
  let (isMarked, found) ← markedItem inner
  if isMarked then pure (.other (← since start)) else pure found

def traitItems : Reader (List TraitItem) :=
  extend (fun items => do
    if ← atEnd then pure none else pure (some (items ++ [← traitItem inner]))) []

/-- What follows the name and the parameters of a trait. -/
def restOfTrait (attributes : List Token) (visibility : Visibility) (modifiers : List Token)
    (name : String) (generics : Generics) : Reader TraitDeclaration := do
  let supertraits ← declaredBounds inner
    fun tokens => startsWord "where" tokens || startsOpening .brace tokens
  let constraints ← whereClause inner
  let (innerAttributes, items) ← within .brace do
    let innerAttributes ← innerAttributes inner
    pure (innerAttributes, ← traitItems inner)
  pure ⟨attributes, visibility, modifiers, name, generics, supertraits, constraints,
    innerAttributes, items⟩

def traitDeclaration : Reader TraitDeclaration := do
  let attributes ← outerAttributes inner
  let visibility ← visibility
  let unsafety ← word? "unsafe"
  let automatic ← word? "auto"
  let _ ← word "trait"
  let name ← name
  let generics ← generics inner
  restOfTrait inner attributes visibility (unsafety ++ automatic) name generics

end Readers

end InterfaceWitness.Surface
