import InterfaceWitness.Surface.ExpressionReading
import InterfaceWitness.Surface.Trait

/-!
Reading visibility, the inputs of functions and their signatures.
-/

namespace InterfaceWitness.Surface

open Reader

/-- Parentheses after `pub` restrict only if they hold a word or a path that
`in` begins. -/
def visibility : Reader Visibility := do
  if ← look (startsWord "pub") then
    let _ ← word "pub"
    let content := (← upcoming).drop 1
    if !(← look (startsOpening .parenthesis)) then pure .everywhere
    else if startsWordOf ["crate", "self", "super"] content && ended (behind content) then
      pure (.restricted [.identifier (← within .parenthesis (anyWord "identifier"))])
    else if startsWord "in" content then
      pure (.restricted (← within .parenthesis do
        let keyword ← word "in"
        pure (keyword ++ (← modulePath))))
    else
      pure .everywhere
  else
    pure .inherited

/-- What may stand in front of `fn`; the word `safe` only where it is allowed. -/
def qualifiers (allowsSafe : Bool) : Reader Unit := do
  let _ ← word? "const"
  let _ ← word? "async"
  if allowsSafe && (← look (startsWord "safe")) then
    let _ ← word "safe"
  else
    let _ ← word? "unsafe"
  let _ ← abi?

/-- Whether a function comes next, perhaps with qualifiers. -/
def signatureFollows (allowsSafe : Bool) : Reader Bool := do
  pure (startsWord "fn" (← lookAfter (qualifiers allowsSafe)))

section Readers

variable (inner : Nested)

/-- A receiver, which a path separator cannot follow. -/
def receiver : Reader ReceiverInput := do
  let reference ←
    if ← look (startsOperator ['&']) then
      let _ ← operator ['&']
      pure (some (← lifetime?))
    else
      pure none
  let mutability ← word? "mut"
  let _ ← word "self"
  if ← look startsPathSeparator then want "`,`"
  else if reference.isNone && (← look (startsOperator [':'])) then
    let _ ← operator [':']
    pure ⟨reference, !mutability.isEmpty, some (← inner.type true)⟩
  else
    pure ⟨reference, !mutability.isEmpty, none⟩

/-- The dots of a variable argument list and the comma after them. -/
def variadicDots : Reader (List Token) := do
  let dots ← operator ['.', '.', '.']
  if ← atEnd then pure dots else pure (dots ++ (← operator [',']))

/-- An input.  A type with arguments may stand without a pattern. -/
def input (attributes : List Token) : Reader Input := do
  if ← look startsEllipsis then
    pure (.variadic (attributes ++ (← variadicDots)))
  else
    match ← attempt (receiver inner) with
    | some found => pure (.receiver attributes found)
    | none =>
        if ← look fun tokens => startsName tokens && startsOperator ['<'] (behind tokens) then
          pure (.typed attributes ⟨[.identifier "_"], .plain⟩ (← inner.type true))
        else
          let pattern ← inner.pattern
          let sign ← operator [':']
          if ← look startsEllipsis then
            pure (.variadic (attributes ++ pattern.tokens ++ sign ++ (← variadicDots)))
          else
            pure (.typed attributes pattern (← inner.type true))

/-- Only the first input can be a receiver, and only the last one can stand for
several. -/
def inputAfter (before : List Input) : Reader (Input × Bool) := do
  let attributes ← outerAttributes inner
  let found ← input inner attributes
  if found.isReceiver && before.any Input.isReceiver then
    fail (.refused "unexpected second method receiver" false)
  else if found.isReceiver && !before.isEmpty then
    fail (.refused "unexpected method receiver" false)
  else
    pure (found, found.isVariadic)

/-- A signature, and whether it is marked as safe, where that is allowed. -/
def markedSignature (allowsSafe : Bool) : Reader (Bool × Signature) := do
  let constness ← word? "const"
  let asyncness ← word? "async"
  let unsafety ← word? "unsafe"
  let safety ← if allowsSafe && unsafety.isEmpty then word? "safe" else pure []
  let convention ← abi?
  let _ ← word "fn"
  let name ← name
  let generics ← generics inner
  let inputs ← within .parenthesis (Separated.readAll (inputAfter inner))
  let output ←
    if ← look startsArrow then
      let _ ← operator ['-', '>']
      pure (some (← inner.type true))
    else
      pure none
  let constraints ← whereClause inner
  pure (!safety.isEmpty, ⟨!constness.isEmpty, !asyncness.isEmpty, !unsafety.isEmpty, convention,
    name, generics, inputs, output, constraints⟩)

def signature : Reader Signature := do
  pure (← markedSignature inner false).2

end Readers

end InterfaceWitness.Surface
