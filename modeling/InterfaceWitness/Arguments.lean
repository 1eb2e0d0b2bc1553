import InterfaceWitness.Config
import InterfaceWitness.Options
import InterfaceWitness.Surface.Separated

/-!
The arguments of the attribute that asks for a witness.
-/

namespace InterfaceWitness

open Surface Surface.Reader

inductive AttributeArgument where
  | option (name : String)
  /-- The associated types whose witnesses are embedded. -/
  | nested (names : List String)
  | runtime (path : String)
  deriving DecidableEq, Repr

structure Arguments where
  options : GenerationOptions
  config : Config
  nested : List String
  deriving DecidableEq, Repr

namespace AttributeArgument

/-- A path of words of any kind. -/
def wordPath : Reader (Bool × List String) := do
  let root ← operator? [':', ':']
  if ← atEnd then want "nested attribute"
  else if ← look startsAnyWord then
    let segments ← Separated.readLenient [':', ':'] (fun _ => false) (anyWord "ident")
    pure (!root.isEmpty, segments.items)
  else if ← look startsLiteral then
    refuse "unexpected literal in nested attribute, expected ident"
  else
    refuse "unexpected token in nested attribute, expected ident"

def singleName (fault : String) : Reader String := do
  match ← wordPath with
  | (false, [name]) => pure name
  | _ => fail (.refused fault false)

def stringLiteral : Reader String := do
  match ← upcoming with
  | .literal text :: _ =>
      match Token.stringValue? text with
      | some value =>
          drop 1
          pure value
      | none => want "string literal"
  | _ => want "string literal"

/-- At least one item, and a comma between any two. -/
def nonemptyList {α : Type} (item : Reader α) : Reader (List α) := do
  let first ← item
  if ← atEnd then pure [first]
  else
    let _ ← operator [',']
    let more ← Separated.read [','] ended item
    pure (first :: more.items)

def read : Reader AttributeArgument := do
  match ← wordPath with
  | (false, ["runtime"]) =>
      let _ ← operator ['=']
      pure (.runtime (← stringLiteral))
  | (false, ["nested"]) =>
      pure (.nested (← within .parenthesis
        (nonemptyList (singleName "expected an associated type name"))))
  | (false, [name]) => pure (.option name)
  | _ => fail (.refused "expected an option name" false)

end AttributeArgument

namespace Arguments

/-- The last runtime path counts, and every list of associated types adds to
those before it. -/
def ofList (arguments : List AttributeArgument) : Arguments :=
  { options := GenerationOptions.ofWords <| arguments.filterMap fun argument =>
      match argument with
      | .option name => some name
      | _ => none
    config := arguments.foldl (fun config argument =>
      match argument with
      | .runtime path => { config with runtime := path }
      | _ => config) {}
    nested := arguments.flatMap fun argument =>
      match argument with
      | .nested names => names
      | _ => [] }

def ofTokens (tokens : List Token) : Except ReadError Arguments :=
  if tokens.isEmpty then .ok (ofList [])
  else (run (AttributeArgument.nonemptyList AttributeArgument.read) tokens).map ofList

end Arguments

end InterfaceWitness
