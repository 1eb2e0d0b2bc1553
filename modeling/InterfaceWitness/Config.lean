import InterfaceWitness.GenerateError

/-!
The configuration of a generation and its validity.
-/

namespace InterfaceWitness

structure Config where
  /-- The type parameter that stands for the subject. -/
  subject : String := "A"
  /-- The type parameter of the witness that a transformer gives. -/
  target : String := "B"
  /-- The path of the module that holds the registry. -/
  runtime : String := "witness"
  deriving DecidableEq, Repr

/-- A path without the separators in front of it. -/
def dropSeparators : List Char → List Char
  | ':' :: ':' :: rest => dropSeparators rest
  | text => text

def Config.runtimePath (config : Config) : Except Surface.ReadError Surface.Path :=
  Surface.Path.ofText (String.ofList (dropSeparators config.runtime.toList))

def Config.validate (config : Config) : Except GenerateError Unit := do
  if !Surface.readsAsName config.subject then throw (.config (.subjectName config.subject))
  if !Surface.readsAsName config.target then throw (.config (.targetName config.target))
  if config.subject = config.target then throw (.config (.sameParameter config.subject))
  match config.runtimePath with
  | .ok _ => pure ()
  | .error _ => throw (.config (.runtimePath config.runtime))

end InterfaceWitness
