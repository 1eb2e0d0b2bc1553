import InterfaceWitness.Arguments
import InterfaceWitness.Generation
import InterfaceWitness.Lowering

/-!
Expanding a trait that asks for a witness: the trait itself, then its witness
or an error for the compiler to report.
-/

namespace InterfaceWitness

open Surface

/-- Why a trait has no witness. -/
inductive ExpansionError where
  | arguments (error : ReadError)
  | lowering (fault : LoweringFault)
  | generation (error : GenerateError)
  deriving DecidableEq, Repr

def ExpansionError.message : ExpansionError → String
  | .arguments error => error.message
  | .lowering fault => fault.message
  | .generation error => error.message

/-- The witness that the arguments of an attribute ask for. -/
def generateFor (requested : List Token) (declaration : TraitDeclaration) :
    Except ExpansionError Generated := do
  let arguments ← (Arguments.ofTokens requested).mapError .arguments
  let interface ←
    (Interface.ofTrait declaration arguments.options arguments.nested).mapError .lowering
  arguments.config.validate.mapError .generation
  (interface.generate arguments.config).mapError .generation

/-- The expansion, unless the witness has a name that cannot be printed. -/
def expand (requested item : List Token) : Option (List Token) :=
  match TraitDeclaration.ofTokens item with
  | .error _ => some (item ++ Code.compileError "#[witness] can only be applied to a trait")
  | .ok declaration =>
      match generateFor requested declaration with
      | .ok generated => generated.tokens?.map (declaration.tokens ++ ·)
      | .error error => some (declaration.tokens ++ Code.compileError error.message)

end InterfaceWitness
