import InterfaceWitness.Code.Printing
import InterfaceWitness.Emission

/-!
Generating the witness of an interface, and the witnesses of a unit.
-/

namespace InterfaceWitness

structure Generated where
  spec : WitnessSpec
  transforms : List TransformDef
  config : Config
  deriving DecidableEq, Repr

namespace Generated

def code (generated : Generated) : Code.WitnessCode :=
  .ofSpec generated.spec generated.transforms generated.config

/-- The generated items, if all their names can be printed. -/
def tokens? (generated : Generated) : Option (List Token) :=
  if generated.code.printable then some generated.code.tokens else none

end Generated

namespace Interface

/-- Generates with a valid configuration. -/
def generate (interface : Interface) (config : Config) : Except GenerateError Generated := do
  let spec ← interface.emit config
  let transforms ← spec.transforms interface.name
  pure ⟨spec, transforms, config⟩

/-- Generates every interface on its own.  The second of two of one name is
refused, whatever became of the first. -/
def generateAfter (config : Config) (earlier : List String) :
    List Interface → List (Except GenerateError Generated)
  | [] => []
  | interface :: rest =>
      (if interface.name ∈ earlier then
          .error (.malformed interface.name none .declaredTwice)
        else interface.generate config)
        :: generateAfter config (interface.name :: earlier) rest

def generateUnit (config : Config) (interfaces : List Interface) :
    List (Except GenerateError Generated) :=
  generateAfter config [] interfaces

end Interface

end InterfaceWitness
