import InterfaceWitness.Proofs.Meaning.Conversion
import InterfaceWitness.Proofs.Transform.Routes

/-!
What closures, their parameters and the calls in them come to.
-/

namespace InterfaceWitness.Code

variable {Atom : Type} {fixed : TypeExpr → Carrier Atom} {subject : Carrier Atom}
  {scope outer : Environment Atom} {function name : String} {apply : Value Atom → Value Atom}
  {value input : Value Atom}

section Parameters

variable {parameters : List FieldParameter} {routes : List ParameterRoute}

end Parameters

end InterfaceWitness.Code
