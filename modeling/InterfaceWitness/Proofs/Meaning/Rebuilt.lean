import InterfaceWitness.Proofs.Meaning.Closure
import InterfaceWitness.Proofs.Meaning.Field

/-!
A rebuilt closure carries the function of its field over.
-/

namespace InterfaceWitness.Code

variable {Atom : Type} {fixed : TypeExpr → Carrier Atom} {source target : Carrier Atom}
  {scope outer : Environment Atom} {apply : Value Atom → Value Atom} {value input : Value Atom}
  {field : FunctionField} {routes : List ParameterRoute} {output : OutputRoute}
  {conversions : Conversions Atom} {own : Function Atom}

section Receiver

variable {call : Expr} {result updated : Value Atom}

end Receiver

end InterfaceWitness.Code
