import InterfaceWitness.Surface.Depth
import InterfaceWitness.Text.Quoted

/-!
Type expressions of requirement signatures.

`TypeExpr.nodes` lists the named nodes in the order in which they are written;
most questions about a type are questions about this list.
-/

namespace InterfaceWitness

open Surface (ReadError)

inductive TypeExpr where
  | identifier (name : String)
  | generic (base : String) (arguments : List TypeExpr)
  | function (parameters : List TypeExpr) (output : Option TypeExpr)
  | tuple (elements : List TypeExpr)
  | optional (inner : TypeExpr)
  deriving Repr

/-- How an interface refers to the type that it is about. -/
def selfType : String := "Self"

namespace TypeExpr

mutual

def decEq : (left right : TypeExpr) → Decidable (left = right)
  | .identifier left, .identifier right =>
      if equal : left = right then isTrue (equal ▸ rfl)
      else isFalse fun absurd => equal (TypeExpr.identifier.inj absurd)
  | .generic leftBase left, .generic rightBase right =>
      if base : leftBase = rightBase then
        match decEqAll left right with
        | isTrue equal => isTrue (by rw [base, equal])
        | isFalse different => isFalse fun absurd => different (TypeExpr.generic.inj absurd).2
      else isFalse fun absurd => base (TypeExpr.generic.inj absurd).1
  | .function left leftOutput, .function right rightOutput =>
      match decEqAll left right, decEqOutput leftOutput rightOutput with
      | isTrue equal, isTrue output => isTrue (by rw [equal, output])
      | isFalse different, _ => isFalse fun absurd => different (TypeExpr.function.inj absurd).1
      | _, isFalse different => isFalse fun absurd => different (TypeExpr.function.inj absurd).2
  | .tuple left, .tuple right =>
      match decEqAll left right with
      | isTrue equal => isTrue (by rw [equal])
      | isFalse different => isFalse fun absurd => different (TypeExpr.tuple.inj absurd)
  | .optional left, .optional right =>
      match decEq left right with
      | isTrue equal => isTrue (by rw [equal])
      | isFalse different => isFalse fun absurd => different (TypeExpr.optional.inj absurd)
  | .identifier _, .generic .. => isFalse nofun
  | .identifier _, .function .. => isFalse nofun
  | .identifier _, .tuple _ => isFalse nofun
  | .identifier _, .optional _ => isFalse nofun
  | .generic .., .identifier _ => isFalse nofun
  | .generic .., .function .. => isFalse nofun
  | .generic .., .tuple _ => isFalse nofun
  | .generic .., .optional _ => isFalse nofun
  | .function .., .identifier _ => isFalse nofun
  | .function .., .generic .. => isFalse nofun
  | .function .., .tuple _ => isFalse nofun
  | .function .., .optional _ => isFalse nofun
  | .tuple _, .identifier _ => isFalse nofun
  | .tuple _, .generic .. => isFalse nofun
  | .tuple _, .function .. => isFalse nofun
  | .tuple _, .optional _ => isFalse nofun
  | .optional _, .identifier _ => isFalse nofun
  | .optional _, .generic .. => isFalse nofun
  | .optional _, .function .. => isFalse nofun
  | .optional _, .tuple _ => isFalse nofun

def decEqAll : (left right : List TypeExpr) → Decidable (left = right)
  | [], [] => isTrue rfl
  | [], _ :: _ => isFalse nofun
  | _ :: _, [] => isFalse nofun
  | left :: leftRest, right :: rightRest =>
      match decEq left right, decEqAll leftRest rightRest with
      | isTrue head, isTrue tail => isTrue (by rw [head, tail])
      | isFalse different, _ => isFalse fun absurd => different (List.cons.inj absurd).1
      | _, isFalse different => isFalse fun absurd => different (List.cons.inj absurd).2

def decEqOutput : (left right : Option TypeExpr) → Decidable (left = right)
  | none, none => isTrue rfl
  | none, some _ => isFalse nofun
  | some _, none => isFalse nofun
  | some left, some right =>
      match decEq left right with
      | isTrue equal => isTrue (by rw [equal])
      | isFalse different => isFalse fun absurd => different (Option.some.inj absurd)

end

instance : DecidableEq TypeExpr := decEq

end TypeExpr

/-- An identifier of a type expression or the base of a generic type. -/
structure NamedNode where
  name : String
  isBase : Bool
  deriving DecidableEq, Repr

namespace TypeExpr

mutual

def nodes : TypeExpr → List NamedNode
  | .identifier name => [⟨name, false⟩]
  | .generic base arguments => ⟨base, true⟩ :: nodesOfAll arguments
  | .function parameters output => nodesOfAll parameters ++ nodesOfOutput output
  | .tuple elements => nodesOfAll elements
  | .optional inner => nodes inner

def nodesOfAll : List TypeExpr → List NamedNode
  | [] => []
  | type :: rest => nodes type ++ nodesOfAll rest

def nodesOfOutput : Option TypeExpr → List NamedNode
  | none => []
  | some output => nodes output

end

theorem mem_nodesOfAll {node : NamedNode} {types : List TypeExpr} :
    node ∈ nodesOfAll types ↔ ∃ type ∈ types, node ∈ nodes type := by
  induction types with
  | nil => simp [nodesOfAll]
  | cons type rest inductionHypothesis => simp [nodesOfAll, inductionHypothesis]

end TypeExpr

/-- Whether `name` stands for `subject`.  An associated type is also named by
its projection from `Self`. -/
def namesSubject (name subject : String) : Bool :=
  name = subject || (subject ≠ selfType && name = selfType ++ "::" ++ subject)

/-- What keeps a type expression from being printed as a type. -/
inductive TypeFault where
  | emptyName
  | notPath (name : String) (error : ReadError)
  | noArguments (base : String)
  deriving DecidableEq, Repr

def TypeFault.message : TypeFault → String
  | .emptyName => "empty type name"
  | .notPath name error => "`" ++ name ++ "` is not a type path: " ++ error.message
  | .noArguments base => "generic `" ++ base ++ "` has no arguments"

def checkTypeName (name : String) : Except TypeFault Unit :=
  if name.toList.all Text.isBlank then .error .emptyName
  else
    match Surface.Path.ofText name with
    | .ok _ => .ok ()
    | .error error => .error (.notPath name error)

namespace TypeExpr

def isNamed (type : TypeExpr) (name : String) : Bool :=
  match type with
  | .identifier found => namesSubject found name
  | _ => false

mutual

/-- Checks that every name is a path and every generic type has arguments. -/
def check : TypeExpr → Except TypeFault Unit
  | .identifier name => checkTypeName name
  | .generic base arguments => do
      checkTypeName base
      if arguments.isEmpty then throw (.noArguments base)
      checkAll arguments
  | .function parameters output => do
      checkAll parameters
      checkOutput output
  | .tuple elements => checkAll elements
  | .optional inner => check inner

def checkAll : List TypeExpr → Except TypeFault Unit
  | [] => .ok ()
  | type :: rest => do
      check type
      checkAll rest

def checkOutput : Option TypeExpr → Except TypeFault Unit
  | none => .ok ()
  | some output => check output

end

mutual

/-- The constructors and their arguments, as messages show them. -/
def description : TypeExpr → String
  | .identifier name => "Identifier(" ++ Text.quoted name ++ ")"
  | .generic base arguments =>
      "Generic \x7b base: " ++ Text.quoted base ++ ", arguments: ["
        ++ ", ".intercalate (descriptions arguments) ++ "] \x7d"
  | .function parameters output =>
      "Function \x7b parameters: [" ++ ", ".intercalate (descriptions parameters)
        ++ "], output: " ++ outputDescription output ++ " \x7d"
  | .tuple elements => "Tuple([" ++ ", ".intercalate (descriptions elements) ++ "])"
  | .optional inner => "Optional(" ++ description inner ++ ")"

def descriptions : List TypeExpr → List String
  | [] => []
  | type :: rest => description type :: descriptions rest

def outputDescription : Option TypeExpr → String
  | none => "None"
  | some output => "Some(" ++ description output ++ ")"

end

end TypeExpr

end InterfaceWitness
