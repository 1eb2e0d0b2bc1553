/-!
JSON values, and reading records and enumerations from them.
-/

namespace InterfaceWitness

inductive Json where
  | null
  | bool (value : Bool)
  /-- The mantissa divided by a power of ten. -/
  | number (mantissa : Int) (exponent : Nat)
  | string (text : String)
  | array (elements : List Json)
  | object (members : List (String × Json))
  deriving Inhabited, Repr

/-- What is given for a field of a record.  A field can be left out of an
object, and the last ones can be left out of an array. -/
inductive GivenField where
  | value (value : Json)
  | leftOut (ofArray : Bool)

namespace Json

/-- The fields of a record in the order of `names`, each under any of its
names but under one of them only. -/
def fields? (names : List (List String)) : Json → Option (List GivenField)
  | .object members =>
      names.mapM fun spellings =>
        match members.filter fun member => spellings.contains member.1 with
        | [] => some (.leftOut false)
        | [member] => some (.value member.2)
        | _ => none
  | .array elements =>
      if elements.length ≤ names.length then
        some (elements.map .value
          ++ List.replicate (names.length - elements.length) (.leftOut true))
      else none
  | _ => none

def text? : Json → Option String
  | .string text => some text
  | _ => none

def bool? : Json → Option Bool
  | .bool value => some value
  | _ => none

def list? {α : Type} (element : Json → Option α) : Json → Option (List α)
  | .array elements => elements.mapM element
  | _ => none

/-- A value that may be null. -/
def nullable? {α : Type} (value : Json → Option α) : Json → Option (Option α)
  | .null => some none
  | json => (value json).map some

/-- A value of an enumeration: its name, or an object that has it as its only
key, for null. -/
def named? {α : Type} (ofName : String → Option α) : Json → Option α
  | .string name => ofName name
  | .object [(name, .null)] => ofName name
  | _ => none

def ofTexts (texts : List String) : Json := .array (texts.map .string)

def ofOption {α : Type} (json : α → Json) : Option α → Json
  | none => .null
  | some value => json value

@[simp]
theorem nullable?_null {α : Type} (value : Json → Option α) :
    nullable? value .null = some none := rfl

theorem mapM_text?_comp_string (texts : List String) :
    texts.mapM (text? ∘ Json.string) = some texts := by
  induction texts with
  | nil => rfl
  | cons text rest inductionHypothesis => simp [List.mapM_cons, inductionHypothesis, text?]

@[simp]
theorem list?_text?_ofTexts (texts : List String) : list? text? (ofTexts texts) = some texts := by
  simp [list?, ofTexts, mapM_text?_comp_string]

end Json

namespace GivenField

def required {α : Type} (read : Json → Option α) : GivenField → Option α
  | .value json => read json
  | .leftOut _ => none

/-- A field that stands for `default` where it is left out. -/
def orDefault {α : Type} (default : α) (read : Json → Option α) : GivenField → Option α
  | .value json => read json
  | .leftOut _ => some default

/-- A field that may be null, or left out of an object. -/
def optional {α : Type} (read : Json → Option α) : GivenField → Option (Option α)
  | .value json => Json.nullable? read json
  | .leftOut ofArray => if ofArray then none else some none

end GivenField

end InterfaceWitness
