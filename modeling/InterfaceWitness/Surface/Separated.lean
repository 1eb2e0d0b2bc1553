import InterfaceWitness.Surface.Reader

/-!
Lists with a separator between any two items.
-/

namespace InterfaceWitness.Surface

open Reader

/-- Items with a separator between any two, and perhaps one after the last. -/
structure Separated (α : Type) where
  items : List α
  trailing : Bool
  deriving Repr

namespace Separated

/-- No items at all, to which one may be added as after a separator. -/
def empty {α : Type} : Separated α := ⟨[], true⟩

def tokensOf {α : Type} (separator : List Token) (tokens : α → List Token) (trailing : Bool) :
    List α → List Token
  | [] => []
  | [last] => tokens last ++ if trailing then separator else []
  | item :: rest => tokens item ++ separator ++ tokensOf separator tokens trailing rest

def tokens {α : Type} (separator : List Token) (tokens : α → List Token)
    (separated : Separated α) : List Token :=
  tokensOf separator tokens separated.trailing separated.items

/-- One more item, unless none can follow.  The item is read in view of those
before it, and says whether it has to be the last. -/
def step {α : Type} (separator : List Char) (stop finished : List Token → Bool)
    (item : List α → Reader (α × Bool)) (found : Separated α) :
    Reader (Option (Separated α)) := do
  if !found.trailing || (← look stop) then pure none
  else
    let (value, isLast) ← item found.items
    if isLast || (← look finished) then pure (some ⟨found.items ++ [value], false⟩)
    else
      let _ ← operator separator
      pure (some ⟨found.items ++ [value], true⟩)

/-- Reads items until `stop` holds, before an item as well as after it. -/
def read {α : Type} (separator : List Char) (stop : List Token → Bool) (item : Reader α) :
    Reader (Separated α) :=
  extend (step separator stop stop fun _ => do pure (← item, false)) empty

/-- Reads items until `stop` holds before one or no separator follows it. -/
def readLenient {α : Type} (separator : List Char) (stop : List Token → Bool) (item : Reader α) :
    Reader (Separated α) :=
  extend (step separator stop (!startsOperator separator ·) fun _ => do pure (← item, false)) empty

/-- Reads all items of a group, up to one that has to be the last. -/
def readAll {α : Type} (item : List α → Reader (α × Bool)) : Reader (Separated α) :=
  extend (step [','] ended ended item) empty

end Separated

/-- A comma between any two items of a group. -/
def commaList (item : Reader (List Token)) : Reader (List Token) := do
  pure ((← Separated.read [','] ended item).tokens [Token.comma] id)

end InterfaceWitness.Surface
