import Std.Data.HashMap
import InterfaceWitness.Registry.Key

/-!
Tables of witnesses of whatever kind.
-/

namespace InterfaceWitness

/-- Kinds of witnesses, with the name of each and the values that it has.  The
name does not tell kinds apart: two of them can share it. -/
class WitnessKind (Kind : Type) where
  typeName : Kind → String
  Content : Kind → Type

namespace WitnessKind

/-- The table of a kind is shared by all whose names differ in their generic
arguments only. -/
def tableName {Kind : Type} [WitnessKind Kind] (kind : Kind) : String :=
  eraseGenerics (typeName kind)

end WitnessKind

open WitnessKind (Content)

/-- A stored witness, whose kind is known only at run time. -/
structure StoredWitness (Kind : Type) [WitnessKind Kind] where
  kind : Kind
  content : Content kind

namespace StoredWitness

variable {Kind : Type} [WitnessKind Kind] [DecidableEq Kind] {stored : StoredWitness Kind}
  {kind : Kind}

/-- The content, to whoever asks for the kind that was stored. -/
def content? (stored : StoredWitness Kind) (kind : Kind) : Option (Content kind) :=
  if same : stored.kind = kind then some (same ▸ stored.content) else none

@[simp]
theorem content?_kind (stored : StoredWitness Kind) :
    stored.content? stored.kind = some stored.content := by
  simp [content?]

theorem content?_of_ne (different : stored.kind ≠ kind) : stored.content? kind = none :=
  dif_neg different

theorem content?_eq_some_iff {content : Content kind} :
    stored.content? kind = some content ↔ stored = ⟨kind, content⟩ := by
  constructor
  · intro found
    by_cases same : stored.kind = kind
    · subst same
      have isContent : stored.content = content := by simpa using found
      rw [← isContent]
    · rw [content?_of_ne same] at found
      contradiction
  · rintro rfl
    exact content?_kind _

end StoredWitness

structure WitnessTable (Kind : Type) [WitnessKind Kind] where
  name : String
  entries : Std.HashMap WitnessKey (StoredWitness Kind)

namespace WitnessTable

variable {Kind : Type} [WitnessKind Kind]

def empty (name : String) : WitnessTable Kind := ⟨name, ∅⟩

/-- Stores a witness and tells whether another one gave way to it. -/
def write (table : WitnessTable Kind) (key : WitnessKey) (witness : StoredWitness Kind) :
    Bool × WitnessTable Kind :=
  (table.entries.contains key, { table with entries := table.entries.insert key witness })

/-- An entry of another kind reads as absent. -/
def read [DecidableEq Kind] (table : WitnessTable Kind) (key : WitnessKey) (kind : Kind) :
    Option (Content kind) :=
  table.entries[key]?.bind (·.content? kind)

def remove (table : WitnessTable Kind) (key : WitnessKey) : Bool × WitnessTable Kind :=
  (table.entries.contains key, { table with entries := table.entries.erase key })

def contains (table : WitnessTable Kind) (key : WitnessKey) : Bool :=
  table.entries.contains key

def keys (table : WitnessTable Kind) : List WitnessKey := sorted table.entries.keys

def size (table : WitnessTable Kind) : Nat := table.entries.size

def description (table : WitnessTable Kind) : String :=
  "WitnessTable \x7b name: " ++ Text.quoted table.name ++ ", len: " ++ toString table.size
    ++ " \x7d"

end WitnessTable

end InterfaceWitness
