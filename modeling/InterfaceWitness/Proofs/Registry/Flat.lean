import InterfaceWitness.Proofs.Registry.Order
import InterfaceWitness.Registry
import Mathlib.Data.Finmap

/-!
A registry as one flat map: a set of table names, and the stored witnesses by
table, subject and label.
-/

namespace InterfaceWitness

open WitnessKind (Content)

variable {Kind : Type} [WitnessKind Kind]

/-- The name of a table of the registry. -/
def TableHandle.name? : TableHandle → Option String
  | .named name => some name
  | .ofType typeName => some (eraseGenerics typeName)
  | .standalone => none

@[simp]
theorem TableHandle.name?_ofKind (kind : Kind) :
    (TableHandle.ofKind kind).name? = some (WitnessKind.tableName kind) :=
  rfl

/-- Where a witness is stored: in a table of the registry or in the one outside
it, under a key. -/
structure Place where
  table : Option String
  key : WitnessKey
  deriving DecidableEq, Repr

def TableHandle.place (handle : TableHandle) (key : WitnessKey) : Place := ⟨handle.name?, key⟩

@[simp]
theorem TableHandle.place_inj {handle : TableHandle} {left right : WitnessKey} :
    handle.place left = handle.place right ↔ left = right := by
  simp [place]

structure FlatRegistry (Kind : Type) [WitnessKind Kind] where
  names : Finset String
  entries : Finmap fun _ : Place => StoredWitness Kind

namespace FlatRegistry

def initial : FlatRegistry Kind := ⟨∅, ∅⟩

/-- The keys under which a table holds something. -/
def keys (flat : FlatRegistry Kind) (handle : TableHandle) : Finset WitnessKey :=
  (flat.entries.keys.filter (·.table = handle.name?)).image Place.key

@[simp]
theorem mem_keys {flat : FlatRegistry Kind} {handle : TableHandle} {key : WitnessKey} :
    key ∈ flat.keys handle ↔ handle.place key ∈ flat.entries := by
  simp only [keys, Finset.mem_image, Finset.mem_filter, Finmap.mem_keys]
  constructor
  · rintro ⟨⟨table, found⟩, ⟨member, same⟩, rfl⟩
    subst same
    exact member
  · intro member
    exact ⟨handle.place key, ⟨member, rfl⟩, rfl⟩

def read [DecidableEq Kind] (flat : FlatRegistry Kind) (place : Place) (kind : Kind) :
    Option (Content kind) :=
  (flat.entries.lookup place).bind (·.content? kind)

theorem read_eq_some_iff [DecidableEq Kind] {flat : FlatRegistry Kind} {place : Place}
    {kind : Kind} {content : Content kind} :
    flat.read place kind = some content ↔ flat.entries.lookup place = some ⟨kind, content⟩ := by
  simp only [read, Option.bind_eq_some_iff, StoredWitness.content?_eq_some_iff]
  constructor
  · rintro ⟨stored, found, rfl⟩
    exact found
  · intro found
    exact ⟨_, found, rfl⟩

def view (flat : FlatRegistry Kind) (handle : TableHandle) : TableView :=
  let name := handle.name?.getD "standalone"
  let keys := flat.keys handle
  { name := name
    size := keys.card
    keys := ascending keys
    description := "WitnessTable \x7b name: " ++ Text.quoted name ++ ", len: "
      ++ toString keys.card ++ " \x7d" }

def answer [DecidableEq Kind] (flat : FlatRegistry Kind) : RegistryStep Kind → RegistryAnswer Kind
  | .lookup key kind => .content kind (flat.read ((TableHandle.ofKind kind).place key) kind)
  | .register _ _ => .done
  | .write handle key _ => .flag (handle.place key ∈ flat.entries)
  | .read handle key kind => .content kind (flat.read (handle.place key) kind)
  | .remove handle key => .flag (handle.place key ∈ flat.entries)
  | .contains handle key => .flag (handle.place key ∈ flat.entries)
  | .view handle => .table (flat.view handle)
  | .tableNames => .names (ascending flat.names)

def create (flat : FlatRegistry Kind) (handle : TableHandle) : FlatRegistry Kind :=
  { flat with names := flat.names ∪ handle.name?.toFinset }

def put (flat : FlatRegistry Kind) (place : Place) (witness : StoredWitness Kind) :
    FlatRegistry Kind :=
  { flat with entries := flat.entries.insert place witness }

def remove (flat : FlatRegistry Kind) (place : Place) : FlatRegistry Kind :=
  { flat with entries := flat.entries.erase place }

theorem lookup_put (flat : FlatRegistry Kind) (written place : Place)
    (witness : StoredWitness Kind) :
    (flat.put written witness).entries.lookup place
      = if written = place then some witness else flat.entries.lookup place := by
  unfold put
  split
  case isTrue same => rw [same, Finmap.lookup_insert]
  case isFalse different => exact Finmap.lookup_insert_of_ne _ (Ne.symm different)

theorem lookup_remove (flat : FlatRegistry Kind) (removed place : Place) :
    (flat.remove removed).entries.lookup place
      = if removed = place then none else flat.entries.lookup place := by
  unfold remove
  split
  case isTrue same => rw [same, Finmap.lookup_erase]
  case isFalse different => exact Finmap.lookup_erase_ne (Ne.symm different)

def after (flat : FlatRegistry Kind) : RegistryStep Kind → FlatRegistry Kind
  | .lookup _ _ => flat
  | .register key witness =>
      let handle := TableHandle.ofKind witness.kind
      (flat.create handle).put (handle.place key) witness
  | .write handle key witness => (flat.create handle).put (handle.place key) witness
  | .read handle _ _ => flat.create handle
  | .remove handle key => (flat.create handle).remove (handle.place key)
  | .contains handle _ => flat.create handle
  | .view handle => flat.create handle
  | .tableNames => flat

def run [DecidableEq Kind] (flat : FlatRegistry Kind) :
    List (RegistryStep Kind) → List (RegistryAnswer Kind)
  | [] => []
  | step :: rest => flat.answer step :: run (flat.after step) rest

end FlatRegistry

end InterfaceWitness
