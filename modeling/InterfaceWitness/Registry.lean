import InterfaceWitness.Registry.Table

/-!
Registries of witnesses, one table for each kind of witness without its generic
arguments, and the steps that use them.
-/

namespace InterfaceWitness

open WitnessKind (Content)

abbrev Registry (Kind : Type) [WitnessKind Kind] := Std.HashMap String (WitnessTable Kind)

variable {Kind : Type} [WitnessKind Kind]

namespace Registry

/-- The table of a name, empty if there is none yet. -/
def table (registry : Registry Kind) (name : String) : WitnessTable Kind :=
  (registry[name]?).getD (.empty name)

/-- Puts a table in its place, where the one that was there gives way. -/
def putTable (registry : Registry Kind) (table : WitnessTable Kind) : Registry Kind :=
  registry.insert table.name table

/-- Reads a witness without creating a table. -/
def lookup [DecidableEq Kind] (registry : Registry Kind) (key : WitnessKey) (kind : Kind) :
    Option (Content kind) :=
  (registry[WitnessKind.tableName kind]?).bind (·.read key kind)

end Registry

/-- Which table a step uses: a named one, that of a type, or the one outside the
registry. -/
inductive TableHandle where
  | named (name : String)
  | ofType (typeName : String)
  | standalone
  deriving DecidableEq, Repr

/-- The table of a kind of witnesses. -/
def TableHandle.ofKind (kind : Kind) : TableHandle := .ofType (WitnessKind.typeName kind)

inductive RegistryStep (Kind : Type) [WitnessKind Kind] where
  /-- Does not create a table. -/
  | lookup (key : WitnessKey) (kind : Kind)
  /-- Writes to the table of the witness's kind. -/
  | register (key : WitnessKey) (witness : StoredWitness Kind)
  | write (handle : TableHandle) (key : WitnessKey) (witness : StoredWitness Kind)
  | read (handle : TableHandle) (key : WitnessKey) (kind : Kind)
  | remove (handle : TableHandle) (key : WitnessKey)
  | contains (handle : TableHandle) (key : WitnessKey)
  | view (handle : TableHandle)
  | tableNames

/-- What a table shows of itself. -/
structure TableView where
  name : String
  size : Nat
  keys : List WitnessKey
  description : String
  deriving DecidableEq, Repr

def WitnessTable.view (table : WitnessTable Kind) : TableView :=
  ⟨table.name, table.size, table.keys, table.description⟩

/-- How a table shown through the view of one witness type shows itself. -/
def TableView.typedDescription (view : TableView) : String :=
  "WitnessLookupTable \x7b table: " ++ view.description ++ " \x7d"

inductive RegistryAnswer (Kind : Type) [WitnessKind Kind] where
  | done
  | content (kind : Kind) (content : Option (Content kind))
  | flag (flag : Bool)
  | table (view : TableView)
  | names (names : List String)

/-- A registry, and a table that belongs to none. -/
structure RegistrySession (Kind : Type) [WitnessKind Kind] where
  registry : Registry Kind
  standalone : WitnessTable Kind

namespace RegistrySession

def initial : RegistrySession Kind := ⟨∅, .empty "standalone"⟩

def table (session : RegistrySession Kind) : TableHandle → WitnessTable Kind
  | .named name => session.registry.table name
  | .ofType typeName => session.registry.table (eraseGenerics typeName)
  | .standalone => session.standalone

def putTable (session : RegistrySession Kind) (handle : TableHandle)
    (table : WitnessTable Kind) : RegistrySession Kind :=
  match handle with
  | .standalone => { session with standalone := table }
  | _ => { session with registry := session.registry.putTable table }

/-- Creates the table of a handle if there is none yet. -/
def ensure (session : RegistrySession Kind) (handle : TableHandle) : RegistrySession Kind :=
  session.putTable handle (session.table handle)

def step [DecidableEq Kind] (session : RegistrySession Kind) :
    RegistryStep Kind → RegistryAnswer Kind × RegistrySession Kind
  | .lookup key kind => (.content kind (session.registry.lookup key kind), session)
  | .register key witness =>
      let handle := TableHandle.ofKind witness.kind
      (.done, session.putTable handle ((session.table handle).write key witness).2)
  | .write handle key witness =>
      let (replaced, table) := (session.table handle).write key witness
      (.flag replaced, session.putTable handle table)
  | .read handle key kind =>
      (.content kind ((session.table handle).read key kind), session.ensure handle)
  | .remove handle key =>
      let (removed, table) := (session.table handle).remove key
      (.flag removed, session.putTable handle table)
  | .contains handle key => (.flag ((session.table handle).contains key), session.ensure handle)
  | .view handle => (.table (session.table handle).view, session.ensure handle)
  | .tableNames => (.names (sorted session.registry.keys), session)

def run [DecidableEq Kind] (session : RegistrySession Kind) :
    List (RegistryStep Kind) → List (RegistryAnswer Kind)
  | [] => []
  | first :: rest => (session.step first).1 :: run (session.step first).2 rest

end RegistrySession

end InterfaceWitness
