/-
  EntityQuery.Schema.Registry — the cache of described entities.

  A registry is keyed by entity type. Describing a type is two sections, each atomic on
  its own: `lookup` under a shared lock, which ends the call on a hit, and otherwise
  `enrol` under an exclusive one, which looks again and only then describes the
  declaration. A type described for the first time gets the next serial number, is
  counted and is logged; a malformed declaration leaves the registry as it was. Two
  answers are the same cached descriptor when their serials agree.
-/
import EntityQuery.Schema.Descriptor

namespace EntityQuery.Schema

/-- Tells entity types apart. -/
abbrev TypeKey := String

/-- A cached descriptor with its identity. -/
structure Entry where
  serial : Nat
  descriptor : Descriptor
  deriving DecidableEq, Repr

structure Registry where
  entries : List (TypeKey × Entry) := []
  /-- How many descriptors were ever built. -/
  built : Nat := 0
  /-- One line for every descriptor built, in order. -/
  log : List String := []
  deriving DecidableEq, Repr

/-- What is logged when a descriptor is built. -/
def Descriptor.summary (d : Descriptor) : String :=
  let fields := ", ".intercalate (d.fields.map fun f => f.column ++ " " ++ f.type.name)
  s!"Described entity {d.name} as table {d.table} ({fields})"

namespace Registry

def empty : Registry := {}

def size (r : Registry) : Nat := r.entries.length

/-- The section under the shared lock. -/
def lookup (r : Registry) (key : TypeKey) : Option Entry := r.entries.lookup key

/-- The section under the exclusive lock. -/
def enrol (r : Registry) (key : TypeKey) (d : Declaration) : Except SchemaError Entry × Registry :=
  match r.lookup key with
  | some e => (.ok e, r)
  | none => match d.describe with
    | .error e => (.error e, r)
    | .ok descriptor =>
      let e : Entry := ⟨r.built, descriptor⟩
      (.ok e, ⟨r.entries ++ [(key, e)], r.built + 1, r.log ++ [descriptor.summary]⟩)

/-- Both sections, with nothing in between. -/
def describe (r : Registry) (key : TypeKey) (d : Declaration) : Except SchemaError Entry × Registry :=
  match r.lookup key with
  | some e => (.ok e, r)
  | none => r.enrol key d

end Registry

end EntityQuery.Schema
