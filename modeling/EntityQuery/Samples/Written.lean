/-
  EntityQuery.Samples.Written — entities that are not derived: they say themselves how a
  field is stored, and leave every check to the storing.

  `Counter` has a field that may be missing but no place for a missing value, and declares
  one field more than it can store. The other two have an empty name each, which no
  descriptor can have.
-/
import EntityQuery.Entity

namespace EntityQuery.Samples

open Schema Number

structure Counter where
  hits : UInt64
  label : String
  ratio : Double
  deriving DecidableEq

instance : Inhabited Counter := ⟨⟨0, "", ⟨0⟩⟩⟩

def Counter.declaration : Declaration where
  name := "Counter"
  table := some "counters"
  fields := [⟨"hits", .unsigned, some "hit_count", false, false⟩, ⟨"label", .text, none, false, false⟩,
    ⟨"ratio", .float, none, false, true⟩, ⟨"ghost", .other, none, false, true⟩]

def Counter.bindField (index : Nat) (v : Value) (c : Counter) : Except ExtractError Unit × Counter :=
  match index with
  | 0 => match v.toInteger .u64 with
    | .ok n => (.ok (), { c with hits := n.toNat.toUInt64 })
    | .error e => (.error e, c)
  | 1 => match v.toText with
    | .ok s => (.ok (), { c with label := s })
    | .error e => (.error e, c)
  | 2 => match v.toDouble with
    | .ok x => (.ok (), { c with ratio := x })
    | .error e => (.error e, c)
  | _ => (.error (.unknownField index), c)

instance : Entity Counter where
  key := "Counter"
  declaration := Counter.declaration
  bindField := Counter.bindField

structure EmptyTable where
  deriving DecidableEq, Inhabited

instance : Entity EmptyTable where
  key := "EmptyTable"
  declaration := ⟨"EmptyTable", some "", [⟨"id", .integer, some "id", false, false⟩]⟩
  bindField index _ e := (.error (.unknownField index), e)

structure EmptyColumn where
  deriving DecidableEq, Inhabited

instance : Entity EmptyColumn where
  key := "EmptyColumn"
  declaration := ⟨"EmptyColumn", none, [⟨"id", .integer, some "", false, false⟩]⟩
  bindField index _ e := (.error (.unknownField index), e)

end EntityQuery.Samples
