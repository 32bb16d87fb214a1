/-
  EntityQuery.Query.Binder — rows become entities.

  A binder knows the field behind every column of a result. `bindRow` looks at a whole row
  before it stores anything: its width, then cell by cell a NULL where none is allowed and
  the entity's own check. Then it stores the cells in order. A failure of the entity to
  store reports which column, too; whatever was stored before it stays.

  A destination is one entity, which takes the first row and is left alone without one; an
  optional entity, which is missing without a row; or a list, which takes every row. The
  latter two start every entity afresh and are replaced only when all went well.
-/
import EntityQuery.Query.Row
import EntityQuery.Entity

namespace EntityQuery.Query

open Schema

structure Binder where
  descriptor : Descriptor
  fields : List Field
  deriving DecidableEq

namespace Binder

/-- The binder for the columns of a result. -/
def ofColumns (d : Descriptor) (columns : List String) : Except QueryError Binder :=
  match fieldsOf d columns with
  | .ok fields => .ok ⟨d, fields⟩
  | .error e => .error e

/-- How many cells a row must have. -/
def width (b : Binder) : Nat := b.fields.length

def nullViolation (b : Binder) (f : Field) : QueryError := .nullabilityViolation b.descriptor.name f.column

/-- A missing value that the entity refuses counts as a NULL. -/
def conversionError (b : Binder) (f : Field) : ExtractError → QueryError
  | .nullValue => b.nullViolation f
  | e => .valueConversion b.descriptor.name f.column e

/-- Looks at one cell. -/
def checkCell (E : Type) [Entity E] (b : Binder) (f : Field) (v : Value) : Except QueryError Unit :=
  if !f.nullable && v.isNull then .error (b.nullViolation f)
  else match Entity.checkField E f.index v with
    | .ok () => .ok ()
    | .error e => .error (b.conversionError f e)

def checkCells (E : Type) [Entity E] (b : Binder) : List (Field × Value) → Except QueryError Unit
  | [] => .ok ()
  | (f, v) :: cells => match b.checkCell E f v with
    | .ok () => b.checkCells E cells
    | .error e => .error e

/-- Stores the cells one by one, up to the first failure. -/
def storeCells {E : Type} [Entity E] (b : Binder) : List (Field × Value) → E → Except QueryError Unit × E
  | [], entity => (.ok (), entity)
  | (f, v) :: cells, entity => match Entity.bindField f.index v entity with
    | (.ok (), entity) => b.storeCells cells entity
    | (.error e, entity) => (.error (b.conversionError f e), entity)

def bindRow {E : Type} [Entity E] (b : Binder) (row : Row) (entity : E) : Except QueryError Unit × E :=
  if row.size ≠ b.width then (.error (.bindShape b.width row.size), entity)
  else match b.checkCells E (b.fields.zip row.cells) with
    | .error e => (.error e, entity)
    | .ok () => b.storeCells (b.fields.zip row.cells) entity

/-- A fresh entity with a row bound onto it. -/
def bindFresh (E : Type) [Entity E] [Inhabited E] (b : Binder) (row : Row) : Except QueryError E :=
  match b.bindRow row (default : E) with
  | (.ok (), entity) => .ok entity
  | (.error e, _) => .error e

def bindAll (E : Type) [Entity E] [Inhabited E] (b : Binder) : List Row → Except QueryError (List E)
  | [] => .ok []
  | row :: rows => match b.bindFresh E row with
    | .error e => .error e
    | .ok entity => match b.bindAll E rows with
      | .error e => .error e
      | .ok entities => .ok (entity :: entities)

end Binder

/-- The kinds of destination. -/
inductive Shape where
  | one
  | optional
  | many
  deriving DecidableEq, Repr

/-- A destination of some kind for entities of one type. -/
abbrev Shape.Of : Shape → Type → Type
  | .one, E => E
  | .optional, E => Option E
  | .many, E => List E

/-- Binds rows into a destination; how many were bound, and the destination afterwards. -/
def Binder.bindRows {E : Type} [Entity E] [Inhabited E] (b : Binder) (rows : List Row) :
    (shape : Shape) → shape.Of E → Except QueryError Nat × shape.Of E
  | .one, entity => match rows with
    | [] => (.ok 0, entity)
    | row :: _ => match b.bindRow row entity with
      | (.ok (), entity) => (.ok 1, entity)
      | (.error e, entity) => (.error e, entity)
  | .optional, old => match rows with
    | [] => (.ok 0, none)
    | row :: _ => match b.bindFresh E row with
      | .ok entity => (.ok 1, some entity)
      | .error e => (.error e, old)
  | .many, old => match b.bindAll E rows with
    | .ok entities => (.ok entities.length, entities)
    | .error e => (.error e, old)

end EntityQuery.Query
