/-
  EntityQuery.Schema.Descriptor — an entity with its names resolved.

  `Declaration.describe` gives every field its column and finds the primary key, or says
  what is wrong with the declaration. The declaration as a whole is looked at first (it
  has fields, its explicit table is not empty), then the fields in order; of one field,
  an empty column comes before a column already taken, and that before a second primary
  key. Without an explicit primary key the first field named `id`, or stored in a column
  of that name, in any case of its letters, is the key.

  A descriptor keeps its fields in order and beside them a table from columns to positions;
  whoever asks for a column asks the table first.
-/
import EntityQuery.Schema.Naming
import EntityQuery.Schema.Declaration

namespace EntityQuery.Schema

inductive SchemaError where
  | noFields (entity : String)
  | duplicateColumn (entity column first second : String)
  | multiplePrimaryKeys (entity first second : String)
  /-- An explicit name is empty: the column of a field, or the table. -/
  | emptyName (entity : String) (field : Option String)
  deriving DecidableEq, Repr

def SchemaError.message : SchemaError → String
  | .noFields entity => s!"Entity '{entity}' declares no fields"
  | .duplicateColumn entity column first second =>
    s!"Entity '{entity}': fields '{first}' and '{second}' both map to column '{column}'"
  | .multiplePrimaryKeys entity first second =>
    s!"Entity '{entity}': fields '{first}' and '{second}' are both marked as primary key"
  | .emptyName entity (some field) => s!"Entity '{entity}': field '{field}' has an empty column name"
  | .emptyName entity none => s!"Entity '{entity}' has an empty table name"

structure Field where
  /-- The position in the declaration. -/
  index : Nat
  ident : String
  column : String
  type : FieldType
  nullable : Bool
  primaryKey : Bool
  deriving DecidableEq, Repr

structure Descriptor where
  name : String
  table : String
  fields : List Field
  /-- The position of the primary key. -/
  keyIndex : Option Nat
  /-- The position of the field that is stored in a column. -/
  byColumn : List (String × Nat)
  deriving DecidableEq, Repr

namespace Descriptor

def field? (d : Descriptor) (column : String) : Option Field := (d.byColumn.lookup column).bind (d.fields[·]?)

def hasColumn (d : Descriptor) (column : String) : Bool := (d.byColumn.lookup column).isSome

def primaryKey? (d : Descriptor) : Option Field := d.keyIndex.bind (d.fields[·]?)

def columns (d : Descriptor) : List String := d.fields.map (·.column)

end Descriptor

def FieldDeclaration.resolvedColumn (f : FieldDeclaration) : String :=
  f.column.getD (Naming.columnName f.ident)

def Declaration.resolvedTable (d : Declaration) : String :=
  d.table.getD (Naming.tableName d.name)

/-- The identifier of the field declared at a position. -/
def Declaration.identAt (d : Declaration) (index : Nat) : String := (d.fields[index]?.map (·.ident)).getD ""

/-- The fields described so far, the positions of their columns, and that of the first
    explicit primary key among them. -/
structure Described where
  fields : List Field
  byColumn : List (String × Nat)
  key : Option Nat

/-- One field more, and the explicit primary key as it is then. -/
def Described.push (s : Described) (f : FieldDeclaration) (key : Option Nat) : Described where
  fields := s.fields ++ [⟨s.fields.length, f.ident, f.resolvedColumn, f.type, f.nullable, false⟩]
  byColumn := s.byColumn ++ [(f.resolvedColumn, s.fields.length)]
  key

/-- Checks the next field against those before it. -/
def Described.add (d : Declaration) (s : Described) (f : FieldDeclaration) : Except SchemaError Described :=
  if f.column = some "" then .error (.emptyName d.name (some f.ident))
  else match s.byColumn.lookup f.resolvedColumn with
    | some first => .error (.duplicateColumn d.name f.resolvedColumn (d.identAt first) f.ident)
    | none =>
      if f.primaryKey then match s.key with
        | some first => .error (.multiplePrimaryKeys d.name (d.identAt first) f.ident)
        | none => .ok (s.push f (some s.fields.length))
      else .ok (s.push f s.key)

def describeFields (d : Declaration) : Described → List FieldDeclaration → Except SchemaError Described
  | s, [] => .ok s
  | s, f :: fs => match s.add d f with
    | .ok s => describeFields d s fs
    | .error e => .error e

/-- The text is `id` in any case of its letters. -/
def isId (s : String) : Bool := s.toList.map Char.toLower == ['i', 'd']

/-- Marks the field at a position as the primary key. -/
def markKey (fields : List Field) (key : Option Nat) : List Field :=
  match key with
  | none => fields
  | some i => fields.modify i fun f => { f with primaryKey := true }

def Declaration.describe (d : Declaration) : Except SchemaError Descriptor :=
  if d.fields.isEmpty then .error (.noFields d.name)
  else if d.table = some "" then .error (.emptyName d.name none)
  else match describeFields d ⟨[], [], none⟩ d.fields with
    | .error e => .error e
    | .ok s =>
      let key := s.key.or (s.fields.findIdx? fun f => isId f.ident || isId f.column)
      .ok ⟨d.name, d.resolvedTable, markKey s.fields key, key, s.byColumn⟩

end EntityQuery.Schema
