/-
  EntityQuery.Schema.Declaration — what an entity says about itself: its name, its table
  and its fields. Names that are not explicit are resolved when it is described.
-/

namespace EntityQuery.Schema

/-- The kind of content of a field, whether or not it may be missing. -/
inductive FieldType where
  | boolean
  | integer
  | unsigned
  | float
  | text
  | binary
  | json
  | other
  deriving DecidableEq, Repr

def FieldType.name : FieldType → String
  | .boolean => "boolean"
  | .integer => "integer"
  | .unsigned => "unsigned"
  | .float => "float"
  | .text => "text"
  | .binary => "binary"
  | .json => "json"
  | .other => "other"

structure FieldDeclaration where
  ident : String
  type : FieldType
  column : Option String := none
  primaryKey : Bool := false
  nullable : Bool := false
  deriving DecidableEq, Repr

structure Declaration where
  name : String
  table : Option String := none
  fields : List FieldDeclaration
  deriving DecidableEq, Repr

end EntityQuery.Schema
