/-
  EntityQuery.Derive.Source — annotated type definitions, as a derived entity is written.

  A definition has a name, a shape, attributes, and, if its shape is that of named fields,
  fields with attributes and types. Types are kept as they are written: a path of segments,
  each with or without generic arguments, or a type of some other form. What a type says is
  read off its last segment; only the JSON document is told by its whole path.
-/
import EntityQuery.Schema.Declaration

namespace EntityQuery.Derive

open Schema

mutual
inductive TypeExpr where
  /-- A path, with or without a leading separator. -/
  | path (rooted : Bool) (segments : List Segment)
  /-- A tuple, an array, a reference or the like. -/
  | other (text : String)
inductive Segment where
  /-- Without arguments is not the same as with an empty list of them. -/
  | mk (ident : String) (arguments : Option (List Argument))
inductive Argument where
  | type (t : TypeExpr)
  | lifetime (name : String)
  | constant (text : String)
end

namespace Segment

def ident : Segment → String
  | .mk ident _ => ident

def arguments : Segment → Option (List Argument)
  | .mk _ arguments => arguments

/-- The first generic argument, if it is a type. -/
def firstType? : Segment → Option TypeExpr
  | .mk _ (some (.type t :: _)) => some t
  | _ => none

end Segment

namespace TypeExpr

/-- The type consisting of one name. -/
def named (ident : String) : TypeExpr := .path false [.mk ident none]

/-- The type of a name applied to a type. -/
def applied (ident : String) (t : TypeExpr) : TypeExpr := .path false [.mk ident (some [.type t])]

def last? : TypeExpr → Option Segment
  | .path _ segments => segments.getLast?
  | .other _ => none

/-- The type that may be missing, for a type of optional values. -/
def optionInner? (t : TypeExpr) : Option TypeExpr :=
  match t.last? with
  | some s => if s.ident = "Option" then s.firstType? else none
  | none => none

/-- The type is just this name. -/
def isNamed (ident : String) : TypeExpr → Bool
  | .path false [.mk i none] => i = ident
  | _ => false

/-- The type is a path of just two segments, those of the JSON document. -/
def isJson : TypeExpr → Bool
  | .path _ [a, b] => a.ident = "serde_json" && b.ident = "Value"
  | _ => false

def signedNames : List String := ["i8", "i16", "i32", "i64", "isize"]

def unsignedNames : List String := ["u8", "u16", "u32", "u64", "usize"]

def floatNames : List String := ["f32", "f64"]

def isByteList (s : Segment) : Bool := s.ident = "Vec" && (s.firstType?.map (isNamed "u8")).getD false

/-- The kind of content that a field of this type has. -/
def fieldType (t : TypeExpr) : FieldType :=
  if t.isJson then .json
  else match t.last? with
    | none => .other
    | some s =>
      if s.ident = "bool" then .boolean
      else if signedNames.contains s.ident then .integer
      else if unsignedNames.contains s.ident then .unsigned
      else if floatNames.contains s.ident then .float
      else if s.ident = "String" then .text
      else if isByteList s then .binary
      else .other

end TypeExpr

/-- How an attribute is written. -/
inductive AttributeForm where
  /-- A name alone. -/
  | bare
  /-- A name and a string literal. -/
  | text (value : String)
  /-- A name and parenthesised tokens. -/
  | list (tokens : String)
  /-- A name and an expression, which may be a string literal with this value. -/
  | expression (source : String) (literal : Option String)
  deriving DecidableEq, Repr

structure Attribute where
  name : String
  form : AttributeForm
  deriving DecidableEq, Repr

structure Member where
  ident : String
  attributes : List Attribute
  type : TypeExpr

inductive Shape where
  /-- Named fields. -/
  | named (members : List Member)
  /-- No fields at all. -/
  | unit
  | tuple
  | enumeration
  | union

/-- A type definition. -/
structure Definition where
  name : String
  attributes : List Attribute
  shape : Shape

def Definition.members (d : Definition) : List Member :=
  match d.shape with
  | .named members => members
  | _ => []

end EntityQuery.Derive
