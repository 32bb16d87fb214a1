/-
  EntityQuery.Derive.Expansion — the declaration and the accessors of a derived entity.

  `Definition.expand` reads the attributes of a definition. Attributes with other names are
  not looked at. The first thing wrong is reported: the table name, then the shape, then
  the fields in order; of one field its attributes as written, then skipping together with
  a mapping, then a nullable mark on a type that cannot be missing. A skipped field is left
  out of the declaration, so a `Slot` says which member stands behind each declared field.
-/
import EntityQuery.Derive.Source
import EntityQuery.Schema.Naming

namespace EntityQuery.Derive

open Schema

inductive ExpandError where
  | missingValue (name : String)
  | expectedEquals
  | notText (name : String)
  | emptyName (name : String)
  | unexpectedToken
  | notNamedFields
  | skippedMapping
  | nullableNotOptional
  deriving DecidableEq, Repr

def ExpandError.message : ExpandError → String
  | .missingValue name => s!"expected a value for this attribute: \x60{name} = ...\x60"
  | .expectedEquals => "expected \x60=\x60"
  | .notText name => s!"expected a string literal, e.g. #[{name} = \"...\"]"
  | .emptyName name => name ++ " cannot be empty"
  | .unexpectedToken => "unexpected token in attribute"
  | .notNamedFields => "Entity can only be derived for structs with named fields"
  | .skippedMapping => "a #[skip] field cannot carry #[primary_key] or #[column_name]"
  | .nullableNotOptional => "#[nullable] requires an Option<T> field so NULL can be represented"

/-- The text that an attribute gives; it has to be a literal and not empty. -/
def Attribute.value (a : Attribute) : Except ExpandError String :=
  match a.form with
  | .bare => .error (.missingValue a.name)
  | .list _ => .error .expectedEquals
  | .expression _ none => .error (.notText a.name)
  | .text s | .expression _ (some s) => if s = "" then .error (.emptyName a.name) else .ok s

/-- The attribute has to be its name alone. -/
def Attribute.flag (a : Attribute) : Except ExpandError Unit :=
  match a.form with
  | .bare => .ok ()
  | _ => .error .unexpectedToken

/-- The table that the first attribute of that name gives. -/
def tableOf (attributes : List Attribute) : Except ExpandError (Option String) :=
  match attributes.find? (·.name = "table_name") with
  | none => .ok none
  | some a => match a.value with
    | .ok s => .ok (some s)
    | .error e => .error e

/-- What the attributes of a field say. -/
structure Marks where
  column : Option String := none
  primaryKey : Bool := false
  nullable : Bool := false
  skipped : Bool := false
  deriving DecidableEq, Repr

def Marks.read (m : Marks) (a : Attribute) : Except ExpandError Marks :=
  if a.name = "column_name" then match a.value with
    | .ok s => .ok { m with column := some s }
    | .error e => .error e
  else if a.name = "primary_key" then match a.flag with
    | .ok () => .ok { m with primaryKey := true }
    | .error e => .error e
  else if a.name = "nullable" then match a.flag with
    | .ok () => .ok { m with nullable := true }
    | .error e => .error e
  else if a.name = "skip" then match a.flag with
    | .ok () => .ok { m with skipped := true }
    | .error e => .error e
  else .ok m

def Marks.readAll : Marks → List Attribute → Except ExpandError Marks
  | m, [] => .ok m
  | m, a :: as => match m.read a with
    | .ok m => m.readAll as
    | .error e => .error e

def Member.marks (f : Member) : Except ExpandError Marks :=
  match Marks.readAll {} f.attributes with
  | .error e => .error e
  | .ok m => if m.skipped && (m.primaryKey || m.column.isSome) then .error .skippedMapping else .ok m

/-- The identifier as the declaration has it. -/
def Member.bareIdent (f : Member) : String := String.ofList (Naming.bare f.ident.toList)

def Member.declaration (f : Member) (m : Marks) : FieldDeclaration where
  ident := f.bareIdent
  type := (f.type.optionInner?.getD f.type).fieldType
  column := m.column
  primaryKey := m.primaryKey
  nullable := f.type.optionInner?.isSome

/-- A declared field and the position of the member behind it. -/
structure Slot where
  position : Nat
  member : Member
  declaration : FieldDeclaration

/-- The slot of a member; none if it is skipped. -/
def Member.slot (f : Member) (position : Nat) : Except ExpandError (Option Slot) :=
  match f.marks with
  | .error e => .error e
  | .ok m =>
    if m.skipped then .ok none
    else if m.nullable && f.type.optionInner?.isNone then .error .nullableNotOptional
    else .ok (some ⟨position, f, f.declaration m⟩)

/-- The slots of members from a position on. -/
def slotsFrom : Nat → List Member → Except ExpandError (List Slot)
  | _, [] => .ok []
  | position, f :: fs => match f.slot position with
    | .error e => .error e
    | .ok slot => match slotsFrom (position + 1) fs with
      | .error e => .error e
      | .ok slots => .ok (slot.toList ++ slots)

structure Expansion where
  name : String
  table : Option String
  slots : List Slot

def Expansion.declaration (x : Expansion) : Declaration where
  name := x.name
  table := x.table
  fields := x.slots.map (·.declaration)

def Definition.expand (d : Definition) : Except ExpandError Expansion :=
  match tableOf d.attributes with
  | .error e => .error e
  | .ok table => match d.shape with
    | .named members => match slotsFrom 0 members with
      | .ok slots => .ok ⟨d.name, table, slots⟩
      | .error e => .error e
    | .unit => .ok ⟨d.name, table, []⟩
    | .tuple | .enumeration | .union => .error .notNamedFields

end EntityQuery.Derive
