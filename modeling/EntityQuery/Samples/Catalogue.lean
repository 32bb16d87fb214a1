/-
  EntityQuery.Samples.Catalogue — the sample entities by name.
-/
import EntityQuery.Samples.Derived
import EntityQuery.Samples.Written

namespace EntityQuery.Samples

open Derive

/-- An entity type with a fresh value, and the contents of its values in order. -/
structure EntityType where
  Carrier : Type
  entity : Entity Carrier
  fresh : Inhabited Carrier
  contents : Carrier → List Content

instance (t : EntityType) : Entity t.Carrier := t.entity

instance (t : EntityType) : Inhabited t.Carrier := t.fresh

def EntityType.derived (d : Derived) : EntityType :=
  ⟨d.Record, inferInstance, inferInstance, Derived.Record.contents⟩

def counter : EntityType :=
  ⟨Counter, inferInstance, inferInstance, fun c => [.integer c.hits.toNat, .text c.label, .double c.ratio]⟩

def emptyTable : EntityType := ⟨EmptyTable, inferInstance, inferInstance, fun _ => []⟩

def emptyColumn : EntityType := ⟨EmptyColumn, inferInstance, inferInstance, fun _ => []⟩

def userEntity : Derived := ⟨"User", user, types, types_optional, by decide⟩

def postEntity : Derived := ⟨"Post", post, types, types_optional, by decide⟩

def httpServerEntity : Derived := ⟨"HTTPServer", httpServer, types, types_optional, by decide⟩

def orderEntity : Derived := ⟨"Order", order, types, types_optional, by decide⟩

def lineItemEntity : Derived := ⟨"LineItem", lineItem, types, types_optional, by decide⟩

def numbersEntity : Derived := ⟨"Numbers", numbers, types, types_optional, by decide⟩

def optionalsEntity : Derived := ⟨"Optionals", optionals, types, types_optional, by decide⟩

def documentEntity : Derived := ⟨"Document", document, types, types_optional, by decide⟩

def oddNamesEntity : Derived := ⟨"Quirky", oddNames, types, types_optional, by decide⟩

def ticketEntity : Derived := ⟨"Ticket", ticket, types, types_optional, by decide⟩

def categoryEntity : Derived := ⟨"Category", category, types, types_optional, by decide⟩

def nothingEntity : Derived := ⟨"Nothing", nothing, types, types_optional, by decide⟩

def markerEntity : Derived := ⟨"Marker", marker, types, types_optional, by decide⟩

def dupColsEntity : Derived := ⟨"DupCols", dupCols, types, types_optional, by decide⟩

def twoKeysEntity : Derived := ⟨"TwoKeys", twoKeys, types, types_optional, by decide⟩

def derivedEntities : List Derived := [userEntity, postEntity, httpServerEntity, orderEntity, lineItemEntity,
  numbersEntity, optionalsEntity, documentEntity, oddNamesEntity, ticketEntity, categoryEntity, nothingEntity,
  markerEntity, dupColsEntity, twoKeysEntity]

def find? (name : String) : Option EntityType :=
  if name = "Counter" then some counter
  else if name = "EmptyTable" then some emptyTable
  else if name = "EmptyColumn" then some emptyColumn
  else (derivedEntities.find? (·.key = name)).map .derived

end EntityQuery.Samples
