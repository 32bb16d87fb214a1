/-
  EntityQuery.Entity — entities: types whose values can be filled from rows, field by field.

  An entity declares its fields and gives access to them by their position in that
  declaration. `bindField` converts a value and stores it; it answers with the entity as it
  then is, also when it fails, because nothing forces an entity to be left alone by a
  failure. `checkField` converts without storing; unless an entity says otherwise it
  accepts everything and leaves the refusal to `bindField`.
-/
import EntityQuery.Schema.Registry
import EntityQuery.Value.Extract

namespace EntityQuery

open Schema

class Entity (E : Type) where
  /-- Tells this type apart from every other entity type. -/
  key : TypeKey
  declaration : Declaration
  bindField : Nat → Value → E → Except ExtractError Unit × E
  checkField : Nat → Value → Except ExtractError Unit := fun _ _ => .ok ()

end EntityQuery
