/-
  EntityQuery.Value.Basic — the cells of a row and the arguments of a statement.

  A value is of one of the sixteen kinds a store distinguishes; each kind has its own
  NULL. `isNull` knows the NULL of every kind but one: a missing value of an enumerated
  type still carries the name of its type and does not count as NULL. `isVacant` counts
  that one too.
-/
import EntityQuery.Json.Basic

namespace EntityQuery

open Number

inductive Value where
  | bool (v : Option Bool)
  | tinyInt (v : Option Int8)
  | smallInt (v : Option Int16)
  | int (v : Option Int32)
  | bigInt (v : Option Int64)
  | tinyUnsigned (v : Option UInt8)
  | smallUnsigned (v : Option UInt16)
  | unsigned (v : Option UInt32)
  | bigUnsigned (v : Option UInt64)
  | float (v : Option Single)
  | double (v : Option Double)
  | string (v : Option String)
  | char (v : Option Char)
  | bytes (v : Option (List UInt8))
  | json (v : Option Json)
  | enum (type : String) (v : Option String)
  deriving DecidableEq, Inhabited

namespace Value

/-- The value is the NULL of a kind other than the enumerated ones. -/
def isNull : Value → Bool
  | .bool none | .tinyInt none | .smallInt none | .int none | .bigInt none | .tinyUnsigned none
  | .smallUnsigned none | .unsigned none | .bigUnsigned none | .float none | .double none
  | .string none | .char none | .bytes none | .json none => true
  | _ => false

/-- The value carries nothing, whatever its kind. -/
def isVacant : Value → Bool
  | .enum _ none => true
  | v => v.isNull

/-- The integer in a value of one of the eight integer kinds; `none` for its NULL. The
    outer `none` is a value of another kind. -/
def integer? : Value → Option (Option Int)
  | .tinyInt v => some (v.map (·.toInt))
  | .smallInt v => some (v.map (·.toInt))
  | .int v => some (v.map (·.toInt))
  | .bigInt v => some (v.map (·.toInt))
  | .tinyUnsigned v => some (v.map (·.toNat))
  | .smallUnsigned v => some (v.map (·.toNat))
  | .unsigned v => some (v.map (·.toNat))
  | .bigUnsigned v => some (v.map (·.toNat))
  | _ => none

end Value

end EntityQuery
