/-
  EntityQuery.Value.Extract — taking a typed field out of a value.

  Integers are taken from any of the eight integer kinds and kept only within the bounds
  of the field's type; a Boolean may also come as a signed 0 or 1; a double may come as a
  float, a text as a single character, a JSON document as the text of one. A NULL of a
  kind the field could be taken from is reported as such, and any other kind is a
  mismatch. `optional` turns the report of a NULL into a missing value and passes every
  other error through.
-/
import EntityQuery.Value.Diagnostic
import EntityQuery.Json.Reader

namespace EntityQuery

open Number

/-- The integer types a field can have. Those of the machine's word size are 64 bits wide. -/
inductive IntegerType where
  | i8 | i16 | i32 | i64 | isize
  | u8 | u16 | u32 | u64 | usize
  deriving DecidableEq, Repr

namespace IntegerType

def name : IntegerType → String
  | .i8 => "i8"
  | .i16 => "i16"
  | .i32 => "i32"
  | .i64 => "i64"
  | .isize => "isize"
  | .u8 => "u8"
  | .u16 => "u16"
  | .u32 => "u32"
  | .u64 => "u64"
  | .usize => "usize"

def least : IntegerType → Int
  | .i8 => -0x80
  | .i16 => -0x8000
  | .i32 => -0x80000000
  | .i64 | .isize => -0x8000000000000000
  | .u8 | .u16 | .u32 | .u64 | .usize => 0

def greatest : IntegerType → Int
  | .i8 => 0x7f
  | .i16 => 0x7fff
  | .i32 => 0x7fffffff
  | .i64 | .isize => 0x7fffffffffffffff
  | .u8 => 0xff
  | .u16 => 0xffff
  | .u32 => 0xffffffff
  | .u64 | .usize => 0xffffffffffffffff

end IntegerType

/-- Why a value of the right kind is no value of the field's type. -/
inductive Unfit where
  | outOfRange (n : Int) (type : IntegerType)
  | notBoolean (n : Int)
  | notJson (e : Json.ReadError)
  /-- The report of a field type defined elsewhere. -/
  | reported (message : String)
  deriving DecidableEq

def Unfit.message : Unfit → String
  | .outOfRange n type => toString n ++ " is out of range for " ++ type.name
  | .notBoolean n => toString n ++ " is not a boolean"
  | .notJson e => e.message
  | .reported message => message

inductive ExtractError where
  | nullValue
  | typeMismatch (expected : String) (actual : Value)
  | conversion (cause : Unfit)
  | unknownField (index : Nat)
  deriving DecidableEq

def ExtractError.message : ExtractError → String
  | .nullValue => "Value is null"
  | .typeMismatch expected actual => "Type mismatch: expected " ++ expected ++ ", got " ++ actual.diagnostic
  | .conversion cause => "Conversion error: " ++ cause.message
  | .unknownField index => "No field at index " ++ toString index

namespace Value

def toInteger (type : IntegerType) (v : Value) : Except ExtractError Int :=
  match v.integer? with
  | none => .error (.typeMismatch type.name v)
  | some none => .error .nullValue
  | some (some n) =>
    if type.least ≤ n ∧ n ≤ type.greatest then .ok n else .error (.conversion (.outOfRange n type))

def booleanOfInteger (n : Int) : Except ExtractError Bool :=
  if n = 0 then .ok false
  else if n = 1 then .ok true
  else .error (.conversion (.notBoolean n))

def toBoolean : Value → Except ExtractError Bool
  | .bool (some b) => .ok b
  | .tinyInt (some n) => booleanOfInteger n.toInt
  | .smallInt (some n) => booleanOfInteger n.toInt
  | .int (some n) => booleanOfInteger n.toInt
  | .bigInt (some n) => booleanOfInteger n.toInt
  | .bool none | .tinyInt none | .smallInt none | .int none | .bigInt none => .error .nullValue
  | v => .error (.typeMismatch "Bool" v)

def toDouble : Value → Except ExtractError Double
  | .double (some x) => .ok x
  | .float (some x) => .ok x.widen
  | .double none | .float none => .error .nullValue
  | v => .error (.typeMismatch "Double" v)

def toSingle : Value → Except ExtractError Single
  | .float (some x) => .ok x
  | .float none => .error .nullValue
  | v => .error (.typeMismatch "Float" v)

def toText : Value → Except ExtractError String
  | .string (some s) => .ok s
  | .char (some c) => .ok (String.singleton c)
  | .string none | .char none => .error .nullValue
  | v => .error (.typeMismatch "String" v)

def toBytes : Value → Except ExtractError (List UInt8)
  | .bytes (some bs) => .ok bs
  | .bytes none => .error .nullValue
  | v => .error (.typeMismatch "Bytes" v)

def toJson : Value → Except ExtractError Json
  | .json (some j) => .ok j
  | .string (some s) => match Json.read s with
    | .ok j => .ok j
    | .error e => .error (.conversion (.notJson e))
  | .json none | .string none => .error .nullValue
  | v => .error (.typeMismatch "Json" v)

/-- A NULL becomes a missing value. -/
def optional? {α : Type} (extract : Value → Except ExtractError α) (v : Value) : Except ExtractError (Option α) :=
  match extract v with
  | .ok a => .ok (some a)
  | .error .nullValue => .ok none
  | .error e => .error e

end Value

end EntityQuery
