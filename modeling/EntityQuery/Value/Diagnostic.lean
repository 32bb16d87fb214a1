/-
  EntityQuery.Value.Diagnostic — a value as an error message shows it: the name of its
  kind, and its content or `None`.
-/
import EntityQuery.Value.Basic
import EntityQuery.Json.Written

namespace EntityQuery.Value

open Text Number

def optional {α : Type} (content : α → String) : Option α → String
  | none => "None"
  | some a => "Some(" ++ content a ++ ")"

def kindName : Value → String
  | .bool _ => "Bool"
  | .tinyInt _ => "TinyInt"
  | .smallInt _ => "SmallInt"
  | .int _ => "Int"
  | .bigInt _ => "BigInt"
  | .tinyUnsigned _ => "TinyUnsigned"
  | .smallUnsigned _ => "SmallUnsigned"
  | .unsigned _ => "Unsigned"
  | .bigUnsigned _ => "BigUnsigned"
  | .float _ => "Float"
  | .double _ => "Double"
  | .string _ => "String"
  | .char _ => "Char"
  | .bytes _ => "Bytes"
  | .json _ => "Json"
  | .enum _ _ => "Enum"

def content : Value → String
  | .bool v => optional (fun b => if b then "true" else "false") v
  | .tinyInt v => optional (fun n => toString n.toInt) v
  | .smallInt v => optional (fun n => toString n.toInt) v
  | .int v => optional (fun n => toString n.toInt) v
  | .bigInt v => optional (fun n => toString n.toInt) v
  | .tinyUnsigned v => optional (fun n => toString n.toNat) v
  | .smallUnsigned v => optional (fun n => toString n.toNat) v
  | .unsigned v => optional (fun n => toString n.toNat) v
  | .bigUnsigned v => optional (fun n => toString n.toNat) v
  | .float v => optional Single.diagnostic v
  | .double v => optional Double.diagnostic v
  | .string v => optional quoted v
  | .char v => optional quotedChar v
  | .bytes v => optional (fun bs => "[" ++ ", ".intercalate (bs.map fun b => toString b.toNat) ++ "]") v
  | .json v => optional Json.diagnostic v
  | .enum type none => "None(" ++ quoted type ++ ")"
  | .enum type (some v) =>
    "Some(Enum \x7b type_name: " ++ quoted type ++ ", value: " ++ quoted v ++ " \x7d)"

def diagnostic (v : Value) : String := v.kindName ++ "(" ++ v.content ++ ")"

end EntityQuery.Value
