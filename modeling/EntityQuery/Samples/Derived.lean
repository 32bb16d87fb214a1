/-
  EntityQuery.Samples.Derived — derived entities of many kinds: mapped and unmapped names,
  every integer width, optional members, skipped members, a member of an enumerated type,
  names that need quoting, and definitions whose declarations are malformed.
-/
import EntityQuery.Derive.Record

namespace EntityQuery.Samples

open Derive Schema

/-- Open or closed; read from a text. -/
def status : MemberType where
  read v := match v.toText with
    | .error e => .error e
    | .ok s =>
      if s = "open" || s = "closed" then .ok (.choice s)
      else .error (.conversion (.reported s!"unknown status '{s}'"))
  initial := .choice "open"

/-- Every type not known otherwise is read as a status. -/
def types : TypeExpr → MemberType := memberType fun _ => status

theorem types_optional (t u : TypeExpr) (h : t.optionInner? = some u) : types t = (types u).optional :=
  memberType_of_optionInner? _ h

def plain (ident type : String) : Member := ⟨ident, [], .named type⟩

def column (name : String) : Attribute := ⟨"column_name", .text name⟩

def primaryKey : Attribute := ⟨"primary_key", .bare⟩

def option (ident type : String) : Member := ⟨ident, [], .applied "Option" (.named type)⟩

def jsonType : TypeExpr := .path false [.mk "serde_json" none, .mk "Value" none]

def bytesType : TypeExpr := .applied "Vec" (.named "u8")

def table (name : String) : Attribute := ⟨"table_name", .text name⟩

def user : Definition := ⟨"User", [table "users"], .named
  [plain "id" "u32", plain "name" "String", option "email" "String"]⟩

def post : Definition := ⟨"Post", [], .named
  [⟨"id", [primaryKey, column "id"], .named "i32"⟩, ⟨"context", [column "body"], .named "i32"⟩,
    ⟨"create_time", [column "created_at"], .named "i32"⟩]⟩

def httpServer : Definition := ⟨"HTTPServer", [], .named
  [⟨"id", [primaryKey, column "server_id"], .named "i64"⟩, plain "HostName" "String", plain "healthy" "bool"]⟩

def order : Definition := ⟨"Order", [], .named [plain "id" "u32", plain "order" "String"]⟩

def lineItem : Definition := ⟨"LineItem", [], .named
  [⟨"sku", [primaryKey], .named "String"⟩, plain "quantity" "i32"]⟩

def numbers : Definition := ⟨"Numbers", [], .named
  [plain "a" "i8", plain "b" "i16", plain "c" "i32", plain "d" "i64", plain "e" "isize", plain "f" "u8",
    plain "g" "u16", plain "h" "u32", plain "i" "u64", plain "j" "usize", plain "k" "f32", plain "l" "f64",
    plain "m" "bool"]⟩

def optionals : Definition := ⟨"Optionals", [table "optionals"], .named
  [⟨"flag", [⟨"nullable", .bare⟩], .applied "Option" (.named "bool")⟩, option "small" "i8", option "big" "u64",
    option "single" "f32", option "double" "f64", option "text" "String",
    ⟨"blob", [], .applied "Option" bytesType⟩, ⟨"doc", [], .applied "Option" jsonType⟩,
    ⟨"nested", [], .applied "Option" (.applied "Option" (.named "i32"))⟩]⟩

def document : Definition := ⟨"Document", [], .named
  [plain "id" "i64", ⟨"payload", [], jsonType⟩, ⟨"attachment", [], .applied "Option" bytesType⟩,
    plain "ratio" "f64", ⟨"cached_summary", [⟨"skip", .bare⟩], .named "String"⟩, plain "published" "bool"]⟩

def oddNames : Definition := ⟨"Quirky", [table "we\"ird ?table"], .named
  [⟨"dq", [column "a\"b"], .named "i32"⟩, ⟨"or_col", [column "x OR y"], .named "i32"⟩,
    ⟨"q", [column "q?"], .named "i32"⟩, ⟨"apostrophe", [column "it\x27s"], .named "i32"⟩,
    ⟨"open", [column "(open"], .named "i32"⟩, ⟨"size", [column "größe"], .named "i32"⟩,
    ⟨"tick", [column "back\x60tick"], .named "i32"⟩, ⟨"space", [column "a b"], .named "i32"⟩,
    ⟨"key", [column "ID"], .named "i32"⟩]⟩

def ticket : Definition := ⟨"Ticket", [], .named
  [plain "id" "u64", plain "status" "Status", plain "r#type" "String", option "prior" "Status"]⟩

def category : Definition := ⟨"Category", [], .named [plain "label" "String"]⟩

def nothing : Definition := ⟨"Nothing", [], .named []⟩

def marker : Definition := ⟨"Marker", [], .unit⟩

def dupCols : Definition := ⟨"DupCols", [], .named [plain "UserID" "i64", plain "user_id" "i64"]⟩

def twoKeys : Definition := ⟨"TwoKeys", [], .named
  [⟨"a", [primaryKey], .named "i32"⟩, ⟨"b", [primaryKey], .named "i32"⟩]⟩

end EntityQuery.Samples
