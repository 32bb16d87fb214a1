/-
  EntityQuery.Json.Written — JSON documents as text: the compact written form, and the
  form that names every constructor, for diagnostics.

  The compact form has no blanks. Strings escape the quote, the backslash and the
  controls below the space, nothing else. Doubles have the fewest digits that read
  back, positional for exponents from -5 to 15, otherwise with a signed exponent.
-/
import EntityQuery.Json.Basic
import EntityQuery.Text.Quoted

namespace EntityQuery.Json

open Number Text

/-- Positional from 0.00001 up to, but not including, ten to the sixteenth; an exponent
    always has a sign and a tie goes to the even digit. -/
def form : Notation := ⟨-5, 15, "+", .even⟩

/-- One character of a written string. -/
def escape (c : Char) : List Char :=
  if c = '\x22' || c = '\\' then ['\\', c]
  else if c = '\n' then ['\\', 'n']
  else if c = '\r' then ['\\', 'r']
  else if c = '\t' then ['\\', 't']
  else if c.toNat = 8 then ['\\', 'b']
  else if c.toNat = 12 then ['\\', 'f']
  else if c.toNat < 32 then
    ['\\', 'u', '0', '0', Nat.digitChar (c.toNat / 16), Nat.digitChar (c.toNat % 16)]
  else [c]

def writeString (s : String) : String :=
  String.ofList ('\x22' :: s.toList.flatMap escape ++ ['\x22'])

def writeReal (x : Double) : String := form.render double x.read

mutual
/-- The compact written form. -/
def write : Json → String
  | .null => "null"
  | .boolean b => if b then "true" else "false"
  | .integer n => toString n
  | .real x => writeReal x
  | .string s => writeString s
  | .array items => "[" ++ ",".intercalate (writeItems items) ++ "]"
  | .object members => "\x7b" ++ ",".intercalate (writeMembers members) ++ "\x7d"
def writeItems : List Json → List String
  | [] => []
  | v :: vs => write v :: writeItems vs
def writeMembers : List (String × Json) → List String
  | [] => []
  | (k, v) :: ms => (writeString k ++ ":" ++ write v) :: writeMembers ms
end

mutual
/-- The form shown in diagnostics. -/
def diagnostic : Json → String
  | .null => "Null"
  | .boolean b => "Bool(" ++ (if b then "true" else "false") ++ ")"
  | .integer n => "Number(" ++ toString n ++ ")"
  | .real x => "Number(" ++ writeReal x ++ ")"
  | .string s => "String(" ++ quoted s ++ ")"
  | .array items => "Array [" ++ ", ".intercalate (diagnosticItems items) ++ "]"
  | .object members => "Object \x7b" ++ ", ".intercalate (diagnosticMembers members) ++ "\x7d"
def diagnosticItems : List Json → List String
  | [] => []
  | v :: vs => diagnostic v :: diagnosticItems vs
def diagnosticMembers : List (String × Json) → List String
  | [] => []
  | (k, v) :: ms => (quoted k ++ ": " ++ diagnostic v) :: diagnosticMembers ms
end

end EntityQuery.Json
