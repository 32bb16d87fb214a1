/-
  EntityQuery.Json.Basic — JSON documents.

  Integers that fit a signed or unsigned 64-bit word stay exact; every other number is
  a double. An object keeps its members in the order of their keys, code point by code
  point, which is also the order of their UTF-8 bytes, each key once: `insert` puts a
  member in its place, and the last of several with one key wins.
-/
import EntityQuery.Number.Decimal

namespace EntityQuery

open Number

inductive Json where
  | null
  | boolean (b : Bool)
  | integer (n : Int)
  | real (x : Double)
  | string (s : String)
  | array (items : List Json)
  | object (members : List (String × Json))
  deriving Inhabited

namespace Json

mutual
def decEq : (a b : Json) → Decidable (a = b)
  | .null, .null => isTrue rfl
  | .boolean a, .boolean b => if h : a = b then isTrue (h ▸ rfl) else isFalse (fun e => h (by cases e; rfl))
  | .integer a, .integer b => if h : a = b then isTrue (h ▸ rfl) else isFalse (fun e => h (by cases e; rfl))
  | .real a, .real b => if h : a = b then isTrue (h ▸ rfl) else isFalse (fun e => h (by cases e; rfl))
  | .string a, .string b => if h : a = b then isTrue (h ▸ rfl) else isFalse (fun e => h (by cases e; rfl))
  | .array a, .array b => match decEqItems a b with
    | isTrue h => isTrue (h ▸ rfl)
    | isFalse h => isFalse (fun e => h (by cases e; rfl))
  | .object a, .object b => match decEqMembers a b with
    | isTrue h => isTrue (h ▸ rfl)
    | isFalse h => isFalse (fun e => h (by cases e; rfl))
  | .null, .boolean _ | .null, .integer _ | .null, .real _ | .null, .string _ | .null, .array _
  | .null, .object _ | .boolean _, .null | .boolean _, .integer _ | .boolean _, .real _
  | .boolean _, .string _ | .boolean _, .array _ | .boolean _, .object _ | .integer _, .null
  | .integer _, .boolean _ | .integer _, .real _ | .integer _, .string _ | .integer _, .array _
  | .integer _, .object _ | .real _, .null | .real _, .boolean _ | .real _, .integer _
  | .real _, .string _ | .real _, .array _ | .real _, .object _ | .string _, .null
  | .string _, .boolean _ | .string _, .integer _ | .string _, .real _ | .string _, .array _
  | .string _, .object _ | .array _, .null | .array _, .boolean _ | .array _, .integer _
  | .array _, .real _ | .array _, .string _ | .array _, .object _ | .object _, .null
  | .object _, .boolean _ | .object _, .integer _ | .object _, .real _ | .object _, .string _
  | .object _, .array _ => isFalse (fun e => by cases e)
def decEqItems : (a b : List Json) → Decidable (a = b)
  | [], [] => isTrue rfl
  | [], _ :: _ | _ :: _, [] => isFalse (fun e => by cases e)
  | a :: as, b :: bs => match decEq a b with
    | isFalse h => isFalse (fun e => h (by cases e; rfl))
    | isTrue h => match decEqItems as bs with
      | isTrue t => isTrue (h ▸ t ▸ rfl)
      | isFalse t => isFalse (fun e => t (by cases e; rfl))
def decEqMembers : (a b : List (String × Json)) → Decidable (a = b)
  | [], [] => isTrue rfl
  | [], _ :: _ | _ :: _, [] => isFalse (fun e => by cases e)
  | (k, a) :: as, (l, b) :: bs =>
    if hk : k = l then match decEq a b with
      | isFalse h => isFalse (fun e => h (by cases e; rfl))
      | isTrue h => match decEqMembers as bs with
        | isTrue t => isTrue (by rw [hk, h, t])
        | isFalse t => isFalse (fun e => t (by cases e; rfl))
    else isFalse (fun e => hk (by cases e; rfl))
end

instance : DecidableEq Json := decEq

/-- Puts a member in its place among members in order of their keys. -/
def insert (k : String) (v : Json) : List (String × Json) → List (String × Json)
  | [] => [(k, v)]
  | (l, w) :: rest =>
    if k = l then (k, v) :: rest
    else if k < l then (k, v) :: (l, w) :: rest
    else (l, w) :: insert k v rest

end Json

end EntityQuery
