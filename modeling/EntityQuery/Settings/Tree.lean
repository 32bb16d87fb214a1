/-
  EntityQuery.Settings.Tree — settings as they are collected, before anything is read out
  of them.

  Changing what stands at a path makes tables and lists of whatever is in the way and keeps
  everything beside it, so what is put later wins. A list is made as long as a path into it
  needs, and the items that nobody has put are `nothing`. A text remembers where it came
  from, because a complaint about it says so, and so does a table that was put as a whole.
-/
import EntityQuery.Number.Decimal
import EntityQuery.Settings.Path

namespace EntityQuery.Settings

open Number

inductive Origin where
  | environment
  | file
  deriving DecidableEq, Repr

inductive Tree where
  | nothing
  | text (s : String) (origin : Origin)
  | integer (n : Int)
  | real (x : Double)
  | boolean (b : Bool)
  | list (items : List Tree)
  | table (entries : List (String × Tree)) (origin : Option Origin)

namespace Tree

def empty : Tree := .table [] none

/-- The entries and the origin of a table; what is no table becomes one without entries. -/
def asTable (made : Option Origin) : Tree → List (String × Tree) × Option Origin
  | .table entries origin => (entries, origin)
  | _ => ([], made)

/-- The items of a list; what is no list becomes one without items. -/
def asList : Tree → List Tree
  | .list items => items
  | _ => []

def child? (t : Tree) (key : String) : Option Tree := (t.asTable none).1.lookup key

/-- Replaces the entry of a key, or adds one at the end. -/
def setEntry (key : String) (v : Tree) : List (String × Tree) → List (String × Tree)
  | [] => [(key, v)]
  | (k, w) :: rest => if k = key then (key, v) :: rest else (k, w) :: setEntry key v rest

/-- The position that an index means and the list made long enough to have it: at the end,
    or in front if the index counts from the end. -/
def widened (index : Int) (items : List Tree) : Nat × List Tree :=
  if 0 ≤ index then
    (index.toNat, items ++ List.replicate (index.toNat + 1 - items.length) .nothing)
  else
    (items.length - index.natAbs, List.replicate (index.natAbs - items.length) .nothing ++ items)

/-- Changes what stands at a path. Tables that are made on the way have the origin given. -/
def change (made : Option Origin) (f : Tree → Tree) : List Step → Tree → Tree
  | [], t => f t
  | .key k :: path, t =>
    let (entries, origin) := t.asTable made
    .table (setEntry k (change made f path ((entries.lookup k).getD .nothing)) entries) origin
  | .item i :: path, t =>
    let (position, items) := widened i t.asList
    .list (items.modify position (change made f path))

/-- Puts a value at a path. -/
def put (t : Tree) (made : Option Origin) (path : List Step) (v : Tree) : Tree := t.change made (fun _ => v) path

end Tree

end EntityQuery.Settings
