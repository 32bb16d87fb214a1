/-
  EntityQuery.Query.Predicate — one condition of a query.

  A condition is free text with a question mark for every argument, or a test that a
  column is in a list of values. Both have a template; that of a list names the column
  and has a marker for every value, and an empty list is written so that it matches
  nothing.
-/
import EntityQuery.Query.Literal
import EntityQuery.Query.Error
import EntityQuery.Text.Pieces

namespace EntityQuery.Query

open Text

inductive Predicate where
  | fragment (template : String) (args : List Value)
  | inList (column : String) (values : List Value)
  deriving DecidableEq

namespace Predicate

/-- What follows the column of a list of `n` values. -/
def listBody (n : Nat) : List Char :=
  " IN (".toList ++ (if n = 0 then "NULL".toList else joined ", ".toList (List.replicate n ['?'])) ++ [')']

/-- The condition as written. -/
def template : Predicate → List Char
  | .fragment t _ => t.toList
  | .inList column values => column.toList ++ listBody values.length

/-- The arguments in the order of their markers. -/
def args : Predicate → List Value
  | .fragment _ args => args
  | .inList _ values => values

/-- The column that a list tests. -/
def column? : Predicate → Option String
  | .fragment _ _ => none
  | .inList column _ => some column

/-- Free text with as many arguments as it has markers. -/
def ofFragment (template : String) (args : List Value) : Except QueryError Predicate :=
  let placeholders := (markers template.toList).length
  if placeholders = args.length then .ok (.fragment template args)
  else .error (.argumentCountMismatch template placeholders args.length)

/-- The condition has to be parenthesised next to another one. -/
def hasDisjunction (p : Predicate) : Bool := hasTopLevelOr p.template

end Predicate

end EntityQuery.Query
