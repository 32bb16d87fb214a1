/-
  EntityQuery.Query.Statement — a query as SQL text with its arguments and its columns.

      SELECT columns FROM table [WHERE p1 AND p2 ...] [ORDER BY ...] [LIMIT n] [OFFSET m]

  Templates are copied as they are, but for markers under the dollar style: the text is
  cut at its markers, by byte ranges, and the pieces are put together again around running
  numbers. A template with a top-level OR is put in parentheses when it is not the only
  one. A quoted name doubles its double quotes.
-/
import EntityQuery.Query.State
import EntityQuery.Text.Slice
import EntityQuery.Settings.Basic

namespace EntityQuery.Query

open Schema Text

/-- The ranges between markers, each one byte long, from `start` to `stop`. -/
def cutsFrom (start stop : Nat) : List Nat → List (Nat × Nat)
  | [] => [(start, stop)]
  | marker :: rest => (start, marker) :: cutsFrom (marker + 1) stop rest

/-- The ranges that a text is cut into at its markers. -/
def cuts (cs : List Char) : List (Nat × Nat) := cutsFrom 0 (byteSize cs) (markers cs)

def decimal (n : Nat) : List Char := Nat.toDigits 10 n

/-- Pieces with running numbers between them, `bound` numbers having been used before. -/
def numbered (bound : Nat) : List (List Char) → List Char
  | [] => []
  | [piece] => piece
  | piece :: pieces => piece ++ '$' :: decimal (bound + 1) ++ numbered (bound + 1) pieces

def identifier (settings : Settings) (name : String) : List Char :=
  if settings.quoteIdentifiers then
    '\x22' :: name.toList.flatMap (fun c => if c = '\x22' then ['\x22', '\x22'] else [c]) ++ ['\x22']
  else name.toList

namespace Predicate

/-- The range of the template that follows the column of a list; all of it otherwise. -/
def bodyRange (p : Predicate) : Nat × Nat :=
  match p.column? with
  | none => (0, byteSize p.template)
  | some column => (byteSize column.toList, byteSize p.template)

/-- The template without the column of a list. -/
def body (p : Predicate) : List Char := slice p.template p.bodyRange

/-- The column of a list, rendered. -/
def head (settings : Settings) (p : Predicate) : List Char :=
  match p.column? with
  | none => []
  | some column => identifier settings column

/-- A text with its markers rendered, `bound` arguments having been used before. -/
def renderMarkers (style : PlaceholderStyle) (bound : Nat) (cs : List Char) : List Char :=
  match style with
  | .question => cs
  | .dollar => numbered bound ((cuts cs).map (slice cs))

def render (settings : Settings) (bound : Nat) (p : Predicate) : List Char :=
  p.head settings ++ renderMarkers settings.placeholder bound p.body

/-- In parentheses if it has to be. -/
def renderGrouped (settings : Settings) (many : Bool) (bound : Nat) (p : Predicate) : List Char :=
  if many && p.hasDisjunction then '(' :: p.render settings bound ++ [')'] else p.render settings bound

end Predicate

def Direction.sql : Direction → List Char
  | .asc => "ASC".toList
  | .desc => "DESC".toList

/-- The conditions one by one, the arguments being counted through. -/
def conditions (settings : Settings) (many : Bool) : Nat → List Predicate → List (List Char)
  | _, [] => []
  | bound, p :: ps =>
    p.renderGrouped settings many bound :: conditions settings many (bound + p.args.length) ps

/-- The text after `WHERE`. -/
def whereText (settings : Settings) (predicates : List Predicate) : List Char :=
  joined " AND ".toList (conditions settings (1 < predicates.length) 0 predicates)

def orderTerm (settings : Settings) (term : String × Direction) : List Char :=
  identifier settings term.1 ++ ' ' :: term.2.sql

namespace State

def whereClause (settings : Settings) (s : State) : List Char :=
  if s.predicates.isEmpty then [] else " WHERE ".toList ++ whereText settings s.predicates

def orderClause (settings : Settings) (s : State) : List Char :=
  if s.order.isEmpty then [] else " ORDER BY ".toList ++ joined ", ".toList (s.order.map (orderTerm settings))

def limitClause (s : State) : List Char :=
  match s.limit with
  | none => []
  | some n => " LIMIT ".toList ++ decimal n.toNat

def offsetClause (s : State) : List Char :=
  match s.offset with
  | none => []
  | some n => " OFFSET ".toList ++ decimal n.toNat

/-- Columns and table. -/
def selectClause (settings : Settings) (table : String) (columns : List String) : List Char :=
  "SELECT ".toList ++ joined ", ".toList (columns.map (identifier settings)) ++ " FROM ".toList ++
    identifier settings table

/-- The whole text, for a table and the columns of the result. -/
def sqlText (settings : Settings) (s : State) (table : String) (columns : List String) : List Char :=
  selectClause settings table columns ++ s.whereClause settings ++ s.orderClause settings ++ s.limitClause ++
    s.offsetClause

end State

structure Statement where
  sql : String
  /-- The arguments in the order of their markers. -/
  values : List Value
  /-- The columns of the result in the order rows must have them. -/
  columns : List String
  deriving DecidableEq

def State.compile (settings : Settings) (s : State) : Except QueryError Statement :=
  match s.entity with
  | none => .error .emptyQuery
  | some d => match s.projectedFields with
    | .error e => .error e
    | .ok fields =>
      let columns := fields.map (·.column)
      .ok ⟨String.ofList (s.sqlText settings d.table columns), s.predicates.flatMap (·.args), columns⟩

end EntityQuery.Query
