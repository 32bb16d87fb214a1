/-
  EntityQuery.Query.State — what a query has collected so far, and the calls that add to it.

  `State.apply` says what each call does, or why it is refused; a refused call yields no
  state at all, so nothing of it can stick. Selecting is all or nothing and keeps the first
  of repeated columns.
-/
import EntityQuery.Query.Predicate

namespace EntityQuery.Query

open Schema

inductive Direction where
  | asc
  | desc
  deriving DecidableEq, Repr

instance : Inhabited Direction := ⟨.asc⟩

structure State where
  /-- The entity to select from. -/
  entity : Option Descriptor := none
  /-- The columns to return, in order; none means all of them. -/
  projection : List String := []
  predicates : List Predicate := []
  order : List (String × Direction) := []
  limit : Option UInt64 := none
  offset : Option UInt64 := none
  deriving DecidableEq

/-- One call on a query under construction. -/
inductive Call where
  | select (columns : List String)
  | filter (template : String) (args : List Value)
  | filterIn (column : String) (values : List Value)
  | orderBy (column : String) (direction : Direction)
  | limit (n : UInt64)
  | offset (n : UInt64)
  deriving DecidableEq

namespace State

def ofEntity (d : Descriptor) : State := { entity := some d }

/-- The fields of the result, in the order of its columns. -/
def projectedFields (s : State) : Except QueryError (List Field) :=
  match s.entity with
  | none => .error .emptyQuery
  | some d => if s.projection.isEmpty then .ok d.fields else fieldsOf d s.projection

def checkColumn (s : State) (column : String) : Except QueryError Unit :=
  match s.entity with
  | none => .error .emptyQuery
  | some d => if d.hasColumn column then .ok () else .error (.unknownColumn d.name column)

def checkColumns (s : State) : List String → Except QueryError Unit
  | [] => .ok ()
  | column :: columns => match s.checkColumn column with
    | .ok () => s.checkColumns columns
    | .error e => .error e

/-- Adds the columns that are not there yet. -/
def extend (projection : List String) : List String → List String
  | [] => projection
  | column :: columns =>
    if projection.contains column then extend projection columns else extend (projection ++ [column]) columns

def apply (s : State) : Call → Except QueryError State
  | .select columns => match s.checkColumns columns with
    | .ok () => .ok { s with projection := extend s.projection columns }
    | .error e => .error e
  | .filter template args => match Predicate.ofFragment template args with
    | .ok p => .ok { s with predicates := s.predicates ++ [p] }
    | .error e => .error e
  | .filterIn column values => match s.checkColumn column with
    | .ok () => .ok { s with predicates := s.predicates ++ [.inList column values] }
    | .error e => .error e
  | .orderBy column direction => match s.checkColumn column with
    | .ok () => .ok { s with order := s.order ++ [(column, direction)] }
    | .error e => .error e
  | .limit n => .ok { s with limit := some n }
  | .offset n => .ok { s with offset := some n }

end State

end EntityQuery.Query
