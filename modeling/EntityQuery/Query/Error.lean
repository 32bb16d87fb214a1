/-
  EntityQuery.Query.Error — everything that can go wrong between building a query and
  binding its rows.

  Three errors carry a cause of their own: a malformed declaration, a cell that does not
  fit its field, and the message of an executor that failed.
-/
import EntityQuery.Schema.Descriptor
import EntityQuery.Value.Extract

namespace EntityQuery.Query

open Schema

inductive QueryError where
  | schema (cause : SchemaError)
  | unknownColumn (entity column : String)
  | argumentCountMismatch (template : String) (placeholders arguments : Nat)
  /-- The query was used after it had been run. -/
  | staleBuilder (entity : String)
  /-- The query has no entity to select from. -/
  | emptyQuery
  | bindShape (expected actual : Nat)
  | nullabilityViolation (entity column : String)
  | valueConversion (entity column : String) (cause : ExtractError)
  | execution (entity statement : String) (cause : String)
  deriving DecidableEq

/-- The message of the cause, for the errors that carry one. -/
def QueryError.cause? : QueryError → Option String
  | .schema cause => some cause.message
  | .valueConversion _ _ cause => some cause.message
  | .execution _ _ cause => some cause
  | _ => none

def QueryError.message : QueryError → String
  | .schema cause => "Schema error: " ++ cause.message
  | .unknownColumn entity column => s!"Unknown column '{column}' on entity '{entity}'"
  | .argumentCountMismatch template placeholders arguments =>
    s!"Predicate '{template}' has {placeholders} placeholder(s) but {arguments} argument(s) were supplied"
  | .staleBuilder entity => s!"Query builder for '{entity}' was already executed"
  | .emptyQuery => "Query has no target entity"
  | .bindShape expected actual => s!"Row has {actual} column(s) but the projection has {expected}"
  | .nullabilityViolation entity column =>
    s!"NULL returned for non-nullable column '{column}' of entity '{entity}'"
  | .valueConversion entity column cause =>
    s!"Cannot bind column '{column}' of entity '{entity}': " ++ cause.message
  | .execution entity statement cause => s!"Execution error for entity '{entity}' ({statement}): {cause}"

/-- The fields of some columns, in the order of the columns. -/
def fieldsOf (d : Descriptor) : List String → Except QueryError (List Field)
  | [] => .ok []
  | column :: columns => match d.field? column with
    | none => .error (.unknownColumn d.name column)
    | some field => match fieldsOf d columns with
      | .ok fields => .ok (field :: fields)
      | .error e => .error e

end EntityQuery.Query
