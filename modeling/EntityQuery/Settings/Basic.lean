/-
  EntityQuery.Settings.Basic — how statements are rendered.
-/

namespace EntityQuery

/-- How the places of arguments are marked in a statement. -/
inductive PlaceholderStyle where
  /-- Question marks, as written in the templates. -/
  | question
  /-- A dollar sign and a number, counted through the whole statement. -/
  | dollar
  deriving DecidableEq, Repr

structure Settings where
  placeholder : PlaceholderStyle := .question
  /-- Table and column names are put between double quotes. -/
  quoteIdentifiers : Bool := false
  deriving DecidableEq, Repr

instance : Inhabited Settings := ⟨{}⟩

end EntityQuery
