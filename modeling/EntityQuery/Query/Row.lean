/-
  EntityQuery.Query.Row — what a store returns for a statement, and what runs statements.

  A row has one cell for every column of the statement, in the same order. An executor
  turns a statement into rows or a message, and may change a state of its own. A `Script`
  is an executor's state that holds prepared answers: each statement takes the next one
  and is kept for later.
-/
import EntityQuery.Query.Statement

namespace EntityQuery.Query

structure Row where
  cells : List Value
  deriving DecidableEq

namespace Row

def size (r : Row) : Nat := r.cells.length

def isEmpty (r : Row) : Bool := r.cells.isEmpty

def cell? (r : Row) (index : Nat) : Option Value := r.cells[index]?

end Row

instance : Inhabited Row := ⟨⟨[]⟩⟩

/-- Runs statements, with a state `σ` of its own. -/
abbrev Executor (σ : Type) := Statement → σ → Except String (List Row) × σ

/-- An executor that returns the arguments of the statement as its only row. -/
def echo {σ : Type} : Executor σ := fun statement s => (.ok [⟨statement.values⟩], s)

structure Script where
  /-- The answers still to be given: rows, or the message of a failure. -/
  answers : List (Except String (List Row))
  /-- The statements received, in order. -/
  statements : List Statement := []

/-- Every statement takes the next answer. -/
def Script.run : Executor Script := fun statement s =>
  let statements := s.statements ++ [statement]
  match s.answers with
  | [] => (.error ("no result queued for: " ++ statement.sql), { s with statements })
  | answer :: answers => (answer, ⟨answers, statements⟩)

end EntityQuery.Query
