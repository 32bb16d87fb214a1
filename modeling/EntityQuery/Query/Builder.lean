/-
  EntityQuery.Query.Builder — a query for one entity type, used once.

  A builder is open until it is run by `find`, whether that succeeds or not; after that
  every call on it is refused as stale. Running compiles the state, hands the statement to
  the executor and binds the rows that come back. A session holds the registry that
  describes entity types and the settings its statements are rendered with.
-/
import EntityQuery.Query.Binder

namespace EntityQuery.Query

open Schema

inductive Phase where
  | opened
  | consumed
  deriving DecidableEq, Repr

/-- A query for entities of type `E`. -/
structure Builder (E : Type) where
  state : State
  settings : Settings
  phase : Phase
  deriving DecidableEq

namespace Builder

variable {E : Type} [Entity E]

def ensureOpen (b : Builder E) : Except QueryError Unit :=
  match b.phase with
  | .opened => .ok ()
  | .consumed => .error (.staleBuilder (Entity.declaration E).name)

/-- One call; a refused call changes nothing. -/
def call (b : Builder E) (c : Call) : Except QueryError Unit × Builder E :=
  match b.ensureOpen with
  | .error e => (.error e, b)
  | .ok () => match b.state.apply c with
    | .error e => (.error e, b)
    | .ok state => (.ok (), { b with state })

/-- The statement that running the query now would execute. -/
def compile (b : Builder E) : Except QueryError Statement :=
  match b.ensureOpen with
  | .error e => .error e
  | .ok () => b.state.compile b.settings

/-- Executes a statement and binds its rows. -/
def fetch [Inhabited E] {σ : Type} (d : Descriptor) (statement : Statement) (executor : Executor σ) (shape : Shape)
    (destination : shape.Of E) (s : σ) : Except QueryError Nat × shape.Of E × σ :=
  match executor statement s with
  | (.error cause, s) => (.error (.execution d.name statement.sql cause), destination, s)
  | (.ok rows, s) => match Binder.ofColumns d statement.columns with
    | .error e => (.error e, destination, s)
    | .ok binder =>
      let (result, destination) := binder.bindRows rows shape destination
      (result, destination, s)

/-- Runs the query: how many rows were bound, the builder, the destination and the state of
    the executor afterwards. -/
def find [Inhabited E] {σ : Type} (b : Builder E) (executor : Executor σ) (shape : Shape) (destination : shape.Of E)
    (s : σ) : Except QueryError Nat × Builder E × shape.Of E × σ :=
  match b.ensureOpen with
  | .error e => (.error e, b, destination, s)
  | .ok () =>
    let spent := { b with phase := .consumed }
    match b.state.compile b.settings with
    | .error e => (.error e, spent, destination, s)
    | .ok statement => match b.state.entity with
      | none => (.error .emptyQuery, spent, destination, s)
      | some d =>
        let (result, destination, s) := fetch d statement executor shape destination s
        (result, spent, destination, s)

/-- The beginning and the end of how a builder is shown in diagnostics. -/
def outline (b : Builder E) : String × String :=
  ("Query \x7b entity: " ++ Text.quoted (Entity.declaration E).name,
    (match b.phase with
      | .opened => "Open"
      | .consumed => "Consumed") ++ ", .. \x7d")

end Builder

structure Session where
  registry : Registry := {}
  settings : Settings := {}

/-- Starts a query, describing the entity type if that has not happened yet. -/
def Session.query (s : Session) (E : Type) [Entity E] : Except QueryError (Builder E) × Session :=
  match s.registry.describe (Entity.key E) (Entity.declaration E) with
  | (.ok entry, registry) =>
    (.ok ⟨State.ofEntity entry.descriptor, s.settings, .opened⟩, { s with registry })
  | (.error e, registry) => (.error (.schema e), { s with registry })

end EntityQuery.Query
