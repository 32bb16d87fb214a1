/-
  EntityQuery.Proofs.Query.Turns — queries that take turns at one script of answers.

  A desk holds any number of queries, for entity types of their own and handed out by sessions of
  their own, and the one script they all run at. Each turn does something with one of the queries:
  a call, a look at its statement, or a run into some destination. A query that is handed out only
  later is one that no turn has touched so far.

  `firstRuns` are the turns in which a query is run that has not been run before. `Stands` is what
  every turn keeps (`Stands.step`, `stands`):
  - every query still selects from its entity, and is open until it has been run,
  - the script has received the statement of each first run, in their order,
  - it has used up one answer for each of them.

  `each_query_runs_once`: so the next first run takes the next answer, or is told that there
  is none left; a query that has been run is refused everything, and nothing changes.
-/
import Mathlib.Data.List.Induction
import Mathlib.Data.List.Nodup
import Mathlib.Logic.Function.Basic
import EntityQuery.Proofs.Query.Binding

namespace EntityQuery.Query

open Schema

/-! ## One query -/

/-- What the holder of a query does with it. -/
inductive Action (E : Type) where
  | call (c : Call)
  | compile
  | find (shape : Shape) (destination : shape.Of E)

/-- What comes of it; a run leaves the destination behind, too. -/
inductive Outcome (E : Type) where
  | call (result : Except QueryError Unit)
  | compile (result : Except QueryError Statement)
  | find (shape : Shape) (result : Except QueryError Nat) (destination : shape.Of E)

section One

variable {E : Type} [Entity E]

namespace Action

def runs : Action E → Bool
  | .find _ _ => true
  | _ => false

/-- The action refused on a query that has been run. -/
def stale : Action E → Outcome E
  | .call _ => .call (.error (.staleBuilder (Entity.declaration E).name))
  | .compile => .compile (.error (.staleBuilder (Entity.declaration E).name))
  | .find shape destination => .find shape (.error (.staleBuilder (Entity.declaration E).name)) destination

end Action

variable [Inhabited E]

def Builder.take (b : Builder E) (script : Script) : Action E → Outcome E × Builder E × Script
  | .call c =>
    let (result, b) := b.call c
    (.call result, b, script)
  | .compile => (.compile b.compile, b, script)
  | .find shape destination =>
    let (result, b, destination, script) := b.find Script.run shape destination script
    (.find shape result destination, b, script)

/-- What becomes of the answer to a statement. -/
def Binder.receive (binder : Binder) (statement : Statement) (shape : Shape) (destination : shape.Of E) :
    Except String (List Row) → Except QueryError Nat × shape.Of E
  | .ok rows => binder.bindRows rows shape destination
  | .error cause => (.error (.execution (Entity.declaration E).name statement.sql cause), destination)

/-- The answer of a script to a statement that `k` others come before. -/
def Script.answerAt (script : Script) (k : Nat) (statement : Statement) : Except String (List Row) :=
  script.answers[k]?.getD (.error ("no result queued for: " ++ statement.sql))

theorem Script.run_eq (script : Script) (statement : Statement) :
    Script.run statement script =
      (script.answerAt 0 statement, ⟨script.answers.drop 1, script.statements ++ [statement]⟩) := by
  obtain ⟨answers, statements⟩ := script
  cases answers <;> rfl

namespace Builder

variable {b : Builder E} {d : Descriptor}

theorem take_consumed (h : b.phase = .consumed) (script : Script) (a : Action E) :
    b.take script a = (a.stale, b, script) := by
  cases a <;> simp only [take, call, compile, find, ensureOpen, h, Action.stale]

/-- An open query that is run sends its statement, whatever comes of the answer. -/
theorem take_find (hd : d.Describes (Entity.declaration E)) (h : b.phase = .opened) (hs : b.state.Fits d) :
    ∃ statement binder, b.compile = .ok statement ∧ Binder.ofColumns d statement.columns = .ok binder ∧
      ∀ (script : Script) (shape : Shape) (destination : shape.Of E),
        let received := binder.receive statement shape destination (script.answerAt 0 statement)
        b.take script (.find shape destination) = (.find shape received.1 received.2, { b with phase := .consumed },
          ⟨script.answers.drop 1, script.statements ++ [statement]⟩) := by
  obtain ⟨fields, -, hbinder⟩ := hs.binder hd
  obtain ⟨statement, hc, hcolumns⟩ : ∃ statement, b.state.compile b.settings = .ok statement ∧
      statement.columns = b.state.resultColumns d := ⟨_, hs.compile hd b.settings, rfl⟩
  rw [← hcolumns] at hbinder
  refine ⟨statement, ⟨d, fields⟩, ?_, hbinder, fun script shape destination => ?_⟩
  · simp only [compile, ensureOpen, h, hc]
  · simp only [take, find, ensureOpen, h, hc, hs.entity, fetch, Script.run_eq, hbinder]
    cases script.answerAt 0 statement with
    | ok rows => rfl
    | error cause => simp only [Binder.receive, hd.name]

/-- Every action keeps what an open query selects from; a run takes an answer, nothing else does. -/
theorem take_opened (hd : d.Describes (Entity.declaration E)) (h : b.phase = .opened) (hs : b.state.Fits d)
    (script : Script) (a : Action E) :
    ∃ statement, b.compile = .ok statement ∧ (b.take script a).2.1.state.Fits d ∧
      (b.take script a).2.1.phase = (if a.runs then .consumed else .opened) ∧
      (b.take script a).2.2 =
        if a.runs then ⟨script.answers.drop 1, script.statements ++ [statement]⟩ else script := by
  obtain ⟨statement, binder, hc, -, hfind⟩ := take_find hd h hs
  refine ⟨statement, hc, ?_⟩
  cases a with
  | call c =>
    have hcall : (b.take script (.call c)).2.1 = { b with state := b.state.run [c] } := call_opened h c
    rw [hcall]
    exact ⟨hs.run hd [c], h, rfl⟩
  | compile => exact ⟨hs, h, rfl⟩
  | find shape destination =>
    rw [hfind]
    exact ⟨hs, rfl, rfl⟩

end Builder

end One

/-! ## First runs -/

section FirstRuns

variable {ι : Type} [DecidableEq ι] {E : ι → Type}

/-- One action, on one of some queries. -/
abbrev Turn {ι : Type} (E : ι → Type) := (i : ι) × Action (E i)

/-- The query has been run in one of the turns. -/
def ran (turns : List (Turn E)) (i : ι) : Bool := turns.any fun t => t.1 = i && t.2.runs

/-- The turns that run a query for the first time: what came before, and which query. -/
def firstRunsFrom (before : List (Turn E)) : List (Turn E) → List (List (Turn E) × ι)
  | [] => []
  | t :: turns =>
    if t.2.runs && !ran before t.1 then (before, t.1) :: firstRunsFrom (before ++ [t]) turns
    else firstRunsFrom (before ++ [t]) turns

def firstRuns (turns : List (Turn E)) : List (List (Turn E) × ι) := firstRunsFrom [] turns

theorem ran_snoc (turns : List (Turn E)) (t : Turn E) (i : ι) :
    ran (turns ++ [t]) i = (ran turns i || t.1 = i && t.2.runs) := by
  simp [ran]

theorem firstRunsFrom_append (before turns turns' : List (Turn E)) :
    firstRunsFrom before (turns ++ turns') =
      firstRunsFrom before turns ++ firstRunsFrom (before ++ turns) turns' := by
  induction turns generalizing before with
  | nil => simp [firstRunsFrom]
  | cons t turns ih =>
    simp only [List.cons_append, firstRunsFrom, ih, List.append_assoc, List.nil_append]
    split <;> rfl

theorem firstRuns_snoc (turns : List (Turn E)) (t : Turn E) :
    firstRuns (turns ++ [t]) =
      firstRuns turns ++ if t.2.runs && !ran turns t.1 then [(turns, t.1)] else [] := by
  rw [firstRuns, firstRunsFrom_append]
  rfl

/-- Another turn on a query that has been run is none of its first. -/
theorem snoc_of_ran {turns : List (Turn E)} {t : Turn E} (h : ran turns t.1 = true) :
    ran (turns ++ [t]) = ran turns ∧ firstRuns (turns ++ [t]) = firstRuns turns := by
  constructor
  · funext i
    rw [ran_snoc]
    by_cases hi : t.1 = i
    · subst hi; simp [h]
    · simp [hi]
  · rw [firstRuns_snoc]
    simp [h]

theorem mem_firstRuns_iff (turns : List (Turn E)) (i : ι) : i ∈ (firstRuns turns).map (·.2) ↔ ran turns i = true := by
  induction turns using List.reverseRecOn with
  | nil => simp [firstRuns, firstRunsFrom, ran]
  | append_singleton turns t ih =>
    rw [firstRuns_snoc, ran_snoc, List.map_append, List.mem_append, ih]
    by_cases hi : t.1 = i
    · subst hi
      cases t.2.runs <;> cases ran turns t.1 <;> simp
    · have hi' : ¬ i = t.1 := fun h => hi h.symm
      split <;> simp [hi, hi']

theorem nodup_firstRuns (turns : List (Turn E)) : ((firstRuns turns).map (·.2)).Nodup := by
  induction turns using List.reverseRecOn with
  | nil => exact List.nodup_nil
  | append_singleton turns t ih =>
    rw [firstRuns_snoc, List.map_append]
    by_cases h : (t.2.runs && !ran turns t.1) = true
    · have hnew : t.1 ∉ (firstRuns turns).map (·.2) := by
        rw [mem_firstRuns_iff]
        simp only [Bool.and_eq_true, Bool.not_eq_true'] at h
        simp [h.2]
      rw [if_pos h]
      simpa using List.Nodup.concat hnew ih
    · rw [if_neg h]
      simpa using ih

end FirstRuns

/-! ## Queries at one script -/

structure Desk {ι : Type} (E : ι → Type) where
  query : (i : ι) → Builder (E i)
  script : Script

variable {ι : Type} [DecidableEq ι] {E : ι → Type} [∀ i, Entity (E i)] [∀ i, Inhabited (E i)]

namespace Desk

def take (w : Desk E) (t : Turn E) : Outcome (E t.1) × Desk E :=
  let (outcome, b, script) := (w.query t.1).take w.script t.2
  (outcome, ⟨Function.update w.query t.1 b, script⟩)

def run (w : Desk E) (turns : List (Turn E)) : Desk E := turns.foldl (fun w t => (w.take t).2) w

/-- Every query has just been handed out by a session, and the script has received nothing. -/
structure Fresh (w : Desk E) : Prop where
  query : ∀ i, ∃ (declared : TypeKey → Declaration) (session : Session), session.registry.Reach declared ∧
    declared (Entity.key (E i)) = Entity.declaration (E i) ∧ (session.query (E i)).1 = .ok (w.query i)
  statements : w.script.statements = []

/-! ## What every turn keeps -/

/-- The desk after some turns. -/
structure Stands (w : Desk E) (turns : List (Turn E)) : Prop where
  query : ∀ i, ∃ d, d.Describes (Entity.declaration (E i)) ∧ (Entity.declaration (E i)).describe = .ok d ∧
    ((w.run turns).query i).state.Fits d
  phase : ∀ i, ((w.run turns).query i).phase = if ran turns i then .consumed else .opened
  statements : (w.run turns).script.statements.map Except.ok =
    (firstRuns turns).map fun r => ((w.run r.1).query r.2).compile
  answers : (w.run turns).script.answers = w.script.answers.drop (firstRuns turns).length

variable {w : Desk E} {turns : List (Turn E)}

theorem run_snoc (w : Desk E) (turns : List (Turn E)) (t : Turn E) :
    w.run (turns ++ [t]) = ((w.run turns).take t).2 := by
  simp [run]

theorem query_snoc (w : Desk E) (turns : List (Turn E)) (t : Turn E) :
    (w.run (turns ++ [t])).query = Function.update (w.run turns).query t.1
      (((w.run turns).query t.1).take (w.run turns).script t.2).2.1 := by
  rw [run_snoc]
  rfl

theorem script_snoc (w : Desk E) (turns : List (Turn E)) (t : Turn E) :
    (w.run (turns ++ [t])).script = (((w.run turns).query t.1).take (w.run turns).script t.2).2.2 := by
  rw [run_snoc]
  rfl

theorem Fresh.stands (hw : w.Fresh) : w.Stands [] where
  query i := by
    obtain ⟨declared, session, hr, hE, hb⟩ := hw.query i
    obtain ⟨d, hd, hdecl, hb⟩ := Session.query_eq_ok hr hE hb
    refine ⟨d, hd, hdecl, ?_⟩
    show (w.query i).state.Fits d
    rw [hb]
    exact State.fits_ofEntity d
  phase i := by
    obtain ⟨declared, session, hr, hE, hb⟩ := hw.query i
    obtain ⟨d, -, -, hb⟩ := Session.query_eq_ok hr hE hb
    show (w.query i).phase = .opened
    rw [hb]
  statements := by
    show w.script.statements.map Except.ok = []
    rw [hw.statements]
    rfl
  answers := rfl

namespace Stands

/-- A query that has been run is refused everything. -/
theorem take_ran (h : w.Stands turns) {i : ι} (hi : ran turns i = true) (a : Action (E i)) :
    (w.run turns).take ⟨i, a⟩ = (a.stale, w.run turns) := by
  have hphase : ((w.run turns).query i).phase = .consumed := by rw [h.phase i, hi]; rfl
  simp only [take, Builder.take_consumed hphase, Function.update_eq_self]

/-- The first run of a query takes the next answer. -/
theorem take_find (h : w.Stands turns) {i : ι} (hi : ran turns i = false) :
    ∃ d statement binder, (Entity.declaration (E i)).describe = .ok d ∧
      ((w.run turns).query i).compile = .ok statement ∧ Binder.ofColumns d statement.columns = .ok binder ∧
      ∀ (shape : Shape) (destination : shape.Of (E i)),
        let received := binder.receive statement shape destination
          (w.script.answerAt (firstRuns turns).length statement)
        (w.run turns).take ⟨i, .find shape destination⟩ = (.find shape received.1 received.2,
          ⟨Function.update (w.run turns).query i { (w.run turns).query i with phase := .consumed },
            ⟨w.script.answers.drop ((firstRuns turns).length + 1), (w.run turns).script.statements ++ [statement]⟩⟩) := by
  have hphase : ((w.run turns).query i).phase = .opened := by rw [h.phase i, hi]; rfl
  obtain ⟨d, hd, hdecl, hs⟩ := h.query i
  obtain ⟨statement, binder, hc, hb, hfind⟩ := Builder.take_find hd hphase hs
  refine ⟨d, statement, binder, hdecl, hc, hb, fun shape destination => ?_⟩
  have hanswer : (w.run turns).script.answerAt 0 statement =
      w.script.answerAt (firstRuns turns).length statement := by
    simp [Script.answerAt, h.answers]
  simp only [take, hfind, hanswer, h.answers, List.drop_drop]

theorem step (h : w.Stands turns) (t : Turn E) : w.Stands (turns ++ [t]) := by
  obtain ⟨i, a⟩ := t
  cases hi : ran turns i with
  | true =>
    obtain ⟨hran, hfirst⟩ := snoc_of_ran (t := ⟨i, a⟩) hi
    have hw : w.run (turns ++ [⟨i, a⟩]) = w.run turns := by rw [run_snoc, h.take_ran hi]
    constructor
    · rw [hw]; exact h.query
    · rw [hw, hran]; exact h.phase
    · rw [hw, hfirst]; exact h.statements
    · rw [hw, hfirst]; exact h.answers
  | false =>
    obtain ⟨d, hd, hdecl, hs⟩ := h.query i
    have hphase : ((w.run turns).query i).phase = .opened := by rw [h.phase i, hi]; rfl
    obtain ⟨statement, hc, hs', hphase', hscript⟩ := Builder.take_opened hd hphase hs (w.run turns).script a
    have hscript' := (script_snoc w turns ⟨i, a⟩).trans hscript
    constructor
    · intro j
      rw [query_snoc]
      by_cases hj : j = i
      · subst hj
        rw [Function.update_self]
        exact ⟨d, hd, hdecl, hs'⟩
      · rw [Function.update_of_ne hj]
        exact h.query j
    · intro j
      rw [query_snoc, ran_snoc]
      by_cases hj : j = i
      · subst hj
        rw [Function.update_self, hphase', hi]
        simp
      · rw [Function.update_of_ne hj, h.phase j]
        simp [Ne.symm hj]
    · rw [hscript', firstRuns_snoc, List.map_append, ← h.statements]
      cases a.runs <;> simp [hi, hc]
    · rw [hscript', firstRuns_snoc]
      cases a.runs <;> simp [hi, h.answers]

end Stands

theorem stands (hw : w.Fresh) (turns : List (Turn E)) : w.Stands turns := by
  induction turns using List.reverseRecOn with
  | nil => exact hw.stands
  | append_singleton turns t ih => exact ih.step t

end Desk

/-- Whatever turns are taken with any queries at one script: the script has received one
    statement for each query that has been run, which is the one the query compiled to before its
    first run, in the order of these; one answer has been used up for each. Next time, a query
    that has been run is refused and nothing changes. One that has not, when it is run, takes the
    next answer, its rows to be bound into the destination. -/
theorem each_query_runs_once {w : Desk E} (hw : w.Fresh) (turns : List (Turn E)) :
    let k := (firstRuns turns).length
    (w.run turns).script.statements.map Except.ok =
        (firstRuns turns).map (fun r => ((w.run r.1).query r.2).compile) ∧
      ((firstRuns turns).map (·.2)).Nodup ∧
      (w.run turns).script.answers = w.script.answers.drop k ∧
      ∀ i, (ran turns i = true → ∀ a, (w.run turns).take ⟨i, a⟩ = (a.stale, w.run turns)) ∧
        (ran turns i = false → ∃ d statement binder, (Entity.declaration (E i)).describe = .ok d ∧
          ((w.run turns).query i).compile = .ok statement ∧ Binder.ofColumns d statement.columns = .ok binder ∧
          ∀ (shape : Shape) (destination : shape.Of (E i)),
            let received := binder.receive statement shape destination (w.script.answerAt k statement)
            (w.run turns).take ⟨i, .find shape destination⟩ = (.find shape received.1 received.2,
              ⟨Function.update (w.run turns).query i { (w.run turns).query i with phase := .consumed },
                ⟨w.script.answers.drop (k + 1), (w.run turns).script.statements ++ [statement]⟩⟩)) := by
  have h := Desk.stands hw turns
  exact ⟨h.statements, nodup_firstRuns turns, h.answers, fun i => ⟨h.take_ran, h.take_find⟩⟩

open Samples

/-- A query for counters and two for users. -/
def deskKinds (i : Fin 3) : EntityType := if i = 0 then counter else .derived userEntity

/-- A row that no counter can store, a failure, and nothing more. -/
def desk : Desk fun i => (deskKinds i).Carrier where
  query i := ⟨State.ofEntity (if i = 0 then counterDescriptor else userDescriptor), ⟨.dollar, true⟩, .opened⟩
  script := { answers := [.ok [⟨[.bigUnsigned (some 3), .string (some "x"), .double none, .bool none]⟩],
    .error "connection reset"] }

/-- Two queries are run, and go on being used. -/
def deskTurns : List (Turn fun i => (deskKinds i).Carrier) :=
  [⟨1, .call (.filter "id = ?" [.int (some 7)])⟩, ⟨0, .find .many []⟩, ⟨1, .compile⟩, ⟨1, .find .many []⟩,
    ⟨0, .find .many []⟩, ⟨1, .call (.limit 1)⟩]

theorem each_query_runs_once_desk :
    desk.Fresh ∧ (firstRuns deskTurns).map (·.2) = [0, 1] ∧
      (desk.run deskTurns).script.statements.map Except.ok =
        [(desk.query 0).compile, ((desk.query 1).call (.filter "id = ?" [.int (some 7)])).2.compile] ∧
      (desk.run deskTurns).script.answers = [] ∧
      (desk.run deskTurns).take ⟨1, .compile⟩ = (.compile (.error (.staleBuilder "User")), desk.run deskTurns) ∧
      ∃ statement, ((desk.run deskTurns).query 2).compile = .ok statement ∧
        ((desk.run deskTurns).take ⟨2, .find .many []⟩).1 =
          .find .many (.error (.execution "User" statement.sql ("no result queued for: " ++ statement.sql))) [] := by
  have hfresh : desk.Fresh := by
    refine ⟨fun i => ⟨fun _ => Entity.declaration (deskKinds i).Carrier, { settings := ⟨.dollar, true⟩ }, .empty,
      rfl, ?_⟩, rfl⟩
    match i with
    | 0 => rfl
    | 1 => rfl
    | 2 => rfl
  obtain ⟨hstatements, -, hanswers, hquery⟩ := each_query_runs_once hfresh deskTurns
  obtain ⟨d, statement, binder, -, hc, -, hfind⟩ := (hquery 2).2 (by decide)
  refine ⟨hfresh, by decide, hstatements, hanswers, (hquery 1).1 (by decide) .compile, statement, hc, ?_⟩
  rw [hfind .many []]
  rfl

end EntityQuery.Query
