/-
  EntityQuery.Proofs.Query.Forgetting — what is left of a query when its values are forgotten.

  A condition, a call and a state keep their shape when every value in them is forgotten but for
  its place (`blank`). Nothing that decides about a call looks further than that, and neither does
  the text of the statement:
  - `apply_blank`: a call on a state is accepted or refused as its blank is on the blank of the
    state, and leaves the blank of what it leaves.
  - `outcomes_blank` / `run_blank`: so does a whole run.
  - `sqlText_blank`: the text is that of the blank state.

  Two calls that differ only in values (`Alike`) have one blank, so two runs of such calls have one
  blank run. `values_do_not_show`: they are answered alike, call by call, and compile to one
  text with the same columns, each with its own values.
-/
import Mathlib.Data.List.Forall2
import EntityQuery.Proofs.Query.Clauses

namespace EntityQuery.Query

open Schema

/-! ## Conditions -/

namespace Predicate

/-- The condition with its values forgotten. -/
def blank : Predicate → Predicate
  | .fragment template args => .fragment template (args.map fun _ => .bool none)
  | .inList column values => .inList column (values.map fun _ => .bool none)

@[simp] theorem template_blank (p : Predicate) : p.blank.template = p.template := by
  cases p <;> simp [blank, template]

@[simp] theorem column?_blank (p : Predicate) : p.blank.column? = p.column? := by
  cases p <;> rfl

@[simp] theorem length_args_blank (p : Predicate) : p.blank.args.length = p.args.length := by
  cases p <;> simp [blank, args]

variable {settings : Settings} {many : Bool} {bound : Nat}

theorem renderGrouped_blank (p : Predicate) :
    p.blank.renderGrouped settings many bound = p.renderGrouped settings many bound := by
  simp [renderGrouped, hasDisjunction, render, head, body, bodyRange]

end Predicate

theorem conditions_blank {settings : Settings} {many : Bool} (ps : List Predicate) (bound : Nat) :
    conditions settings many bound (ps.map (·.blank)) = conditions settings many bound ps := by
  induction ps generalizing bound with
  | nil => rfl
  | cons p ps ih => simp only [List.map_cons, conditions, p.renderGrouped_blank, p.length_args_blank, ih]

/-! ## Calls and states -/

/-- The call with its values forgotten. -/
def Call.blank : Call → Call
  | .filter template args => .filter template (args.map fun _ => .bool none)
  | .filterIn column values => .filterIn column (values.map fun _ => .bool none)
  | c => c

namespace State

/-- The state with its values forgotten. -/
def blank (s : State) : State := { s with predicates := s.predicates.map (·.blank) }

variable {s : State}

theorem whereText_blank (settings : Settings) (ps : List Predicate) :
    whereText settings (ps.map (·.blank)) = whereText settings ps := by
  rw [whereText, conditions_blank, List.length_map, whereText]

theorem whereClause_blank (settings : Settings) : s.blank.whereClause settings = s.whereClause settings := by
  rw [whereClause, whereClause, blank, whereText_blank, List.isEmpty_map]

theorem sqlText_blank (settings : Settings) (table : String) (columns : List String) :
    s.blank.sqlText settings table columns = s.sqlText settings table columns := by
  rw [sqlText, sqlText, whereClause_blank]
  rfl

theorem resultColumns_blank (d : Descriptor) (s : State) : s.blank.resultColumns d = s.resultColumns d := rfl

theorem checkColumn_blank (column : String) : s.blank.checkColumn column = s.checkColumn column := rfl

theorem checkColumns_blank (columns : List String) : s.blank.checkColumns columns = s.checkColumns columns := by
  have hentity : s.blank.entity = s.entity := rfl
  exact checkColumns_congr hentity columns

/-- A call is accepted or refused as its blank is. -/
theorem apply_blank (s : State) (c : Call) : s.blank.apply c.blank = (s.apply c).map blank := by
  cases c with
  | select columns =>
    simp only [Call.blank, apply, checkColumns_blank]
    cases s.checkColumns columns <;> rfl
  | filter template args =>
    simp only [Call.blank, apply, Predicate.ofFragment, List.length_map]
    by_cases hn : (markers template.toList).length = args.length
    · simp [hn, Except.map, blank, Predicate.blank]
    · simp [hn, Except.map]
  | filterIn column values =>
    simp only [Call.blank, apply, checkColumn_blank]
    cases s.checkColumn column with
    | ok => simp [Except.map, blank, Predicate.blank]
    | error e => rfl
  | orderBy column direction =>
    simp only [Call.blank, apply, checkColumn_blank]
    cases s.checkColumn column <;> rfl
  | limit n => rfl
  | offset n => rfl

/-! ## Runs -/

/-- Whether each call of a run is accepted, and why not. -/
def outcomes (s : State) : List Call → List (Except QueryError Unit)
  | [] => []
  | c :: calls => (s.apply c).map (fun _ => ()) :: (s.after c).outcomes calls

theorem after_blank (s : State) (c : Call) : s.blank.after c.blank = (s.after c).blank := by
  rw [after, after, apply_blank]
  cases s.apply c <;> rfl

theorem run_blank (s : State) (calls : List Call) : s.blank.run (calls.map (·.blank)) = (s.run calls).blank := by
  induction calls generalizing s with
  | nil => rfl
  | cons c calls ih => rw [List.map_cons, run_cons, run_cons, after_blank, ih]

theorem outcomes_blank (s : State) (calls : List Call) : s.blank.outcomes (calls.map (·.blank)) = s.outcomes calls := by
  induction calls generalizing s with
  | nil => rfl
  | cons c calls ih =>
    rw [List.map_cons, outcomes, outcomes, after_blank, ih, apply_blank]
    cases s.apply c <;> rfl

end State

/-! ## Calls that differ in values -/

/-- The calls are the same but for the values they hand over, which are as many. -/
inductive Call.Alike : Call → Call → Prop
  | same (c : Call) : Alike c c
  | filter (template : String) {args args' : List Value} : args.length = args'.length →
      Alike (.filter template args) (.filter template args')
  | filterIn (column : String) {values values' : List Value} : values.length = values'.length →
      Alike (.filterIn column values) (.filterIn column values')

theorem Call.Alike.blank_eq {c c' : Call} (h : c.Alike c') : c.blank = c'.blank := by
  cases h with
  | same => rfl
  | filter template hn => simp [Call.blank, List.map_const', hn]
  | filterIn column hn => simp [Call.blank, List.map_const', hn]

theorem map_blank_of_alike {calls calls' : List Call} (h : List.Forall₂ Call.Alike calls calls') :
    calls.map (·.blank) = calls'.map (·.blank) := by
  induction h with
  | nil => rfl
  | cons hc _ ih => rw [List.map_cons, List.map_cons, hc.blank_eq, ih]

/-! ## Queries of a session -/

variable {E : Type} [Entity E]

/-- What each call of a run is answered. -/
def Builder.outcomes (b : Builder E) : List Call → List (Except QueryError Unit)
  | [] => []
  | c :: calls => (b.call c).1 :: (b.call c).2.outcomes calls

theorem Builder.outcomes_opened {b : Builder E} (h : b.phase = .opened) (calls : List Call) :
    b.outcomes calls = b.state.outcomes calls := by
  induction calls generalizing b with
  | nil => rfl
  | cons c calls ih =>
    rw [outcomes, State.outcomes, Builder.call_opened h c, ih (b := { b with state := b.state.after c }) h]
    congr 1
    simp only [call, ensureOpen, h]
    cases b.state.apply c <;> rfl

/-- Sessions with the same settings hand out the same query for an entity. -/
theorem Session.query_eq {declared declared' : TypeKey → Declaration} {session session' : Session} {b b' : Builder E}
    (hr : session.registry.Reach declared) (hr' : session'.registry.Reach declared')
    (hE : declared (Entity.key E) = Entity.declaration E) (hE' : declared' (Entity.key E) = Entity.declaration E)
    (hset : session'.settings = session.settings) (hb : (session.query E).1 = .ok b)
    (hb' : (session'.query E).1 = .ok b') : b' = b := by
  obtain ⟨d, -, hd, rfl⟩ := Session.query_eq_ok hr hE hb
  obtain ⟨d', -, hd', rfl⟩ := Session.query_eq_ok hr' hE' hb'
  rw [hd] at hd'
  cases hd'
  rw [hset]

/-- The same calls but for their values, on two queries for the same entity with the same
    settings, are answered alike. The statements they compile to have the same text and the
    same columns; the values of each are those of its accepted calls, in their order. -/
theorem values_do_not_show {declared declared' : TypeKey → Declaration} {session session' : Session}
    {b b' : Builder E} (hr : session.registry.Reach declared) (hr' : session'.registry.Reach declared')
    (hE : declared (Entity.key E) = Entity.declaration E) (hE' : declared' (Entity.key E) = Entity.declaration E)
    (hset : session'.settings = session.settings) (hb : (session.query E).1 = .ok b)
    (hb' : (session'.query E).1 = .ok b') {calls calls' : List Call} (h : List.Forall₂ Call.Alike calls calls') :
    b.outcomes calls = b'.outcomes calls' ∧
      ∃ statement statement', (b.run calls).compile = .ok statement ∧ (b'.run calls').compile = .ok statement' ∧
        statement.sql = statement'.sql ∧ statement.columns = statement'.columns ∧
        statement.values = (b.accepted calls).flatMap (·.args) ∧
        statement'.values = (b'.accepted calls').flatMap (·.args) := by
  cases Session.query_eq hr hr' hE hE' hset hb hb'
  obtain ⟨d, hd, -, rfl⟩ := Session.query_eq_ok hr hE hb
  have hblank := map_blank_of_alike h
  have hruns : ((State.ofEntity d).run calls).blank = ((State.ofEntity d).run calls').blank := by
    rw [← State.run_blank, ← State.run_blank, hblank]
  have hcolumns : ((State.ofEntity d).run calls).resultColumns d = ((State.ofEntity d).run calls').resultColumns d := by
    rw [← State.resultColumns_blank, hruns, State.resultColumns_blank]
  have hcompile := fun calls => ((State.fits_ofEntity d).run hd calls).compile hd session.settings
  have hvalues := State.run_args (State.ofEntity d)
  simp only [Builder.outcomes_opened, Builder.run_opened, Builder.accepted_opened]
  refine ⟨?_, _, _, hcompile calls, hcompile calls', ?_, hcolumns, hvalues calls, hvalues calls'⟩
  · rw [← State.outcomes_blank, ← State.outcomes_blank _ calls', hblank]
  · show String.ofList _ = String.ofList _
    rw [← State.sqlText_blank, hruns, hcolumns, State.sqlText_blank]

/-- What is asked for, and what somebody else might have entered in its place. -/
def searchCalls (name : Value) (ids : List Value) : List Call :=
  [.filter "name = ? OR email = '?'" [name], .filterIn "id" ids, .filterIn "gone" ids, .filter "id = ?" ids]

open Samples in
theorem values_do_not_show_user :
    let b : Builder userEntity.Record := ⟨State.ofEntity userDescriptor, ⟨.dollar, true⟩, .opened⟩
    let calls := searchCalls (.string (some "ann")) [.int (some 1), .int (some 2)]
    let calls' := searchCalls (.string (some "' OR 1 = 1 --")) [.bigInt none, .string (some "?")]
    (({ settings := ⟨.dollar, true⟩ } : Session).query userEntity.Record).1 = .ok b ∧
      List.Forall₂ Call.Alike calls calls' ∧ b.outcomes calls = b.outcomes calls' ∧
      b.outcomes calls = [.ok (), .ok (), .error (.unknownColumn "User" "gone"),
        .error (.argumentCountMismatch "id = ?" 1 2)] ∧
      ∃ statement statement', (b.run calls).compile = .ok statement ∧ (b.run calls').compile = .ok statement' ∧
        statement.sql = statement'.sql ∧
        statement'.values = [.string (some "' OR 1 = 1 --"), .bigInt none, .string (some "?")] := by
  intro b calls calls'
  have hb : (({ settings := ⟨.dollar, true⟩ } : Session).query userEntity.Record).1 = .ok b := rfl
  have hr : Registry.Reach (fun _ => userEntity.expansion.declaration) {} := .empty
  have halike : List.Forall₂ Call.Alike calls calls' :=
    .cons (.filter _ rfl) (.cons (.filterIn _ rfl) (.cons (.filterIn _ rfl) (.cons (.filter _ rfl) .nil)))
  obtain ⟨hout, statement, statement', hc, hc', hsql, -, -, hvalues⟩ :=
    values_do_not_show (E := userEntity.Record) hr hr rfl rfl rfl hb hb halike
  exact ⟨hb, halike, hout, by decide, statement, statement', hc, hc', hsql, hvalues.trans (by decide)⟩

end EntityQuery.Query
