/-
  EntityQuery.Proofs.Query.Clauses — what a run of calls amounts to, clause by clause.

  A call speaks about one clause of the statement: the columns of the result, the conditions,
  the order, the limit or the offset. `Clauses.ofCalls` sorts some calls by clause and
  forgets how those of different clauses were interleaved; of several limits or offsets only
  the last is kept. `Clauses.state` is the state with these clauses: its projection is all
  selected columns one after another, each at its first occurrence only.

  - `run_eq_clauses`: a run leaves the state that the clauses of its accepted calls describe.
    One accepted call adds to the clauses what it says (`Takes.clauses`), a refused one
    nothing.
  - `refused_of_apply`: a call is refused for a column that the entity lacks, or for free
    text with another number of markers than arguments, and the error says which.

  `accepted_calls_determine`: for the queries that sessions hand out, a refused call changes
  nothing, the state is that of the clauses of the accepted calls, and two runs whose
  accepted calls have the same clauses compile to the same statement.
-/
import EntityQuery.Proofs.Query.Run

namespace EntityQuery.Query

open Schema

/-! ## The clauses of calls -/

namespace Call

/-- The columns that the call selects. -/
def columns? : Call → Option (List String)
  | .select columns => some columns
  | _ => none

/-- The condition that the call adds. -/
def condition? : Call → Option Predicate
  | .filter template args => some (.fragment template args)
  | .filterIn column values => some (.inList column values)
  | _ => none

/-- The order term that the call adds. -/
def term? : Call → Option (String × Direction)
  | .orderBy column direction => some (column, direction)
  | _ => none

def limit? : Call → Option UInt64
  | .limit n => some n
  | _ => none

def offset? : Call → Option UInt64
  | .offset n => some n
  | _ => none

end Call

/-- What some calls say about each clause. -/
structure Clauses where
  selections : List (List String)
  conditions : List Predicate
  order : List (String × Direction)
  limit : Option UInt64
  offset : Option UInt64
  deriving DecidableEq

namespace Clauses

def ofCalls (calls : List Call) : Clauses where
  selections := calls.filterMap Call.columns?
  conditions := calls.filterMap Call.condition?
  order := calls.filterMap Call.term?
  limit := (calls.filterMap Call.limit?).getLast?
  offset := (calls.filterMap Call.offset?).getLast?

/-- The state with these clauses. -/
def state (d : Descriptor) (k : Clauses) : State where
  entity := some d
  projection := k.selections.flatten.eraseDups
  predicates := k.conditions
  order := k.order
  limit := k.limit
  offset := k.offset

end Clauses

/-! ## One call -/

theorem eraseDups_snoc (xs : List String) (x : String) :
    (xs ++ [x]).eraseDups = if x ∈ xs then xs.eraseDups else xs.eraseDups ++ [x] := by
  rw [List.eraseDups_append]
  by_cases h : x ∈ xs
  · simp [List.removeAll, h]
  · simp [List.removeAll, List.eraseDups_cons, h]

/-- Extending a list without repetitions is appending and dropping the repetitions. -/
theorem extend_eraseDups (xs columns : List String) :
    State.extend xs.eraseDups columns = (xs ++ columns).eraseDups := by
  induction columns generalizing xs with
  | nil => simp [State.extend]
  | cons column columns ih =>
    have hsplit : xs ++ column :: columns = (xs ++ [column]) ++ columns := by simp
    rw [hsplit, ← ih, State.extend]
    by_cases h : column ∈ xs
    · have hc : xs.eraseDups.contains column = true := by simpa using h
      rw [if_pos hc, eraseDups_snoc, if_pos h]
    · have hc : ¬ xs.eraseDups.contains column = true := by simpa using h
      rw [if_neg hc, eraseDups_snoc, if_neg h]

/-- An accepted call adds to the clauses what it says. -/
theorem State.Takes.clauses {d : Descriptor} {done : List Call} {s s' : State} {c : Call}
    (hs : s = (Clauses.ofCalls done).state d) (h : s.Takes c s') :
    s' = (Clauses.ofCalls (done ++ [c])).state d := by
  subst hs
  cases h with
  | select =>
    simp [Clauses.ofCalls, Clauses.state, List.filterMap_cons, Call.columns?, Call.condition?, Call.term?,
      Call.limit?, Call.offset?, extend_eraseDups]
  | filter | filterIn | orderBy | limit | offset =>
    simp [Clauses.ofCalls, Clauses.state, List.filterMap_cons, Call.columns?, Call.condition?, Call.term?,
      Call.limit?, Call.offset?]

/-- The columns that a call names. -/
def Call.names : Call → List String
  | .select columns => columns
  | .filterIn column _ => [column]
  | .orderBy column _ => [column]
  | _ => []

/-- Why a call on a query for the entity is refused. -/
inductive Call.Refused (d : Descriptor) : Call → QueryError → Prop
  | unknownColumn {c : Call} {column : String} : column ∈ c.names → column ∉ d.columns →
      Refused d c (.unknownColumn d.name column)
  | argumentCount {template : String} {args : List Value} : (markers template.toList).length ≠ args.length →
      Refused d (.filter template args)
        (.argumentCountMismatch template (markers template.toList).length args.length)

namespace State

variable {d : Descriptor} {decl : Declaration} {s s' : State}

theorem checkColumn_eq_error (he : s.entity = some d) (hd : d.Describes decl) {column : String} {e : QueryError}
    (h : s.checkColumn column = .error e) : column ∉ d.columns ∧ e = .unknownColumn d.name column := by
  simp only [checkColumn, he] at h
  split at h
  · cases h
  · rename_i hc
    cases h
    exact ⟨fun hm => hc (hd.hasColumn_iff.mpr hm), rfl⟩

theorem checkColumns_eq_error (he : s.entity = some d) (hd : d.Describes decl) {columns : List String}
    {e : QueryError} (h : s.checkColumns columns = .error e) :
    ∃ column ∈ columns, column ∉ d.columns ∧ e = .unknownColumn d.name column := by
  induction columns with
  | nil => cases h
  | cons column columns ih =>
    simp only [checkColumns] at h
    split at h
    · obtain ⟨c, hc, hn⟩ := ih h
      exact ⟨c, List.mem_cons_of_mem column hc, hn⟩
    · rename_i hc
      cases h
      exact ⟨column, List.mem_cons_self, checkColumn_eq_error he hd hc⟩

theorem refused_of_apply (he : s.entity = some d) (hd : d.Describes decl) {c : Call} {e : QueryError}
    (h : s.apply c = .error e) : c.Refused d e := by
  cases c with
  | select columns =>
    simp only [apply] at h
    split at h
    · cases h
    · rename_i hc
      cases h
      obtain ⟨column, hm, hn, rfl⟩ := checkColumns_eq_error he hd hc
      exact .unknownColumn hm hn
  | filter template args =>
    simp only [apply, Predicate.ofFragment] at h
    by_cases hn : (markers template.toList).length = args.length
    · simp only [hn, if_true] at h; cases h
    · simp only [hn, if_false] at h
      cases h
      exact .argumentCount hn
  | filterIn column _ | orderBy column _ =>
    simp only [apply] at h
    split at h
    · cases h
    · rename_i hc
      cases h
      obtain ⟨hn, rfl⟩ := checkColumn_eq_error he hd hc
      exact .unknownColumn (List.mem_singleton.mpr rfl) hn
  | limit n => cases h
  | offset n => cases h

/-! ## Runs -/

/-- A run adds to the clauses what its accepted calls say. -/
theorem run_clauses {done : List Call} (hs : s = (Clauses.ofCalls done).state d) (calls : List Call) :
    s.run calls = (Clauses.ofCalls (done ++ s.taken calls)).state d := by
  induction calls generalizing s done with
  | nil => simpa [run, taken] using hs
  | cons c calls ih =>
    rw [run_cons, taken]
    cases h : s.apply c with
    | error e => rw [after, h]; exact ih hs
    | ok s' =>
      rw [after, h]
      have hs' := (takes_of_apply h).clauses hs
      simpa using ih hs'

/-- A fresh query ends with the clauses of the calls that it accepted. -/
theorem run_eq_clauses (d : Descriptor) (calls : List Call) :
    (ofEntity d).run calls = (Clauses.ofCalls ((ofEntity d).taken calls)).state d := by
  have hfresh : ofEntity d = (Clauses.ofCalls []).state d := rfl
  exact run_clauses hfresh calls

end State

/-! ## Queries of a session -/

variable {E : Type} [Entity E]

/-- The calls of a run that are answered without an error. -/
def Builder.accepted (b : Builder E) : List Call → List Call
  | [] => []
  | c :: calls => match b.call c with
    | (.ok (), b) => c :: b.accepted calls
    | (.error _, b) => b.accepted calls

theorem Builder.accepted_opened {b : Builder E} (h : b.phase = .opened) (calls : List Call) :
    b.accepted calls = b.state.taken calls := by
  induction calls generalizing b with
  | nil => rfl
  | cons c calls ih =>
    obtain ⟨state, settings, phase⟩ := b
    subst h
    simp only [accepted, State.taken, call, ensureOpen]
    cases state.apply c with
    | ok state' => exact congrArg (c :: ·) (ih rfl)
    | error e => exact ih rfl

theorem Builder.call_eq_error {b : Builder E} (h : b.phase = .opened) {c : Call} {e : QueryError}
    (he : (b.call c).1 = .error e) : b.state.apply c = .error e ∧ (b.call c).2 = b := by
  simp only [call, ensureOpen, h] at he ⊢
  cases ha : b.state.apply c with
  | ok state => rw [ha] at he; cases he
  | error e' => rw [ha] at he; cases he; exact ⟨rfl, rfl⟩

/-- Of a query that a session hands out: a refused call changes nothing and says why it is
    refused; after any calls the state is the one that the clauses of the accepted calls
    describe; and two runs, of the same or of two sessions with the same settings, whose
    accepted calls have the same clauses compile to the same statement. -/
theorem accepted_calls_determine {declared declared' : TypeKey → Declaration} {session session' : Session}
    {b b' : Builder E} (hr : session.registry.Reach declared) (hr' : session'.registry.Reach declared')
    (hE : declared (Entity.key E) = Entity.declaration E) (hE' : declared' (Entity.key E) = Entity.declaration E)
    (hset : session'.settings = session.settings) (hb : (session.query E).1 = .ok b)
    (hb' : (session'.query E).1 = .ok b') :
    ∃ d, (Entity.declaration E).describe = .ok d ∧
      (∀ calls c e, ((b.run calls).call c).1 = .error e →
        c.Refused d e ∧ ((b.run calls).call c).2 = b.run calls) ∧
      (∀ calls, (b.run calls).state = (Clauses.ofCalls (b.accepted calls)).state d) ∧
      ∀ calls calls', Clauses.ofCalls (b.accepted calls) = Clauses.ofCalls (b'.accepted calls') →
        ∃ statement, (b.run calls).compile = .ok statement ∧ (b'.run calls').compile = .ok statement := by
  obtain ⟨d, hd, hdecl, rfl⟩ := Session.query_eq_ok hr hE hb
  obtain ⟨d', -, hdecl', rfl⟩ := Session.query_eq_ok hr' hE' hb'
  have hsame : d' = d := by rw [hdecl] at hdecl'; cases hdecl'; rfl
  subst hsame
  have hstate : ∀ calls, (State.ofEntity d').run calls =
      (Clauses.ofCalls ((State.ofEntity d').taken calls)).state d' := State.run_eq_clauses d'
  refine ⟨d', hdecl, fun calls c e he => ?_, fun calls => ?_, fun calls calls' hk => ?_⟩
  · rw [Builder.run_opened rfl] at he ⊢
    obtain ⟨ha, hb⟩ := Builder.call_eq_error rfl he
    exact ⟨State.refused_of_apply ((State.fits_ofEntity d').run hd calls).entity hd ha, hb⟩
  · rw [Builder.run_opened rfl, Builder.accepted_opened rfl]
    exact hstate calls
  · rw [Builder.accepted_opened rfl, Builder.accepted_opened rfl] at hk
    have hfits := (State.fits_ofEntity d').run hd calls
    rw [Builder.run_opened rfl, Builder.run_opened rfl]
    refine ⟨_, hfits.compile hd session.settings, ?_⟩
    show ((State.ofEntity d').run calls').compile session'.settings = _
    rw [hset, hstate calls', ← hk, ← hstate calls]
    exact hfits.compile hd session.settings

/-- What `userCalls` has accepted, the clauses in another order and other refusals between
    them. -/
def userCallsShuffled : List Call := [.limit 9, .filterIn "gone" [.int none], .filterIn "name" [], .limit 3,
  .select ["email", "id", "email"], .filter "id = '?'" [.int (some 1)], .select ["name", "id"]]

open Samples in
theorem accepted_calls_determine_user :
    ∃ b : Builder userEntity.Record,
      (({ settings := ⟨.dollar, true⟩ } : Session).query userEntity.Record).1 = .ok b ∧
      (b.run userCalls).state =
        ⟨some userDescriptor, ["email", "id", "name"], [.inList "name" []], [], some 3, none⟩ ∧
      Clauses.ofCalls (b.accepted userCalls) = Clauses.ofCalls (b.accepted userCallsShuffled) ∧
      ∃ statement, (b.run userCalls).compile = .ok statement ∧ (b.run userCallsShuffled).compile = .ok statement := by
  have hb : (({ settings := ⟨.dollar, true⟩ } : Session).query userEntity.Record).1 =
      .ok ⟨State.ofEntity userDescriptor, ⟨.dollar, true⟩, .opened⟩ := rfl
  have hr : Registry.Reach (fun _ => userEntity.expansion.declaration) {} := .empty
  obtain ⟨d, hdecl, -, hstate, hsame⟩ := accepted_calls_determine (E := userEntity.Record) hr hr rfl rfl rfl hb hb
  have hd : (Entity.declaration userEntity.Record).describe = .ok userDescriptor := rfl
  rw [hd] at hdecl
  cases hdecl
  have hclauses : Clauses.ofCalls (Builder.accepted (E := userEntity.Record)
        ⟨State.ofEntity userDescriptor, ⟨.dollar, true⟩, .opened⟩ userCalls) =
      ⟨[["email", "id", "email"], ["name", "id"]], [.inList "name" []], [], some 3, none⟩ := by decide
  refine ⟨_, hb, ?_, by decide, hsame _ _ (by decide)⟩
  rw [hstate, hclauses]
  decide

end EntityQuery.Query
