/-
  EntityQuery.Proofs.Query.Spelled — a list of values, and the same list spelled out as free text.

  A list is made of a column and values, free text is counted and copied. What becomes of the two
  can differ: the column of a list is rendered as a name and is not scanned for markers, free
  text is scanned and copied from its first character on. Without quoted identifiers, and with a
  column in which the scanner sees neither a quote nor a marker, it does not.

  - `Predicate.Alike` says of two conditions that nothing in a statement tells them apart: they
    have the same arguments and the same text, next to others or alone, after any number of
    arguments. A list and its spelling are alike (`alike_listText`).
  - `State.Alike` says of two states that their conditions are, one by one, and all else is the
    same. A call is answered alike by both and leaves them alike (`Alike.apply`), so a run does
    (`Alike.run`, `Alike.outcomes`), and they compile to one statement (`Alike.compile`).

  `list_agrees_with_text`: a query that takes a list on one side and its spelling on the other,
  wherever in a run of calls, accepts both and ends with one statement.
-/
import EntityQuery.Proofs.Query.Counting
import EntityQuery.Proofs.Query.Forgetting
import EntityQuery.Proofs.Query.Writing

namespace EntityQuery.Query

open Schema Text

/-! ## Conditions -/

namespace Predicate

variable {settings : Settings} {p q : Predicate}

/-- The conditions have the same arguments, and the same text wherever they stand. -/
structure Alike (settings : Settings) (p q : Predicate) : Prop where
  args : p.args = q.args
  text : ∀ many bound, p.renderGrouped settings many bound = q.renderGrouped settings many bound

theorem Alike.refl (p : Predicate) : p.Alike settings p := ⟨rfl, fun _ _ => rfl⟩

end Predicate

theorem conditions_alike {settings : Settings} {ps qs : List Predicate}
    (h : List.Forall₂ (Predicate.Alike settings) ps qs) (many : Bool) (bound : Nat) :
    conditions settings many bound ps = conditions settings many bound qs := by
  induction h generalizing bound with
  | nil => rfl
  | cons hp _ ih => rw [conditions, conditions, hp.text, hp.args, ih]

theorem args_alike {settings : Settings} {ps qs : List Predicate}
    (h : List.Forall₂ (Predicate.Alike settings) ps qs) : ps.flatMap (·.args) = qs.flatMap (·.args) := by
  induction h with
  | nil => rfl
  | cons hp _ ih => rw [List.flatMap_cons, List.flatMap_cons, hp.args, ih]

/-! ## States -/

namespace State

variable {settings : Settings} {s t : State}

/-- The states are the same but for conditions that are alike. -/
structure Alike (settings : Settings) (s t : State) : Prop where
  entity : s.entity = t.entity
  projection : s.projection = t.projection
  predicates : List.Forall₂ (Predicate.Alike settings) s.predicates t.predicates
  order : s.order = t.order
  limit : s.limit = t.limit
  offset : s.offset = t.offset

theorem Alike.refl (s : State) : s.Alike settings s where
  entity := rfl
  projection := rfl
  predicates := List.forall₂_same.mpr fun p _ => .refl p
  order := rfl
  limit := rfl
  offset := rfl

/-- One more condition on both. -/
theorem Alike.push {p q : Predicate} (h : s.Alike settings t) (hp : p.Alike settings q) :
    Alike settings { s with predicates := s.predicates ++ [p] } { t with predicates := t.predicates ++ [q] } :=
  { h with predicates := List.rel_append h.predicates (.cons hp .nil) }

/-- A call is accepted by both and leaves them alike, or refused by both for one reason. -/
theorem Alike.apply (h : s.Alike settings t) (c : Call) :
    (∃ s' t', s.apply c = .ok s' ∧ t.apply c = .ok t' ∧ s'.Alike settings t') ∨
      ∃ e, s.apply c = .error e ∧ t.apply c = .error e := by
  cases c with
  | select columns =>
    simp only [State.apply, checkColumns_congr h.entity]
    cases t.checkColumns columns with
    | ok => exact Or.inl ⟨_, _, rfl, rfl, { h with projection := by rw [h.projection] }⟩
    | error e => exact Or.inr ⟨e, rfl, rfl⟩
  | filter template args =>
    simp only [State.apply]
    cases Predicate.ofFragment template args with
    | ok p => exact Or.inl ⟨_, _, rfl, rfl, h.push (.refl p)⟩
    | error e => exact Or.inr ⟨e, rfl, rfl⟩
  | filterIn column values =>
    simp only [State.apply, checkColumn_congr h.entity]
    cases t.checkColumn column with
    | ok => exact Or.inl ⟨_, _, rfl, rfl, h.push (.refl _)⟩
    | error e => exact Or.inr ⟨e, rfl, rfl⟩
  | orderBy column direction =>
    simp only [State.apply, checkColumn_congr h.entity]
    cases t.checkColumn column with
    | ok => exact Or.inl ⟨_, _, rfl, rfl, { h with order := by rw [h.order] }⟩
    | error e => exact Or.inr ⟨e, rfl, rfl⟩
  | limit n => exact Or.inl ⟨_, _, rfl, rfl, { h with limit := rfl }⟩
  | offset n => exact Or.inl ⟨_, _, rfl, rfl, { h with offset := rfl }⟩

theorem Alike.after (h : s.Alike settings t) (c : Call) : (s.after c).Alike settings (t.after c) := by
  rcases h.apply c with ⟨s', t', hs, ht, h'⟩ | ⟨e, hs, ht⟩
  · simpa only [State.after, hs, ht] using h'
  · simpa only [State.after, hs, ht] using h

theorem Alike.run (h : s.Alike settings t) (calls : List Call) : (s.run calls).Alike settings (t.run calls) := by
  induction calls generalizing s t with
  | nil => exact h
  | cons c calls ih => exact ih (h.after c)

theorem Alike.outcomes (h : s.Alike settings t) (calls : List Call) : s.outcomes calls = t.outcomes calls := by
  induction calls generalizing s t with
  | nil => rfl
  | cons c calls ih =>
    rw [State.outcomes, State.outcomes, ih (h.after c)]
    rcases h.apply c with ⟨s', t', hs, ht, -⟩ | ⟨e, hs, ht⟩
    · rw [hs, ht]
      rfl
    · rw [hs, ht]

theorem Alike.whereClause (h : s.Alike settings t) : s.whereClause settings = t.whereClause settings := by
  have hlen : s.predicates.length = t.predicates.length := h.predicates.length_eq
  have hempty : s.predicates.isEmpty = t.predicates.isEmpty := by
    rw [Bool.eq_iff_iff, List.isEmpty_iff_length_eq_zero, List.isEmpty_iff_length_eq_zero, hlen]
  rw [State.whereClause, State.whereClause, whereText, whereText, hempty, hlen, conditions_alike h.predicates]

theorem Alike.compile (h : s.Alike settings t) : s.compile settings = t.compile settings := by
  have hfields : s.projectedFields = t.projectedFields := by
    rw [projectedFields, projectedFields, h.entity, h.projection]
  have htext : ∀ table columns, s.sqlText settings table columns = t.sqlText settings table columns := by
    intro table columns
    rw [sqlText, sqlText, h.whereClause, orderClause, orderClause, h.order, limitClause, limitClause, h.limit,
      offsetClause, offsetClause, h.offset]
  simp only [State.compile, h.entity, hfields, htext, args_alike h.predicates]

end State

/-! ## Lists spelled out -/

theorem joined_eq_intercalate (sep : List Char) (ts : List (List Char)) : joined sep ts = sep.intercalate ts := by
  fun_induction joined sep ts with
  | case1 => rfl
  | case2 t => simp [List.intercalate]
  | case3 t ts hne ih =>
    obtain ⟨u, us, rfl⟩ := List.exists_cons_of_ne_nil hne
    rw [ih, List.intercalate_cons_cons]

/-- The free text for a list of `n` values. -/
def listText (column : String) (n : Nat) : String :=
  column ++ " IN (" ++ (if n = 0 then "NULL" else ", ".intercalate (List.replicate n "?")) ++ ")"

theorem toList_listText (column : String) (n : Nat) :
    (listText column n).toList = column.toList ++ Predicate.listBody n := by
  have hmark : "?".toList = ['?'] := rfl
  have hclose : ")".toList = [')'] := rfl
  rw [listText, listBody_eq, joined_eq_intercalate]
  simp only [String.toList_append, List.append_assoc, hclose]
  split
  · rfl
  · rw [String.toList_intercalate, List.map_replicate, hmark]

variable {column : String}

theorem unspoilt_of_bland (h : column.toList.all isBland = true) (values : List Value) :
    (Predicate.inList column values).Unspoilt := by
  have hmarks := unmarked_of_bland h 0
  show if Mode.plain.after column.toList = .plain then markers column.toList = [] else _
  rw [if_pos hmarks.closed]
  exact hmarks.seen

theorem length_markers_listText (h : column.toList.all isBland = true) (values : List Value) :
    (markers (listText column values.length).toList).length = values.length := by
  have hcounted : (Predicate.inList column values).Counted := trivial
  rw [toList_listText]
  exact (Predicate.length_markers_iff hcounted).mpr (unspoilt_of_bland h values)

/-- A list and its spelling are alike. -/
theorem alike_listText (h : column.toList.all isBland = true) {settings : Settings}
    (hbare : settings.quoteIdentifiers = false) (values : List Value) :
    (Predicate.inList column values).Alike settings (.fragment (listText column values.length) values) := by
  have htemplate : (Predicate.inList column values).template =
      (Predicate.fragment (listText column values.length) values).template := (toList_listText column _).symm
  have hname : identifier settings column = column.toList := by simp [identifier, hbare]
  have hrender : ∀ bound, (Predicate.inList column values).render settings bound =
      (Predicate.fragment (listText column values.length) values).render settings bound := by
    intro bound
    rw [Predicate.render, Predicate.render, Predicate.body_inList, Predicate.body_fragment, toList_listText]
    show identifier settings column ++ _ = [] ++ _
    rw [hname, List.nil_append]
    cases settings.placeholder with
    | question => rfl
    | dollar => rw [renderMarkers_dollar, renderMarkers_dollar, numberedFrom_bland h]
  refine ⟨rfl, fun many bound => ?_⟩
  rw [Predicate.renderGrouped, Predicate.renderGrouped, hrender, Predicate.hasDisjunction, Predicate.hasDisjunction,
    htemplate]

/-! ## Queries of a session -/

variable {E : Type} [Entity E]

/-- A query that a session hands out, after any calls, accepts a list of values on each of its
    columns without quotes and question marks, and the same list spelled out as free text, if
    identifiers are not quoted. Further calls are answered alike on both sides, and both compile
    to one statement: the same text, values and columns. -/
theorem list_agrees_with_text {declared : TypeKey → Declaration} {session : Session} {b : Builder E}
    (hr : session.registry.Reach declared) (hE : declared (Entity.key E) = Entity.declaration E)
    (hb : (session.query E).1 = .ok b) (hbare : session.settings.quoteIdentifiers = false) :
    ∃ d, (Entity.declaration E).describe = .ok d ∧
      ∀ (before : List Call) (column : String) (values : List Value), column ∈ d.columns →
        column.toList.all isBland = true →
        let listed := (b.run before).call (.filterIn column values)
        let spelled := (b.run before).call (.filter (listText column values.length) values)
        listed.1 = .ok () ∧ spelled.1 = .ok () ∧
        ∀ after, listed.2.outcomes after = spelled.2.outcomes after ∧
          ∃ statement, (listed.2.run after).compile = .ok statement ∧
            (spelled.2.run after).compile = .ok statement := by
  obtain ⟨d, hd, hdecl, rfl⟩ := Session.query_eq_ok hr hE hb
  refine ⟨d, hdecl, fun before column values hcolumn hbland => ?_⟩
  rw [Builder.run_opened rfl]
  have hfits : ((State.ofEntity d).run before).Fits d := (State.fits_ofEntity d).run hd before
  generalize (State.ofEntity d).run before = s at hfits ⊢
  have hlisted : s.Takes (.filterIn column values) _ := .filterIn ((hfits.knows_iff hd).mpr hcolumn)
  have hspelled : s.Takes (.filter (listText column values.length) values) _ :=
    .filter (length_markers_listText hbland values)
  have halike := (State.Alike.refl s).push (alike_listText hbland hbare values)
  rw [Builder.call_taken rfl hlisted, Builder.call_taken rfl hspelled]
  refine ⟨rfl, rfl, fun after => ?_⟩
  have hcompile := ((hfits.takes hd hlisted).run hd after).compile hd session.settings
  rw [Builder.outcomes_opened rfl, Builder.outcomes_opened rfl, Builder.compile_run_opened rfl,
    Builder.compile_run_opened rfl]
  exact ⟨halike.outcomes after, _, hcompile, (halike.run after).compile.symm.trans hcompile⟩

/-- Calls to stand before a list and after it: a disjunction, another list, a refused condition, a limit. -/
def surroundingCalls : List Call :=
  [.filter "email = ? OR email IS NULL" [.string (some "a")], .filterIn "id" [.int (some 1), .int none],
    .filter "id = ?" [], .limit 3]

open Samples in
theorem list_agrees_with_text_user :
    let b : Builder userEntity.Record := ⟨State.ofEntity userDescriptor, ⟨.dollar, false⟩, .opened⟩
    let values : List Value := [.string (some "ann"), .string (some "bob")]
    let before := b.run surroundingCalls
    let listed := (before.call (.filterIn "name" values)).2
    let spelled := (before.call (.filter "name IN (?, ?)" values)).2
    (({ settings := ⟨.dollar, false⟩ } : Session).query userEntity.Record).1 = .ok b ∧
      listed.state ≠ spelled.state ∧ listed.outcomes surroundingCalls = spelled.outcomes surroundingCalls ∧
      ∃ statement, (listed.run surroundingCalls).compile = .ok statement ∧
        (spelled.run surroundingCalls).compile = .ok statement := by
  intro b values before listed spelled
  have hb : (({ settings := ⟨.dollar, false⟩ } : Session).query userEntity.Record).1 = .ok b := rfl
  have hr : Registry.Reach (fun _ => userEntity.expansion.declaration) {} := .empty
  obtain ⟨d, hd, hagree⟩ := list_agrees_with_text (E := userEntity.Record) hr rfl hb rfl
  have hd' : d = userDescriptor := Except.ok.inj (hd.symm.trans rfl)
  obtain ⟨-, -, hafter⟩ := hagree surroundingCalls "name" values (by rw [hd']; decide) (by decide)
  exact ⟨hb, by decide, hafter surroundingCalls⟩

end EntityQuery.Query
