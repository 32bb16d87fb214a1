/-
  EntityQuery.Proofs.Query.Decoding — what a statement was made of, read back from its text.

  The text of a statement is taken apart part by part. Conditions, order terms and clauses are
  written so that each ends where it is seen to, if what follows is what a statement puts
  there (`opens_where` and the like): the clauses that may be missing are told apart by their
  keywords, a condition in parentheses by its first character. Names are between double
  quotes, so no name can pass for any of these.

  Free text could be anything and end anywhere, so this is about statements without it.

  `text_determines_query`: two such statements of the same text, of one entity or of two, have
  the same columns, table, lists with their numbers of values, order, limit and offset.
-/
import EntityQuery.Proofs.Query.Writing

namespace EntityQuery.Query

open Schema Text

/-! ## Conditions and terms -/

/-- A list and its number of values, in parentheses or not. -/
def conditionWriting : Writing (Option String × Nat) := fun t x => ∃ column b,
  x.1 = some column ∧ nameWriting.pair listWriting b (column, x.2) ∧ (t = b ∨ t = '(' :: b ++ [')'])

theorem delimited_condition : Delimited [] conditionWriting := by
  have hlist : Delimited [] (nameWriting.pair listWriting) := by
    refine delimited_name.pair delimited_list ?_ (by decide : Apart [['\x22']] [" IN (".toList])
    rintro _ n ⟨a, -, rfl⟩
    exact ⟨_, List.mem_cons_self, by rw [List.append_assoc]; exact List.prefix_append _ _⟩
  -- A list begins with the double quote of its column, so it does not pass for one in parentheses.
  have hopen : ∀ {b x r s}, nameWriting.pair listWriting b x → b ++ r ≠ '(' :: s := by
    rintro _ x r s ⟨_, _, rfl, -, rfl⟩ h
    simp at h
  constructor
  rintro t u ⟨_, n⟩ ⟨_, m⟩ r s ⟨c, b, rfl, hb, ht⟩ ⟨d, e, rfl, he, hu⟩ - - h
  have hsame : ∀ {r s}, b ++ r = e ++ s → (some c, n) = (some d, m) ∧ r = s := by
    intro r s h
    obtain ⟨hx, hrest⟩ := hlist.read hb he (fun _ hw => nomatch hw) (fun _ hw => nomatch hw) h
    obtain ⟨rfl, rfl⟩ := Prod.mk.inj hx
    exact ⟨rfl, hrest⟩
  rcases ht with rfl | rfl
  · rcases hu with rfl | rfl
    · exact hsame h
    · exact absurd h (hopen hb)
  · rcases hu with rfl | rfl
    · exact absurd h.symm (hopen he)
    · rw [List.cons_append, List.cons_append, List.cons_append, List.cons_append, List.append_assoc,
        List.append_assoc] at h
      obtain ⟨hx, h⟩ := hsame (List.cons.inj h).2
      exact ⟨hx, List.append_cancel_left h⟩

theorem writes_conditions (style : PlaceholderStyle) (many : Bool) {ps : List Predicate}
    (h : ∀ p ∈ ps, p.column? ≠ none) : ∀ k, List.Forall₂ conditionWriting (conditions ⟨style, true⟩ many k ps)
      (ps.map fun p => (p.column?, p.args.length)) := by
  induction ps with
  | nil => intro k; exact .nil
  | cons p ps ih =>
    intro k
    rw [List.forall_mem_cons] at h
    refine .cons ?_ (ih h.2 _)
    cases p with
    | fragment template args => exact absurd rfl h.1
    | inList column values =>
      refine ⟨column, (Predicate.inList column values).render ⟨style, true⟩ k, rfl, ⟨_, _, rfl, ?_, rfl⟩, ?_⟩
      · rw [Predicate.body_inList]
        exact writes_list style k values.length
      · unfold Predicate.renderGrouped
        split
        · exact Or.inr rfl
        · exact Or.inl rfl

def directionWriting : Writing Direction := fun t x => t = ' ' :: x.sql

theorem delimited_direction : Delimited [] directionWriting := by
  constructor
  rintro _ _ x y r s rfl rfl - - h
  cases x with
  | asc =>
    cases y with
    | asc => exact ⟨rfl, List.append_cancel_left h⟩
    | desc => exact absurd h (by simp [Direction.sql])
  | desc =>
    cases y with
    | asc => exact absurd h (by simp [Direction.sql])
    | desc => exact ⟨rfl, List.append_cancel_left h⟩

theorem delimited_term : Delimited [] (nameWriting.pair directionWriting) := by
  refine delimited_name.pair delimited_direction ?_ (by decide : Apart [['\x22']] [[' ']])
  rintro _ x rfl
  exact ⟨_, List.mem_cons_self, List.prefix_append [' '] x.sql⟩

/-! ## Whole statements -/

def columnsWriting : Writing (List String) := nameWriting.list ", ".toList

theorem delimited_columns : Delimited [", ".toList, ['\x22']] columnsWriting := delimited_name.list (by decide)

theorem writes_columns (style : PlaceholderStyle) {columns : List String} (h : columns ≠ []) :
    columnsWriting (joined ", ".toList (columns.map (identifier ⟨style, true⟩))) columns := by
  refine ⟨h, _, ?_, rfl⟩
  rw [List.forall₂_map_left_iff, List.forall₂_same]
  exact fun name _ => identifier_quoted style name

def whereWriting : Writing (List (Option String × Nat)) :=
  .clause " WHERE ".toList [] (conditionWriting.list " AND ".toList)

theorem delimited_where : Delimited [" WHERE ".toList, " AND ".toList] whereWriting :=
  (delimited_condition.list (by decide)).clause

def orderWriting : Writing (List (String × Direction)) :=
  .clause " ORDER BY ".toList [] ((nameWriting.pair directionWriting).list ", ".toList)

theorem delimited_order : Delimited [" ORDER BY ".toList, ", ".toList] orderWriting :=
  (delimited_term.list (by decide)).clause

def limitWriting : Writing (Option UInt64) := .clause " LIMIT ".toList none numberWriting

theorem delimited_limit : Delimited (" LIMIT ".toList :: digits) limitWriting := delimited_number.clause

def offsetWriting : Writing (Option UInt64) := .clause " OFFSET ".toList none numberWriting

theorem delimited_offset : Delimited (" OFFSET ".toList :: digits) offsetWriting := delimited_number.clause

namespace State

variable (style : PlaceholderStyle) (s : State)

theorem writes_where (h : ∀ p ∈ s.predicates, p.column? ≠ none) :
    whereWriting (s.whereClause ⟨style, true⟩) (s.predicates.map fun p => (p.column?, p.args.length)) := by
  unfold whereClause
  cases hps : s.predicates with
  | nil => exact Or.inl ⟨rfl, rfl⟩
  | cons p ps =>
    rw [hps] at h
    exact Or.inr ⟨_, ⟨by simp, _, writes_conditions style _ h 0, rfl⟩, rfl⟩

theorem writes_order : orderWriting (s.orderClause ⟨style, true⟩) s.order := by
  unfold orderClause
  cases ho : s.order with
  | nil => exact Or.inl ⟨rfl, rfl⟩
  | cons term terms =>
    refine Or.inr ⟨_, ⟨by simp, _, ?_, rfl⟩, rfl⟩
    rw [List.forall₂_map_left_iff, List.forall₂_same]
    exact fun term _ => ⟨_, _, identifier_quoted style term.1, rfl, rfl⟩

theorem writes_limit : limitWriting s.limitClause s.limit := by
  unfold limitClause
  cases s.limit with
  | none => exact Or.inl ⟨rfl, rfl⟩
  | some n => exact Or.inr ⟨_, ⟨n, rfl, rfl⟩, rfl⟩

theorem writes_offset : offsetWriting s.offsetClause s.offset := by
  unfold offsetClause
  cases s.offset with
  | none => exact Or.inl ⟨rfl, rfl⟩
  | some n => exact Or.inr ⟨_, ⟨n, rfl, rfl⟩, rfl⟩

theorem opens_offset : Opens [" OFFSET ".toList] s.offsetClause := Writing.opens_clause s.writes_offset

theorem opens_limit : Opens [" LIMIT ".toList, " OFFSET ".toList] (s.limitClause ++ s.offsetClause) :=
  (Writing.opens_clause s.writes_limit).append s.opens_offset

theorem opens_order : Opens [" ORDER BY ".toList, " LIMIT ".toList, " OFFSET ".toList]
    (s.orderClause ⟨style, true⟩ ++ (s.limitClause ++ s.offsetClause)) :=
  (Writing.opens_clause (s.writes_order style)).append s.opens_limit

theorem opens_where (h : ∀ p ∈ s.predicates, p.column? ≠ none) :
    Opens [" WHERE ".toList, " ORDER BY ".toList, " LIMIT ".toList, " OFFSET ".toList]
      (s.whereClause ⟨style, true⟩ ++ (s.orderClause ⟨style, true⟩ ++ (s.limitClause ++ s.offsetClause))) :=
  (Writing.opens_clause (s.writes_where style h)).append (s.opens_order style)

variable {style s}

theorem sqlText_eq (settings : Settings) (s : State) (table : String) (columns : List String) :
    s.sqlText settings table columns = "SELECT ".toList ++ (joined ", ".toList (columns.map (identifier settings)) ++
      (" FROM ".toList ++ (identifier settings table ++ (s.whereClause settings ++ (s.orderClause settings ++
        (s.limitClause ++ s.offsetClause)))))) := by
  unfold sqlText selectClause
  simp only [List.append_assoc]

/-- The text of a statement without free text, taken apart. -/
theorem sqlText_inj {s' : State} {table table' : String} {columns columns' : List String} (hc : columns ≠ [])
    (hc' : columns' ≠ []) (hp : ∀ p ∈ s.predicates, p.column? ≠ none) (hp' : ∀ p ∈ s'.predicates, p.column? ≠ none)
    (h : s.sqlText ⟨style, true⟩ table columns = s'.sqlText ⟨style, true⟩ table' columns') :
    columns = columns' ∧ table = table' ∧
      s.predicates.map (fun p => (p.column?, p.args.length)) =
        s'.predicates.map (fun p => (p.column?, p.args.length)) ∧
      s.order = s'.order ∧ s.limit = s'.limit ∧ s.offset = s'.offset := by
  rw [sqlText_eq, sqlText_eq] at h
  have from_ : ∀ r, Avoids [", ".toList, ['\x22']] (" FROM ".toList ++ r) := fun r =>
    (Opens.of_mem List.mem_cons_self r).avoids (by decide : Apart _ [" FROM ".toList])
  obtain ⟨hcolumns, h⟩ := delimited_columns.read (writes_columns style hc) (writes_columns style hc') (from_ _)
    (from_ _) (List.append_cancel_left h)
  obtain ⟨htable, h⟩ := delimited_name.read (identifier_quoted style table) (identifier_quoted style table')
    ((s.opens_where style hp).avoids (by decide)) ((s'.opens_where style hp').avoids (by decide))
    (List.append_cancel_left h)
  obtain ⟨hpredicates, h⟩ := delimited_where.read (s.writes_where style hp) (s'.writes_where style hp')
    ((s.opens_order style).avoids (by decide)) ((s'.opens_order style).avoids (by decide)) h
  obtain ⟨horder, h⟩ := delimited_order.read (s.writes_order style) (s'.writes_order style)
    (s.opens_limit.avoids (by decide)) (s'.opens_limit.avoids (by decide)) h
  obtain ⟨hlimit, h⟩ := delimited_limit.read s.writes_limit s'.writes_limit
    (s.opens_offset.avoids (by decide)) (s'.opens_offset.avoids (by decide)) h
  have hend : Avoids (" OFFSET ".toList :: digits) [] := Opens.nil.avoids (by decide : Apart _ [])
  rw [← List.append_nil s.offsetClause, ← List.append_nil s'.offsetClause] at h
  obtain ⟨hoffset, -⟩ := delimited_offset.read s.writes_offset s'.writes_offset hend hend h
  exact ⟨hcolumns, htable, hpredicates, horder, hlimit, hoffset⟩

end State

/-- After any calls on two entities, or on one, that leave no free text, and with names between
    double quotes, whatever these are: if the statements have the same text, then they have
    the same columns, the same table, lists of as many values on the same columns, and the
    same order, limit and offset. -/
theorem text_determines_query {decl decl' : Declaration} {d d' : Descriptor} (hd : decl.describe = .ok d)
    (hd' : decl'.describe = .ok d') (calls calls' : List Call) (style : PlaceholderStyle)
    (hp : ∀ p ∈ ((State.ofEntity d).run calls).predicates, p.column? ≠ none)
    (hp' : ∀ p ∈ ((State.ofEntity d').run calls').predicates, p.column? ≠ none) :
    let s := (State.ofEntity d).run calls
    let s' := (State.ofEntity d').run calls'
    ∃ st st' : Statement, s.compile ⟨style, true⟩ = .ok st ∧ s'.compile ⟨style, true⟩ = .ok st' ∧
      (st.sql = st'.sql →
        st.columns = st'.columns ∧ d.table = d'.table ∧
        s.predicates.map (fun p => (p.column?, p.args.length)) =
          s'.predicates.map (fun p => (p.column?, p.args.length)) ∧
        s.order = s'.order ∧ s.limit = s'.limit ∧ s.offset = s'.offset) := by
  intro s s'
  have hdd := describe_describes hd
  have hdd' := describe_describes hd'
  have hs : s.Fits d := (State.fits_ofEntity d).run hdd calls
  have hs' : s'.Fits d' := (State.fits_ofEntity d').run hdd' calls'
  refine ⟨_, _, hs.compile hdd _, hs'.compile hdd' _, fun h => ?_⟩
  exact State.sqlText_inj (State.Fits.resultColumns_ne_nil hdd) (State.Fits.resultColumns_ne_nil hdd') hp hp'
    (String.ofList_injective h)

/-- The table and the column hold quotes, a keyword and a separator. -/
def forgedDeclaration : Declaration :=
  ⟨"Forged", some "t\x22 FROM \x22u", [⟨"pair", .text, some "a\x22, \x22b", false, false⟩]⟩

def forgedDescriptor : Descriptor :=
  ⟨"Forged", "t\x22 FROM \x22u", [⟨0, "pair", "a\x22, \x22b", .text, false, false⟩], none, [("a\x22, \x22b", 0)]⟩

/-- Two values, an empty list and a limit. -/
def forgedCalls (first second : Value) : List Call :=
  [.filterIn "a\x22, \x22b" [first, second], .filterIn "a\x22, \x22b" [], .limit 7]

/-- The text of such a query under the dollar style. -/
def forgedText : String :=
  "SELECT \x22a\x22\x22, \x22\x22b\x22 FROM \x22t\x22\x22 FROM \x22\x22u\x22" ++
    " WHERE \x22a\x22\x22, \x22\x22b\x22 IN ($1, $2) AND \x22a\x22\x22, \x22\x22b\x22 IN (NULL) LIMIT 7"

theorem text_determines_query_forged :
    let s := (State.ofEntity forgedDescriptor).run (forgedCalls (.bool none) (.int (some 1)))
    let s' := (State.ofEntity forgedDescriptor).run (.limit 3 :: forgedCalls (.int (some 2)) (.bool none))
    forgedDeclaration.describe = .ok forgedDescriptor ∧
    (∀ p ∈ s.predicates, p.column? ≠ none) ∧ (∀ p ∈ s'.predicates, p.column? ≠ none) ∧
    s.predicates ≠ s'.predicates ∧
    ∃ st st' : Statement, s.compile ⟨.dollar, true⟩ = .ok st ∧ s'.compile ⟨.dollar, true⟩ = .ok st' ∧
      st.sql = forgedText ∧ st'.sql = forgedText ∧ st.columns = st'.columns ∧
      s.predicates.map (fun p => (p.column?, p.args.length)) =
        s'.predicates.map (fun p => (p.column?, p.args.length)) ∧ s.limit = s'.limit := by
  intro s s'
  have hd : forgedDeclaration.describe = .ok forgedDescriptor := rfl
  have hp : ∀ p ∈ s.predicates, p.column? ≠ none := by decide
  have hp' : ∀ p ∈ s'.predicates, p.column? ≠ none := by decide
  obtain ⟨st, st', hst, hst', hsame⟩ := text_determines_query hd hd _ _ .dollar hp hp'
  have htext : (s.compile ⟨.dollar, true⟩).map (·.sql) = .ok forgedText := by decide
  have htext' : (s'.compile ⟨.dollar, true⟩).map (·.sql) = .ok forgedText := by decide
  rw [hst] at htext
  rw [hst'] at htext'
  have hsql : st.sql = forgedText := Except.ok.inj htext
  have hsql' : st'.sql = forgedText := Except.ok.inj htext'
  obtain ⟨hcolumns, -, hlists, -, hlimit, -⟩ := hsame (hsql.trans hsql'.symm)
  exact ⟨hd, hp, hp', by decide, st, st', hst, hst', hsql, hsql', hcolumns, hlists, hlimit⟩

end EntityQuery.Query
