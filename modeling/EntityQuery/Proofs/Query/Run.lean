/-
  EntityQuery.Proofs.Query.Run — runs of calls on a query, and what every run keeps.

  `Takes` says what a call does to a state when it is not refused, one case for each kind of
  call. Nothing else can happen (`takes_of_apply`), and each case does happen (`Takes.apply`). A
  run applies calls one after another and passes over the refused ones, as the holder of a
  builder does who goes on after an error.

  `Fits` is what every run from a fresh state keeps (`Fits.run`):
  - the entity selected from stays the same,
  - no column is projected twice, and every column named by the projection, by an order term
    or by a list is one of the entity,
  - every free text has as many arguments as markers.

  A state that fits compiles, and the columns of its statement are those of fields of the
  entity (`Fits.compile`). `open_query_binds`: a query that a session hands out, after
  any calls, compiles to a statement whose columns are there and all different, and the
  binder of these columns has exactly the fields that the query projects.
-/
import EntityQuery.Query.Builder
import EntityQuery.Proofs.Schema.Described
import EntityQuery.Samples.Catalogue

namespace EntityQuery.Query

open Schema

namespace State

/-! ## One call -/

/-- The column is one of the entity selected from. -/
def Knows (s : State) (column : String) : Prop := ∃ d, s.entity = some d ∧ d.hasColumn column = true

theorem checkColumn_eq_ok_iff {s : State} {column : String} : s.checkColumn column = .ok () ↔ s.Knows column := by
  unfold checkColumn Knows
  cases s.entity with
  | none => simp
  | some d =>
    by_cases h : d.hasColumn column = true
    · simp [h]
    · simp [h]

theorem checkColumns_eq_ok_iff {s : State} {columns : List String} :
    s.checkColumns columns = .ok () ↔ ∀ c ∈ columns, s.Knows c := by
  induction columns with
  | nil => simp [checkColumns]
  | cons column columns ih =>
    rw [List.forall_mem_cons, ← checkColumn_eq_ok_iff, ← ih, checkColumns]
    cases s.checkColumn column with
    | ok => simp
    | error e => simp

/-- A column is looked up in the entity alone. -/
theorem checkColumn_congr {s t : State} (h : s.entity = t.entity) (column : String) :
    s.checkColumn column = t.checkColumn column := by
  rw [checkColumn, checkColumn, h]

theorem checkColumns_congr {s t : State} (h : s.entity = t.entity) (columns : List String) :
    s.checkColumns columns = t.checkColumns columns := by
  induction columns with
  | nil => rfl
  | cons column columns ih => rw [checkColumns, checkColumns, checkColumn_congr h, ih]

/-- What a call does to a state when it is not refused. -/
inductive Takes (s : State) : Call → State → Prop
  | select {columns : List String} : (∀ c ∈ columns, s.Knows c) →
      Takes s (.select columns) { s with projection := extend s.projection columns }
  | filter {template : String} {args : List Value} : (markers template.toList).length = args.length →
      Takes s (.filter template args) { s with predicates := s.predicates ++ [.fragment template args] }
  | filterIn {column : String} {values : List Value} : s.Knows column →
      Takes s (.filterIn column values) { s with predicates := s.predicates ++ [.inList column values] }
  | orderBy {column : String} {direction : Direction} : s.Knows column →
      Takes s (.orderBy column direction) { s with order := s.order ++ [(column, direction)] }
  | limit (n : UInt64) : Takes s (.limit n) { s with limit := some n }
  | offset (n : UInt64) : Takes s (.offset n) { s with offset := some n }

theorem takes_of_apply {s s' : State} {c : Call} (h : s.apply c = .ok s') : s.Takes c s' := by
  cases c with
  | select columns =>
    simp only [apply] at h
    split at h
    · rename_i hc; cases h; exact .select (checkColumns_eq_ok_iff.mp hc)
    · cases h
  | filter template args =>
    simp only [apply, Predicate.ofFragment] at h
    by_cases hn : (markers template.toList).length = args.length
    · simp only [hn, if_true] at h; cases h; exact .filter hn
    · simp only [hn, if_false] at h; cases h
  | filterIn column values =>
    simp only [apply] at h
    split at h
    · rename_i hc; cases h; exact .filterIn (checkColumn_eq_ok_iff.mp hc)
    · cases h
  | orderBy column direction =>
    simp only [apply] at h
    split at h
    · rename_i hc; cases h; exact .orderBy (checkColumn_eq_ok_iff.mp hc)
    · cases h
  | limit n => cases h; exact .limit n
  | offset n => cases h; exact .offset n

theorem Takes.apply {s s' : State} {c : Call} (h : s.Takes c s') : s.apply c = .ok s' := by
  cases h with
  | select h => simp only [State.apply, checkColumns_eq_ok_iff.mpr h]
  | filter h => simp only [State.apply, Predicate.ofFragment, h, if_true]
  | filterIn h => simp only [State.apply, checkColumn_eq_ok_iff.mpr h]
  | orderBy h => simp only [State.apply, checkColumn_eq_ok_iff.mpr h]
  | limit n => rfl
  | offset n => rfl

/-! ## Runs -/

/-- The state after a call; a refused one changes nothing. -/
def after (s : State) (c : Call) : State :=
  match s.apply c with
  | .ok s' => s'
  | .error _ => s

def run (s : State) (calls : List Call) : State := calls.foldl after s

/-- The calls of a run that are not refused. -/
def taken (s : State) : List Call → List Call
  | [] => []
  | c :: calls => match s.apply c with
    | .ok s' => c :: s'.taken calls
    | .error _ => s.taken calls

theorem after_of_takes {s s' : State} {c : Call} (h : s.Takes c s') : s.after c = s' := by
  simp [after, h.apply]

theorem after_cases (s : State) (c : Call) : s.Takes c (s.after c) ∨ s.after c = s := by
  cases h : s.apply c with
  | ok s' => rw [after_of_takes (takes_of_apply h)]; exact Or.inl (takes_of_apply h)
  | error e => exact Or.inr (by simp [after, h])

theorem run_cons (s : State) (c : Call) (calls : List Call) : s.run (c :: calls) = (s.after c).run calls := rfl

/-- What every call that is taken keeps, every run keeps. -/
theorem run_keeps {P : State → Prop} (step : ∀ {s s' : State} {c : Call}, P s → s.Takes c s' → P s')
    (calls : List Call) {s : State} (h : P s) : P (s.run calls) := by
  induction calls generalizing s with
  | nil => exact h
  | cons c calls ih =>
    rw [run_cons]
    apply ih
    rcases s.after_cases c with ht | he
    · exact step h ht
    · rw [he]; exact h

end State

/-! ## The arguments of a run -/

/-- The values that a call hands to the statement. -/
def Call.args : Call → List Value
  | .filter _ args => args
  | .filterIn _ values => values
  | _ => []

theorem State.run_args (s : State) (calls : List Call) :
    (s.run calls).predicates.flatMap (·.args) = s.predicates.flatMap (·.args) ++ (s.taken calls).flatMap (·.args) := by
  induction calls generalizing s with
  | nil => simp [run, taken]
  | cons c calls ih =>
    rw [run_cons, ih, taken]
    cases h : s.apply c with
    | error e => simp [after, h]
    | ok s' =>
      simp only [after, h, List.flatMap_cons, ← List.append_assoc]
      congr 1
      cases takes_of_apply h <;> simp [Call.args, Predicate.args]

/-! ## What every run keeps -/

/-- Free text has as many arguments as markers. -/
def Predicate.Counted : Predicate → Prop
  | .fragment template args => (markers template.toList).length = args.length
  | .inList _ _ => True

/-- The state selects from the entity, and names only columns of it. -/
structure State.Fits (d : Descriptor) (s : State) : Prop where
  entity : s.entity = some d
  distinct : s.projection.Nodup
  projected : ∀ c ∈ s.projection, c ∈ d.columns
  ordered : ∀ t ∈ s.order, t.1 ∈ d.columns
  listed : ∀ p ∈ s.predicates, ∀ c, p.column? = some c → c ∈ d.columns
  counted : ∀ p ∈ s.predicates, p.Counted

namespace State

theorem mem_extend {c : String} {projection columns : List String} :
    c ∈ extend projection columns ↔ c ∈ projection ∨ c ∈ columns := by
  induction columns generalizing projection with
  | nil => simp [extend]
  | cons column columns ih =>
    unfold extend
    split
    · rename_i h
      rw [ih, List.mem_cons]
      constructor
      · rintro (h' | h') <;> simp [h']
      · rintro (h' | rfl | h')
        · exact Or.inl h'
        · exact Or.inl (List.contains_iff_mem.mp h)
        · exact Or.inr h'
    · rw [ih]; simp [or_assoc]

theorem nodup_extend {projection columns : List String} (h : projection.Nodup) :
    (extend projection columns).Nodup := by
  induction columns generalizing projection with
  | nil => exact h
  | cons column columns ih =>
    unfold extend
    split
    · exact ih h
    · rename_i hc
      apply ih
      rw [List.nodup_append]
      refine ⟨h, by simp, fun c hc' c' hc'' e => hc ?_⟩
      rw [List.mem_singleton.mp hc''] at e
      exact List.contains_iff_mem.mpr (e ▸ hc')

variable {d : Descriptor} {decl : Declaration} {s s' : State}

theorem fits_ofEntity (d : Descriptor) : (ofEntity d).Fits d := by
  constructor <;> simp [ofEntity]

theorem Fits.knows_iff (hs : s.Fits d) (hd : d.Describes decl) {c : String} : s.Knows c ↔ c ∈ d.columns := by
  simp [Knows, hs.entity, hd.hasColumn_iff]

theorem Fits.takes (hd : d.Describes decl) {c : Call} (hs : s.Fits d) (h : s.Takes c s') : s'.Fits d := by
  cases h with
  | select hk =>
    refine { hs with distinct := nodup_extend hs.distinct, projected := fun c hc => ?_ }
    rcases mem_extend.mp hc with hc | hc
    · exact hs.projected c hc
    · exact (hs.knows_iff hd).mp (hk c hc)
  | filter hn =>
    refine { hs with listed := fun p hp c hc => ?_, counted := fun p hp => ?_ }
    · rcases List.mem_append.mp hp with hp | hp
      · exact hs.listed p hp c hc
      · cases List.mem_singleton.mp hp; cases hc
    · rcases List.mem_append.mp hp with hp | hp
      · exact hs.counted p hp
      · cases List.mem_singleton.mp hp; exact hn
  | filterIn hk =>
    refine { hs with listed := fun p hp c hc => ?_, counted := fun p hp => ?_ }
    · rcases List.mem_append.mp hp with hp | hp
      · exact hs.listed p hp c hc
      · cases List.mem_singleton.mp hp; cases hc; exact (hs.knows_iff hd).mp hk
    · rcases List.mem_append.mp hp with hp | hp
      · exact hs.counted p hp
      · cases List.mem_singleton.mp hp; trivial
  | orderBy hk =>
    refine { hs with ordered := fun t ht => ?_ }
    rcases List.mem_append.mp ht with ht | ht
    · exact hs.ordered t ht
    · cases List.mem_singleton.mp ht; exact (hs.knows_iff hd).mp hk
  | limit n => exact { hs with }
  | offset n => exact { hs with }

theorem Fits.run (hd : d.Describes decl) (hs : s.Fits d) (calls : List Call) : (s.run calls).Fits d :=
  run_keeps (fun hs h => hs.takes hd h) calls hs

end State

/-! ## Columns to fields and back -/

variable {d : Descriptor} {decl : Declaration}

theorem fieldsOf_columns (hd : d.Describes decl) {fs : List Field} (h : ∀ f ∈ fs, f ∈ d.fields) :
    fieldsOf d (fs.map (·.column)) = .ok fs := by
  induction fs with
  | nil => rfl
  | cons f fs ih =>
    have hf : d.field? f.column = some f := hd.field?_eq_some_iff.mpr ⟨h f List.mem_cons_self, rfl⟩
    simp only [List.map_cons, fieldsOf, hf, ih fun g hg => h g (List.mem_cons_of_mem f hg)]

theorem exists_fields {columns : List String} (h : ∀ c ∈ columns, c ∈ d.columns) :
    ∃ fs : List Field, (∀ f ∈ fs, f ∈ d.fields) ∧ fs.map (·.column) = columns := by
  induction columns with
  | nil => exact ⟨[], by simp, rfl⟩
  | cons c columns ih =>
    obtain ⟨fs, hfs, hm⟩ := ih fun c' hc' => h c' (List.mem_cons_of_mem c hc')
    obtain ⟨f, hf, rfl⟩ := List.mem_map.mp (h c List.mem_cons_self)
    exact ⟨f :: fs, List.forall_mem_cons.mpr ⟨hf, hfs⟩, by rw [List.map_cons, hm]⟩

/-- The columns of the result: those projected, or all of the entity. -/
def State.resultColumns (d : Descriptor) (s : State) : List String :=
  if s.projection.isEmpty then d.columns else s.projection

namespace State.Fits

variable {s : State}

theorem projectedFields (hs : s.Fits d) (hd : d.Describes decl) :
    ∃ fs, s.projectedFields = .ok fs ∧ (∀ f ∈ fs, f ∈ d.fields) ∧ fs.map (·.column) = s.resultColumns d := by
  unfold State.projectedFields State.resultColumns
  rw [hs.entity]
  by_cases hp : s.projection.isEmpty = true
  · exact ⟨d.fields, by simp [hp], fun f hf => hf, by simp [hp, Descriptor.columns]⟩
  · obtain ⟨fs, hfs, hm⟩ := exists_fields hs.projected
    refine ⟨fs, ?_, hfs, by simp [hp, hm]⟩
    simp only [hp, Bool.false_eq_true, if_false]
    rw [← hm]
    exact fieldsOf_columns hd hfs

theorem resultColumns_ne_nil (hd : d.Describes decl) : s.resultColumns d ≠ [] := by
  unfold State.resultColumns
  split
  · simpa [Descriptor.columns] using hd.fields_ne_nil
  · rename_i hp; simpa using hp

theorem resultColumns_nodup (hs : s.Fits d) (hd : d.Describes decl) : (s.resultColumns d).Nodup := by
  unfold State.resultColumns
  split
  · exact hd.columns_nodup
  · exact hs.distinct

/-- The statement of a state that fits. -/
theorem compile (hs : s.Fits d) (hd : d.Describes decl) (settings : Settings) :
    s.compile settings = .ok ⟨String.ofList (s.sqlText settings d.table (s.resultColumns d)),
      s.predicates.flatMap (·.args), s.resultColumns d⟩ := by
  obtain ⟨fs, hf, -, hm⟩ := hs.projectedFields hd
  simp only [State.compile, hs.entity, hf, hm]

/-- The binder of the columns of the result has the fields projected. -/
theorem binder (hs : s.Fits d) (hd : d.Describes decl) :
    ∃ fs, s.projectedFields = .ok fs ∧ Binder.ofColumns d (s.resultColumns d) = .ok ⟨d, fs⟩ := by
  obtain ⟨fs, hf, hmem, hm⟩ := hs.projectedFields hd
  refine ⟨fs, hf, ?_⟩
  rw [← hm, Binder.ofColumns, fieldsOf_columns hd hmem]

end State.Fits

/-! ## Queries of a session -/

variable {E : Type} [Entity E]

/-- The builder after some calls. -/
def Builder.run (b : Builder E) (calls : List Call) : Builder E := calls.foldl (fun b c => (b.call c).2) b

theorem Builder.call_opened {b : Builder E} (h : b.phase = .opened) (c : Call) :
    (b.call c).2 = { b with state := b.state.after c } := by
  obtain ⟨state, settings, phase⟩ := b
  subst h
  simp only [Builder.call, Builder.ensureOpen, State.after]
  cases state.apply c with
  | ok state' => rfl
  | error e => rfl

theorem Builder.call_taken {b : Builder E} (h : b.phase = .opened) {c : Call} {s : State} (hs : b.state.Takes c s) :
    b.call c = (.ok (), { b with state := s }) := by
  simp only [call, ensureOpen, h, hs.apply]

theorem Builder.run_opened {b : Builder E} (h : b.phase = .opened) (calls : List Call) :
    b.run calls = { b with state := b.state.run calls } := by
  induction calls generalizing b with
  | nil => rfl
  | cons c calls ih =>
    show (b.call c).2.run calls = _
    rw [Builder.call_opened h c, ih (b := { b with state := b.state.after c }) h, State.run_cons]

theorem Builder.compile_run_opened {b : Builder E} (h : b.phase = .opened) (calls : List Call) :
    (b.run calls).compile = (b.state.run calls).compile b.settings := by
  rw [run_opened h]
  simp only [compile, ensureOpen, h]

/-- A session hands out open queries for what the entity type declares. -/
theorem Session.query_eq_ok {declared : TypeKey → Declaration} {session : Session}
    (hr : session.registry.Reach declared) (hE : declared (Entity.key E) = Entity.declaration E) {b : Builder E}
    (h : (session.query E).1 = .ok b) :
    ∃ d, d.Describes (Entity.declaration E) ∧ (Entity.declaration E).describe = .ok d ∧
      b = ⟨State.ofEntity d, session.settings, .opened⟩ := by
  unfold Session.query at h
  split at h
  · rename_i entry registry he
    cases h
    have hd : (Entity.declaration E).describe = .ok entry.descriptor := by
      rw [← hE]
      exact reach_describe hr (by rw [hE, he])
    exact ⟨entry.descriptor, describe_describes hd, hd, rfl⟩
  · cases h

/-- After any calls, a query of a session still selects from the entity it was made for and
    names only columns of it, each projected once; it compiles, to a statement with some
    columns and none twice; and the binder of these columns has the fields projected. -/
theorem open_query_binds {declared : TypeKey → Declaration} {session : Session} {b : Builder E}
    (hr : session.registry.Reach declared) (hE : declared (Entity.key E) = Entity.declaration E)
    (hb : (session.query E).1 = .ok b) (calls : List Call) :
    ∃ d, (Entity.declaration E).describe = .ok d ∧ b.state.entity = some d ∧ (b.run calls).state.Fits d ∧
      ∃ statement fields, (b.run calls).compile = .ok statement ∧
        (b.run calls).state.projectedFields = .ok fields ∧ statement.columns ≠ [] ∧ statement.columns.Nodup ∧
        Binder.ofColumns d statement.columns = .ok ⟨d, fields⟩ := by
  obtain ⟨d, hd, hdecl, rfl⟩ := Session.query_eq_ok hr hE hb
  have hs : ((State.ofEntity d).run calls).Fits d := (State.fits_ofEntity d).run hd calls
  obtain ⟨fields, hf, hbind⟩ := hs.binder hd
  rw [Builder.run_opened rfl]
  exact ⟨d, hdecl, rfl, hs, _, fields, hs.compile hd session.settings, hf, State.Fits.resultColumns_ne_nil hd,
    hs.resultColumns_nodup hd, hbind⟩

def userDescriptor : Descriptor := ⟨"User", "users", [⟨0, "id", "id", .unsigned, false, true⟩,
  ⟨1, "name", "name", .text, false, false⟩, ⟨2, "email", "email", .text, true, false⟩], some 0,
  [("id", 0), ("name", 1), ("email", 2)]⟩

/-- Columns known and unknown, known ones also twice. -/
def userCalls : List Call := [.select ["email", "gone"], .select ["email", "id", "email"], .orderBy "gone" .asc,
  .filter "id = ?" [], .filterIn "name" [], .select ["name", "id"], .limit 3]

open Samples in
theorem open_query_binds_user :
    ∃ b : Builder userEntity.Record,
      (({ settings := ⟨.dollar, true⟩ } : Session).query userEntity.Record).1 = .ok b ∧
      (b.run userCalls).state.projection = ["email", "id", "name"] ∧
      ∃ statement fields, (b.run userCalls).compile = .ok statement ∧ statement.columns.Nodup ∧
        Binder.ofColumns userDescriptor statement.columns = .ok ⟨userDescriptor, fields⟩ := by
  have hb : (({ settings := ⟨.dollar, true⟩ } : Session).query userEntity.Record).1 =
      .ok ⟨State.ofEntity userDescriptor, ⟨.dollar, true⟩, .opened⟩ := rfl
  have hr : Registry.Reach (fun _ => userEntity.expansion.declaration) {} := .empty
  obtain ⟨d, -, hd, -, statement, fields, hc, -, -, hnodup, hbind⟩ :=
    open_query_binds (E := userEntity.Record) hr rfl hb userCalls
  cases hd
  exact ⟨_, hb, by decide, statement, fields, hc, hnodup, hbind⟩

end EntityQuery.Query
