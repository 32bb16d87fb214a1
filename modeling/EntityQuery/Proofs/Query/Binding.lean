/-
  EntityQuery.Proofs.Query.Binding — what a failure leaves of a destination.

  A row is looked at as a whole before anything is stored, so that a failure finds the
  destination untouched. That rests on the entity: what its check lets through, its storing
  may still refuse, and then the cells before the refused one have been stored. Entities
  are assumed `Steady` here: a refused value by itself changes nothing.

  A row `Tears` an entity when it gets past all checks and is refused after the entity has
  changed.
  - `bindRow_unchanged_iff`, `bindRows_unchanged_iff`: a failure leaves the destination as it
    was, but for exactly these rows; an optional entity and a list are never torn.
  - `not_tears_of_checks`: an entity that checks whatever it may refuse is never torn.
  - `spares_iff_no_torn_pair`: nothing that a binder of an entity binds is ever torn if and only
    if no two cells can do it.
  - `Builder.find_unchanged_iff`, `Builder.not_tears_of_checks`: the same for running a query.
  - `error_spares_untorn`: all of it together; `counter_torn` is an entity that leaves its
    checks to its storing.
-/
import EntityQuery.Proofs.Query.Run

namespace EntityQuery.Query

open Schema

/-- A refused value by itself leaves the entity as it was. -/
def Steady (E : Type) [Entity E] : Prop :=
  ∀ (index : Nat) (v : Value) (entity : E) (e : ExtractError), (Entity.bindField index v entity).1 = .error e →
    (Entity.bindField index v entity).2 = entity

/-- Whatever gets past the check can be stored. -/
def Checks (E : Type) [Entity E] : Prop :=
  ∀ (index : Nat) (v : Value), Entity.checkField E index v = .ok () →
    ∀ entity : E, (Entity.bindField index v entity).1 = .ok ()

variable {E : Type} [Entity E]

namespace Binder

variable {b : Binder} {cells rest : List (Field × Value)} {entity stored : E} {row : Row} {rows : List Row}

/-! ## Cells -/

theorem checkCell_eq_ok_iff {f : Field} {v : Value} : b.checkCell E f v = .ok () ↔
    (f.nullable = false → v.isNull = false) ∧ Entity.checkField E f.index v = .ok () := by
  unfold checkCell
  cases hn : f.nullable with
  | true => cases Entity.checkField E f.index v <;> simp
  | false =>
    cases hv : v.isNull with
    | true => simp
    | false => cases Entity.checkField E f.index v <;> simp

theorem checkCells_eq_ok_iff :
    b.checkCells E cells = .ok () ↔ ∀ cell ∈ cells, b.checkCell E cell.1 cell.2 = .ok () := by
  induction cells with
  | nil => simp [checkCells]
  | cons cell cells ih =>
    rw [List.forall_mem_cons, ← ih, checkCells]
    cases b.checkCell E cell.1 cell.2 with
    | ok => simp
    | error e => simp

theorem storeCells_append (h : b.storeCells cells entity = (.ok (), stored)) :
    b.storeCells (cells ++ rest) entity = b.storeCells rest stored := by
  induction cells generalizing entity with
  | nil => cases h; rfl
  | cons cell cells ih =>
    obtain ⟨f, v⟩ := cell
    rw [List.cons_append, storeCells]
    rw [storeCells] at h
    rcases hb : Entity.bindField f.index v entity with ⟨⟨e⟩ | ⟨⟩, entity'⟩
    · rw [hb] at h; cases h
    · rw [hb] at h; exact ih h

/-- Storing goes through, or stops at the first cell that is refused. -/
theorem storeCells_cases (cells : List (Field × Value)) (entity : E) :
    (∃ stored, b.storeCells cells entity = (.ok (), stored)) ∨
      ∃ before f v after stored e refused, cells = before ++ (f, v) :: after ∧
        b.storeCells before entity = (.ok (), stored) ∧ Entity.bindField f.index v stored = (.error e, refused) ∧
        b.storeCells cells entity = (.error (b.conversionError f e), refused) := by
  induction cells generalizing entity with
  | nil => exact Or.inl ⟨entity, rfl⟩
  | cons cell cells ih =>
    obtain ⟨f, v⟩ := cell
    rcases hb : Entity.bindField f.index v entity with ⟨⟨e⟩ | ⟨⟩, entity'⟩
    · exact Or.inr ⟨[], f, v, cells, entity, e, entity', rfl, rfl, hb, by rw [storeCells, hb]⟩
    · have step : ∀ cells, b.storeCells ((f, v) :: cells) entity = b.storeCells cells entity' := by
        intro cells; rw [storeCells, hb]
      rw [step]
      rcases ih entity' with ⟨stored, hs⟩ | ⟨before, g, w, after, stored, e, refused, rfl, hs, hg, he⟩
      · exact Or.inl ⟨stored, hs⟩
      · exact Or.inr ⟨(f, v) :: before, g, w, after, stored, e, refused, rfl, by rw [step, hs], hg, he⟩

/-! ## One row -/

/-- The row gets past the checks, and is refused when cells before have changed the entity. -/
def Tears (b : Binder) (row : Row) (entity : E) : Prop :=
  row.size = b.width ∧ b.checkCells E (b.fields.zip row.cells) = .ok () ∧
    ∃ before f v after stored e, b.fields.zip row.cells = before ++ (f, v) :: after ∧
      b.storeCells before entity = (.ok (), stored) ∧ (Entity.bindField f.index v stored).1 = .error e ∧
      stored ≠ entity

/-- A row of the right width that gets past the checks is stored cell by cell. -/
theorem bindRow_of_checked (hw : row.size = b.width) (hc : b.checkCells E (b.fields.zip row.cells) = .ok ()) :
    b.bindRow row entity = b.storeCells (b.fields.zip row.cells) entity := by
  simp only [bindRow, hw, hc, ne_eq, not_true_eq_false, if_false]

theorem bindRow_of_tears (hE : Steady E) (h : b.Tears row entity) :
    (b.bindRow row entity).2 ≠ entity := by
  obtain ⟨hw, hc, before, f, v, after, stored, e, hcells, hs, he, hne⟩ := h
  rw [bindRow_of_checked hw hc, hcells, storeCells_append hs, storeCells]
  have hstay := hE f.index v stored e he
  rcases hb : Entity.bindField f.index v stored with ⟨⟨e'⟩ | ⟨⟩, refused⟩
  · rw [hb] at hstay
    show refused ≠ entity
    rw [show refused = stored from hstay]
    exact hne
  · rw [hb] at he; cases he

/-- A row that does not go through leaves the entity as it was, unless it tears it. -/
theorem bindRow_unchanged_iff (hE : Steady E) {e : QueryError} (h : (b.bindRow row entity).1 = .error e) :
    (b.bindRow row entity).2 = entity ↔ ¬ b.Tears row entity := by
  constructor
  · intro hu ht
    exact bindRow_of_tears hE ht hu
  · intro ht
    by_cases hw : row.size = b.width
    · cases hc : b.checkCells E (b.fields.zip row.cells) with
      | error e => simp only [bindRow, hw, hc, ne_eq, not_true_eq_false, if_false]
      | ok =>
        rw [bindRow_of_checked hw hc] at h ⊢
        rcases storeCells_cases (b.fields.zip row.cells) entity with
          ⟨stored, hs⟩ | ⟨before, f, v, after, stored, e, refused, hcells, hs, hf, he⟩
        · rw [hs] at h; cases h
        · have hstay := hE f.index v stored e (by rw [hf])
          rw [hf] at hstay
          rw [he]
          show refused = entity
          rw [show refused = stored from hstay]
          refine Classical.byContradiction fun hne => ht ?_
          exact ⟨hw, hc, before, f, v, after, stored, e, hcells, hs, by rw [hf], hne⟩
    · simp [bindRow, hw]

/-- An entity that checks whatever it may refuse is never torn. -/
theorem not_tears_of_checks (hE : Checks E) : ¬ b.Tears row entity := by
  rintro ⟨-, hc, before, f, v, after, stored, e, hcells, -, he, -⟩
  have hcell := checkCells_eq_ok_iff.mp hc (f, v) (by rw [hcells]; simp)
  rw [hE f.index v (checkCell_eq_ok_iff.mp hcell).2 stored] at he
  cases he

/-! ## All rows -/

/-- Some rows tear a destination; only a single entity can be torn, by the first of them. -/
def TearsAt (b : Binder) (rows : List Row) : (shape : Shape) → shape.Of E → Prop
  | .one, entity => ∃ row rest, rows = row :: rest ∧ b.Tears row entity
  | .optional, _ => False
  | .many, _ => False

/-- Rows that do not go through leave the destination as it was, unless they tear it. -/
theorem bindRows_unchanged_iff [Inhabited E] (hE : Steady E) {shape : Shape} {destination : shape.Of E} {e : QueryError}
    (h : (b.bindRows rows shape destination).1 = .error e) :
    (b.bindRows rows shape destination).2 = destination ↔ ¬ b.TearsAt rows shape destination := by
  cases shape with
  | one =>
    cases rows with
    | nil => cases h
    | cons row rows =>
      rcases hb : b.bindRow row destination with ⟨⟨e'⟩ | ⟨⟩, entity⟩
      · have hrow := bindRow_unchanged_iff hE (e := e') (congrArg Prod.fst hb)
        simp only [bindRows, hb] at hrow ⊢
        refine hrow.trans (not_congr ?_)
        constructor
        · intro ht; exact ⟨row, rows, rfl, ht⟩
        · rintro ⟨row', rest, heq, ht⟩
          cases heq
          exact ht
      · simp only [bindRows, hb] at h; cases h
  | optional =>
    cases rows with
    | nil => cases h
    | cons row rows =>
      cases hb : b.bindFresh E row with
      | ok entity => simp only [bindRows, hb] at h; cases h
      | error e' => simp [bindRows, hb, TearsAt]
  | many =>
    cases hb : b.bindAll E rows with
    | ok entities => simp only [bindRows, hb] at h; cases h
    | error e' => simp [bindRows, hb, TearsAt]

end Binder

/-! ## Two cells are enough -/

/-- The last cell that changed an entity. -/
theorem exists_change {b : Binder} {cells : List (Field × Value)} {entity stored : E}
    (h : b.storeCells cells entity = (.ok (), stored)) (hne : stored ≠ entity) :
    ∃ f v before, (f, v) ∈ cells ∧ Entity.bindField f.index v before = (.ok (), stored) ∧ stored ≠ before := by
  induction cells generalizing entity with
  | nil => cases h; exact absurd rfl hne
  | cons cell cells ih =>
    obtain ⟨f, v⟩ := cell
    rw [Binder.storeCells] at h
    rcases hb : Entity.bindField f.index v entity with ⟨⟨e⟩ | ⟨⟩, entity'⟩
    · rw [hb] at h; cases h
    · rw [hb] at h
      by_cases same : stored = entity'
      · subst same
        exact ⟨f, v, entity, by simp, hb, hne⟩
      · obtain ⟨g, w, before, hm, hg, hd⟩ := ih h same
        exact ⟨g, w, before, List.mem_cons_of_mem _ hm, hg, hd⟩

theorem mem_of_fieldsOf {d : Descriptor} {columns : List String} {fs : List Field} (hf : fieldsOf d columns = .ok fs) :
    ∀ f ∈ fs, ∃ c, d.field? c = some f := by
  induction columns generalizing fs with
  | nil => cases hf; simp
  | cons c columns ih =>
    unfold fieldsOf at hf
    split at hf
    · cases hf
    · rename_i f hc
      split at hf
      · rename_i rest hrest
        cases hf
        exact List.forall_mem_cons.mpr ⟨⟨c, hc⟩, ih hrest⟩
      · cases hf

/-- A binder for columns of a descriptor has fields of that descriptor. -/
theorem mem_fields_of_fieldsOf {d : Descriptor} {decl : Declaration} (hd : d.Describes decl) {columns : List String}
    {fs : List Field} (hf : fieldsOf d columns = .ok fs) {f : Field} (hm : f ∈ fs) : f ∈ d.fields := by
  obtain ⟨c, hc⟩ := mem_of_fieldsOf hf f hm
  exact (hd.field?_eq_some_iff.mp hc).1

theorem Binder.ofColumns_eq_ok {d : Descriptor} {columns : List String} {b : Binder}
    (hb : Binder.ofColumns d columns = .ok b) :
    ∃ fields, fieldsOf d columns = .ok fields ∧ b = ⟨d, fields⟩ := by
  unfold Binder.ofColumns at hb
  split at hb
  · rename_i fields hfields
    cases hb
    exact ⟨fields, hfields, rfl⟩
  · cases hb

/-- Of two cells of an entity that get past the checks, the first changes it and the second
    is refused then. -/
def TornPair (E : Type) [Entity E] (d : Descriptor) : Prop :=
  ∃ (f g : Field) (v w : Value) (entity stored : E) (e : ExtractError), f ∈ d.fields ∧ g ∈ d.fields ∧
    (∀ b : Binder, b.checkCell E f v = .ok ()) ∧ (∀ b : Binder, b.checkCell E g w = .ok ()) ∧
    Entity.bindField f.index v entity = (.ok (), stored) ∧ stored ≠ entity ∧
    (Entity.bindField g.index w stored).1 = .error e

/-- No row tears what the binders of an entity bind if and only if no two cells can. -/
theorem spares_iff_no_torn_pair {d : Descriptor} {decl : Declaration} (hd : d.Describes decl) :
    (∀ columns b, Binder.ofColumns d columns = .ok b → ∀ (row : Row) (entity : E), ¬ b.Tears row entity) ↔
      ¬ TornPair E d := by
  constructor
  · rintro h ⟨f, g, v, w, entity, stored, e, hf, hg, hv, hw, hs, hne, he⟩
    have hb : Binder.ofColumns d [f.column, g.column] = .ok ⟨d, [f, g]⟩ := by
      unfold Binder.ofColumns
      rw [show [f.column, g.column] = [f, g].map (·.column) from rfl, fieldsOf_columns hd (by simp [hf, hg])]
    refine h _ _ hb ⟨[v, w]⟩ entity ⟨rfl, ?_, [(f, v)], g, w, [], stored, e, rfl, ?_, he, hne⟩
    · exact Binder.checkCells_eq_ok_iff.mpr (by simp [hv, hw])
    · simp only [Binder.storeCells, hs]
  · rintro h columns b hb row entity ⟨-, hc, before, g, w, after, stored, e, hcells, hs, he, hne⟩
    -- The pair is the last cell that changed the entity and the one refused after it.
    obtain ⟨f, v, earlier, hm, hf, hd'⟩ := exists_change hs hne
    have known : ∀ cell ∈ b.fields.zip row.cells,
        cell.1 ∈ d.fields ∧ ∀ b : Binder, b.checkCell E cell.1 cell.2 = .ok () := by
      intro cell hcell
      constructor
      · obtain ⟨fs, hfs, rfl⟩ := Binder.ofColumns_eq_ok hb
        exact mem_fields_of_fieldsOf hd hfs (List.of_mem_zip hcell).1
      · intro b'
        exact Binder.checkCell_eq_ok_iff.mpr
          (Binder.checkCell_eq_ok_iff.mp (Binder.checkCells_eq_ok_iff.mp hc cell hcell))
    obtain ⟨hfm, hfc⟩ := known (f, v) (by rw [hcells]; exact List.mem_append_left _ hm)
    obtain ⟨hgm, hgc⟩ := known (g, w) (by rw [hcells]; simp)
    exact h ⟨f, g, v, w, earlier, stored, e, hfm, hgm, hfc, hgc, hf, hd', he⟩

/-! ## Running a query -/

variable [Inhabited E] {σ : Type}

/-- The binder and the rows that running a query gets to; none if it fails before. -/
def Builder.reached (b : Builder E) (executor : Executor σ) (s : σ) : Option (Binder × List Row) :=
  match b.compile, b.state.entity with
  | .ok statement, some d => match (executor statement s).1, Binder.ofColumns d statement.columns with
    | .ok rows, .ok binder => some (binder, rows)
    | _, _ => none
  | _, _ => none

/-- The rows that a query gets to tear the destination. -/
def Builder.Tears (b : Builder E) (executor : Executor σ) (s : σ) (shape : Shape) (destination : shape.Of E) : Prop :=
  ∃ binder rows, b.reached executor s = some (binder, rows) ∧ binder.TearsAt rows shape destination

theorem Builder.find_cases (b : Builder E) (executor : Executor σ) (shape : Shape) (destination : shape.Of E) (s : σ) :
    (b.reached executor s = none ∧ (∃ e, (b.find executor shape destination s).1 = .error e) ∧
      (b.find executor shape destination s).2.2.1 = destination) ∨
    ∃ binder rows, b.reached executor s = some (binder, rows) ∧
      (b.find executor shape destination s).1 = (binder.bindRows rows shape destination).1 ∧
      (b.find executor shape destination s).2.2.1 = (binder.bindRows rows shape destination).2 := by
  unfold Builder.reached Builder.find Builder.compile
  cases b.ensureOpen with
  | error e => exact Or.inl ⟨rfl, ⟨e, rfl⟩, rfl⟩
  | ok =>
    cases b.state.compile b.settings with
    | error e => exact Or.inl ⟨rfl, ⟨e, rfl⟩, rfl⟩
    | ok statement =>
      cases b.state.entity with
      | none => exact Or.inl ⟨rfl, ⟨_, rfl⟩, rfl⟩
      | some d =>
        rcases hx : executor statement s with ⟨cause | rows, s'⟩
        · exact Or.inl ⟨by simp only [hx], ⟨_, by simp only [fetch, hx]; rfl⟩, by simp only [fetch, hx]⟩
        · cases hb : Binder.ofColumns d statement.columns with
          | error e =>
            exact Or.inl ⟨by simp only [hx, hb], ⟨e, by simp only [fetch, hx, hb]⟩, by simp only [fetch, hx, hb]⟩
          | ok binder =>
            refine Or.inr ⟨binder, rows, ?_, ?_, ?_⟩
            · simp only [hx, hb]
            · simp only [fetch, hx, hb]
            · simp only [fetch, hx, hb]

/-- A query that fails leaves the destination as it was, unless its rows tear it. -/
theorem Builder.find_unchanged_iff (hE : Steady E) {b : Builder E} {executor : Executor σ} {s : σ} {shape : Shape}
    {destination : shape.Of E} {e : QueryError} (h : (b.find executor shape destination s).1 = .error e) :
    (b.find executor shape destination s).2.2.1 = destination ↔ ¬ b.Tears executor s shape destination := by
  rcases b.find_cases executor shape destination s with ⟨hr, -, hd⟩ | ⟨binder, rows, hr, h1, h2⟩
  · constructor
    · rintro - ⟨binder, rows, hr', -⟩
      rw [hr] at hr'
      cases hr'
    · intro _; exact hd
  · rw [h1] at h
    rw [h2]
    refine (Binder.bindRows_unchanged_iff hE h).trans (not_congr ?_)
    constructor
    · intro ht; exact ⟨binder, rows, hr, ht⟩
    · rintro ⟨binder', rows', hr', ht⟩
      rw [hr] at hr'
      cases hr'
      exact ht

omit [Inhabited E] in
theorem Builder.not_tears_of_checks (hE : Checks E) (b : Builder E) (executor : Executor σ) (s : σ) (shape : Shape)
    (destination : shape.Of E) : ¬ b.Tears executor s shape destination := by
  rintro ⟨binder, rows, -, ht⟩
  cases shape with
  | one =>
    obtain ⟨row, rest, -, ht⟩ := ht
    exact Binder.not_tears_of_checks hE ht
  | optional => exact ht
  | many => exact ht

/-- Whatever fails, from the phase of the query down to the last cell, leaves the destination
    as it was, but for the rows that tear it: at running a query, at binding rows and at
    binding one row. -/
theorem error_spares_untorn (hE : Steady E) (b : Builder E) (executor : Executor σ) (s : σ) (binder : Binder)
    (rows : List Row) (shape : Shape) (destination : shape.Of E) (row : Row) (entity : E) (e : QueryError) :
    ((b.find executor shape destination s).1 = .error e →
      ((b.find executor shape destination s).2.2.1 = destination ↔ ¬ b.Tears executor s shape destination)) ∧
    ((binder.bindRows rows shape destination).1 = .error e →
      ((binder.bindRows rows shape destination).2 = destination ↔ ¬ binder.TearsAt rows shape destination)) ∧
    ((binder.bindRow row entity).1 = .error e →
      ((binder.bindRow row entity).2 = entity ↔ ¬ binder.Tears row entity)) :=
  ⟨Builder.find_unchanged_iff hE, Binder.bindRows_unchanged_iff hE, Binder.bindRow_unchanged_iff hE⟩

open Samples

def counterDescriptor : Descriptor := ⟨"Counter", "counters", [⟨0, "hits", "hit_count", .unsigned, false, false⟩,
  ⟨1, "label", "label", .text, false, false⟩, ⟨2, "ratio", "ratio", .float, true, false⟩,
  ⟨3, "ghost", "ghost", .other, true, false⟩], none, [("hit_count", 0), ("label", 1), ("ratio", 2), ("ghost", 3)]⟩

/-- Counters with their hits and labels. -/
def counterQuery : Builder Counter :=
  Builder.run ⟨State.ofEntity counterDescriptor, {}, .opened⟩ [.select ["hit_count", "label"]]

/-- One row, with a number in the place of a label. -/
def mislabelled : Executor Unit := fun _ s => (.ok [⟨[.bigUnsigned (some 5), .int (some 3)]⟩], s)

theorem counter_steady : Steady Counter := by
  intro index v c e h
  simp only [Entity.bindField, Counter.bindField] at h ⊢
  split at h
  · split at h
    · cases h
    · rfl
  · split at h
    · cases h
    · rfl
  · split at h
    · cases h
    · rfl
  · rfl

theorem error_spares_counters :
    Steady Counter ∧ ∃ e, (counterQuery.find mislabelled .many [] ()).1 = .error e ∧
      (counterQuery.find mislabelled .many [] ()).2.2.1 = [] := by
  have he : (counterQuery.find mislabelled .many [] ()).1 =
      .error (.valueConversion "Counter" "label" (.typeMismatch "String" (.int (some 3)))) := rfl
  have h := (error_spares_untorn counter_steady counterQuery mislabelled () ⟨counterDescriptor, []⟩ [] .many [] ⟨[]⟩
    default _).1 he
  refine ⟨counter_steady, _, he, h.mpr ?_⟩
  rintro ⟨binder, rows, -, ht⟩
  exact ht

/-- A counter has no check of its own, so that its hits are stored before its label is
    refused. -/
theorem counter_torn :
    Steady Counter ∧ (({} : Session).query Counter).1 = .ok ⟨State.ofEntity counterDescriptor, {}, .opened⟩ ∧
      (counterQuery.find mislabelled .one default ()).1 =
        .error (.valueConversion "Counter" "label" (.typeMismatch "String" (.int (some 3)))) ∧
      (counterQuery.find mislabelled .one default ()).2.2.1 = ⟨5, "", ⟨0⟩⟩ ∧
      (counterQuery.find mislabelled .one default ()).2.2.1 ≠ default := by
  refine ⟨counter_steady, rfl, rfl, rfl, ?_⟩
  rw [show (counterQuery.find mislabelled .one default ()).2.2.1 = ⟨5, "", ⟨0⟩⟩ from rfl]
  decide

end EntityQuery.Query
