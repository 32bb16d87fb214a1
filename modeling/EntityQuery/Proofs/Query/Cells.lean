/-
  EntityQuery.Proofs.Query.Cells — a row bound onto an entity, cell by cell.

  A row is gone through twice: every cell is checked, and then every cell is stored. An entity
  that checks whatever it may refuse gets through the second time if it got through the first,
  so that the first cell that does not fit decides what is reported, and nothing has been stored
  then.

  `CellFits` is what a cell has to be for its field, and `Reports` what is said of one that is
  not. Fields are known to an entity by their index alone, which a descriptor of another
  declaration may have wrong, and a projection may name a field several times. `Stored` says
  for every member of a derived entity what it holds afterwards: the value of the last cell
  that goes to it, or what it held before.
  - `checkCells_eq_error`: a refusal is about the first cell that does not fit.
  - `bindRow_cases`: a row is stored, or refused without a trace.
  - `storeCells_stored`: what storing leaves in every member.
  - `derived_row_by_cells`: all of it together, for derived entities and any descriptor.
-/
import EntityQuery.Proofs.Derive.Accessors
import EntityQuery.Proofs.Query.Filled

namespace EntityQuery.Query

open Schema Derive

/-! ## One cell -/

section Cells

variable {E : Type} [Entity E]

/-- The cell is one for the field: no NULL unless the field may be missing, and nothing that the
    entity's check refuses. -/
structure CellFits (E : Type) [Entity E] (f : Field) (v : Value) : Prop where
  present : f.nullable = false → v.isNull = false
  checked : Entity.checkField E f.index v = .ok ()

/-- The cell is a NULL where none is allowed, or the entity's check takes it for one. -/
def FoundNull (E : Type) [Entity E] (f : Field) (v : Value) : Prop :=
  (f.nullable = false ∧ v.isNull = true) ∨ Entity.checkField E f.index v = .error .nullValue

/-- What is reported of a cell that does not fit; the cause of a conversion error is that of the
    entity's check, and never a NULL. -/
inductive Reports (E : Type) [Entity E] (d : Descriptor) (f : Field) (v : Value) : QueryError → Prop
  | null : FoundNull E f v → Reports E d f v (.nullabilityViolation d.name f.column)
  | conversion {cause : ExtractError} : ¬ FoundNull E f v → Entity.checkField E f.index v = .error cause →
      cause ≠ .nullValue → Reports E d f v (.valueConversion d.name f.column cause)

variable {b : Binder} {f : Field} {v : Value} {cells : List (Field × Value)} {e : QueryError}

theorem checkCell_eq_ok_iff_fits : b.checkCell E f v = .ok () ↔ CellFits E f v := by
  rw [Binder.checkCell_eq_ok_iff]
  exact ⟨fun h => ⟨h.1, h.2⟩, fun h => ⟨h.present, h.checked⟩⟩

theorem checkCell_eq_error (h : b.checkCell E f v = .error e) : ¬ CellFits E f v ∧ Reports E b.descriptor f v e := by
  constructor
  · intro hfits
    rw [checkCell_eq_ok_iff_fits.mpr hfits] at h
    cases h
  · unfold Binder.checkCell at h
    split at h
    · rename_i hnull
      rw [Bool.and_eq_true_iff, Bool.not_eq_true'] at hnull
      cases h
      exact .null (Or.inl hnull)
    · rename_i hnull
      rw [Bool.and_eq_true_iff, Bool.not_eq_true'] at hnull
      cases hc : Entity.checkField E f.index v with
      | ok u => rw [hc] at h; cases h
      | error cause =>
        rw [hc] at h
        cases h
        have hfound : FoundNull E f v ↔ cause = .nullValue := by
          rw [FoundNull, or_iff_right hnull, hc, Except.error.injEq]
        cases cause with
        | nullValue => exact .null (hfound.mpr rfl)
        | typeMismatch | conversion | unknownField =>
          exact .conversion (fun hn => nomatch hfound.mp hn) hc nofun

/-! ## One row -/

/-- Checking refuses a row for the first cell that does not fit. -/
theorem checkCells_eq_error (h : b.checkCells E cells = .error e) :
    ∃ before f v after, cells = before ++ (f, v) :: after ∧ (∀ cell ∈ before, CellFits E cell.1 cell.2) ∧
      ¬ CellFits E f v ∧ Reports E b.descriptor f v e := by
  induction cells with
  | nil => cases h
  | cons cell cells ih =>
    obtain ⟨f, v⟩ := cell
    rw [Binder.checkCells] at h
    cases hc : b.checkCell E f v with
    | error e' =>
      rw [hc] at h
      cases h
      exact ⟨[], f, v, cells, rfl, by simp, checkCell_eq_error hc⟩
    | ok =>
      rw [hc] at h
      obtain ⟨before, g, w, after, rfl, hbefore, hg⟩ := ih h
      exact ⟨(f, v) :: before, g, w, after, rfl,
        List.forall_mem_cons.mpr ⟨checkCell_eq_ok_iff_fits.mp hc, hbefore⟩, hg⟩

/-- What is reported of a row that is refused. -/
def Refuses (E : Type) [Entity E] (b : Binder) (row : Row) (e : QueryError) : Prop :=
  (row.size ≠ b.width ∧ e = .bindShape b.width row.size) ∨
    (row.size = b.width ∧ ∃ before f v after, b.fields.zip row.cells = before ++ (f, v) :: after ∧
      (∀ cell ∈ before, CellFits E cell.1 cell.2) ∧ ¬ CellFits E f v ∧ Reports E b.descriptor f v e)

/-- A row is stored, its cells fitting, or it is refused and the entity is as it was. -/
theorem bindRow_cases (hE : Checks E) (b : Binder) (row : Row) (old : E) :
    (row.size = b.width ∧ (∀ cell ∈ b.fields.zip row.cells, CellFits E cell.1 cell.2) ∧
      ∃ new, b.storeCells (b.fields.zip row.cells) old = (.ok (), new) ∧ b.bindRow row old = (.ok (), new)) ∨
    ∃ e, Refuses E b row e ∧ b.bindRow row old = (.error e, old) := by
  by_cases hw : row.size = b.width
  · cases hc : b.checkCells E (b.fields.zip row.cells) with
    | error e =>
      refine Or.inr ⟨e, Or.inr ⟨hw, checkCells_eq_error hc⟩, ?_⟩
      simp only [Binder.bindRow, hw, hc, ne_eq, not_true_eq_false, if_false]
    | ok =>
      have hfits : ∀ cell ∈ b.fields.zip row.cells, CellFits E cell.1 cell.2 := fun cell hm =>
        checkCell_eq_ok_iff_fits.mp (Binder.checkCells_eq_ok_iff.mp hc cell hm)
      rcases Binder.storeCells_cases (b.fields.zip row.cells) old with
        ⟨new, hs⟩ | ⟨before, f, v, after, stored, e, refused, hcells, -, hrefused, -⟩
      · exact Or.inl ⟨hw, hfits, new, hs, by rw [Binder.bindRow_of_checked hw hc, hs]⟩
      · -- What the check lets through is stored.
        have hcell := hfits (f, v) (by rw [hcells]; simp)
        have hstored := hE f.index v hcell.checked stored
        rw [hrefused] at hstored
        cases hstored
  · exact Or.inr ⟨_, Or.inl ⟨hw, rfl⟩, by simp [Binder.bindRow, hw]⟩

theorem bindRow_eq_ok_iff (hE : Checks E) (b : Binder) (row : Row) (old : E) : (b.bindRow row old).1 = .ok () ↔
    row.size = b.width ∧ ∀ cell ∈ b.fields.zip row.cells, CellFits E cell.1 cell.2 := by
  rcases bindRow_cases hE b row old with ⟨hw, hfits, new, -, hb⟩ | ⟨e, hrefuses, hb⟩
  · rw [hb]
    exact ⟨fun _ => ⟨hw, hfits⟩, fun _ => rfl⟩
  · rw [hb]
    refine ⟨nofun, fun ⟨hw, hfits⟩ => ?_⟩
    rcases hrefuses with ⟨hne, -⟩ | ⟨-, before, f, v, after, hcells, -, hunfit, -⟩
    · exact absurd hw hne
    · exact absurd (hfits (f, v) (by rw [hcells]; simp)) hunfit

end Cells

/-! ## The members of derived entities -/

variable {d : Derived}

/-- The cell goes to the member at a position. -/
def goesTo (d : Derived) (i : Fin d.definition.members.length) (cell : Field × Value) : Bool :=
  d.declaredMembers[cell.1.index]? = some i

/-- The last of the cells that go to a member. -/
def lastFor (d : Derived) (i : Fin d.definition.members.length) (cells : List (Field × Value)) : Option (Field × Value) :=
  (cells.filter (goesTo d i)).getLast?

/-- Every member that cells go to has the value of the last of them, and every other one, skipped
    or not, has what it had. -/
def Stored (cells : List (Field × Value)) (old new : d.Record) : Prop :=
  ∀ i, match lastFor d i cells with
    | some cell => (d.types (d.member i).type).read cell.2 = .ok (new.content i)
    | none => new.content i = old.content i

theorem lastFor_append (i : Fin d.definition.members.length) (cells rest : List (Field × Value)) :
    lastFor d i (cells ++ rest) = (lastFor d i rest).or (lastFor d i cells) := by
  rw [lastFor, List.filter_append, List.getLast?_append]
  rfl

theorem lastFor_singleton (i : Fin d.definition.members.length) (cell : Field × Value) :
    lastFor d i [cell] = if goesTo d i cell then some cell else none := by
  rw [lastFor, List.filter_singleton]
  cases goesTo d i cell <;> rfl

theorem storeCells_stored {b : Binder} {cells : List (Field × Value)} {old new : d.Record}
    (h : b.storeCells cells old = (.ok (), new)) : Stored cells old new := by
  induction cells generalizing old with
  | nil =>
    cases h
    intro i
    rfl
  | cons cell cells ih =>
    obtain ⟨f, v⟩ := cell
    rw [Binder.storeCells, Derived.bindField_eq] at h
    cases hi : d.declaredMembers[f.index]? with
    | none => simp only [hi] at h; cases h
    | some i =>
      cases hc : (d.types (d.member i).type).read v with
      | error e => simp only [hi, hc] at h; cases h
      | ok c =>
        simp only [hi, hc] at h
        intro j
        have hrest := ih h j
        rw [← List.singleton_append, lastFor_append, lastFor_singleton]
        cases hl : lastFor d j cells with
        | some cell => rw [hl] at hrest; exact hrest
        | none =>
          -- No later cell goes to this member, so that it has what this cell left there.
          rw [hl] at hrest
          by_cases hij : i = j
          · subst hij
            rw [show goesTo d i (f, v) = true by simp [goesTo, hi]]
            show (d.types (d.member i).type).read v = .ok (new.content i)
            rw [show new.content i = c from Eq.trans hrest (old.content_put_self i c), hc]
          · rw [show goesTo d j (f, v) = false by simp [goesTo, hi, hij]]
            exact Eq.trans hrest (old.content_put_ne c hij)

/-- The fields of columns are those that look-ups find, and have these columns. -/
theorem columns_of_fieldsOf {descriptor : Descriptor} {decl : Declaration} (hd : descriptor.Describes decl)
    {columns : List String} {fields : List Field} (h : fieldsOf descriptor columns = .ok fields) :
    columns.map descriptor.field? = fields.map some ∧ fields.map (·.column) = columns := by
  induction columns generalizing fields with
  | nil => cases h; exact ⟨rfl, rfl⟩
  | cons c columns ih =>
    unfold fieldsOf at h
    split at h
    · cases h
    · rename_i f hf
      split at h
      · rename_i rest hrest
        cases h
        obtain ⟨hlook, hmap⟩ := ih hrest
        have hc : f.column = c := (hd.field?_eq_some_iff.mp hf).2
        rw [List.map_cons, List.map_cons, List.map_cons, hf, hlook, hc, hmap]
        exact ⟨rfl, rfl⟩
      · cases h

/-- A row bound onto a derived entity by a binder for any columns of any descriptor. The binder
    has the fields of the columns. The row goes through exactly if it has a cell for every column and
    every cell fits, and then the members hold the last values that go to them. Otherwise
    the entity is as it was, and what is reported is the width, or the first cell that does
    not fit. -/
theorem derived_row_by_cells {d : Derived} {decl : Declaration} {descriptor : Descriptor}
    (hd : decl.describe = .ok descriptor) {columns : List String} {b : Binder}
    (hb : Binder.ofColumns descriptor columns = .ok b) (row : Row) (old : d.Record) :
    let cells := b.fields.zip row.cells
    let bound := b.bindRow row old
    columns.map descriptor.field? = b.fields.map some ∧ b.fields.map (·.column) = columns ∧
    (bound.1 = .ok () ↔ row.size = columns.length ∧ ∀ cell ∈ cells, CellFits d.Record cell.1 cell.2) ∧
    (bound.1 = .ok () → Stored cells old bound.2) ∧
    ∀ e, bound.1 = .error e → bound.2 = old ∧
      ((row.size ≠ columns.length ∧ e = .bindShape columns.length row.size) ∨
        (row.size = columns.length ∧ ∃ before f v after, cells = before ++ (f, v) :: after ∧
          (∀ cell ∈ before, CellFits d.Record cell.1 cell.2) ∧ ¬ CellFits d.Record f v ∧
          Reports d.Record descriptor f v e)) := by
  intro cells bound
  have hchecks := Filling.record_checks d
  obtain ⟨fields, hfields, rfl⟩ := Binder.ofColumns_eq_ok hb
  obtain ⟨hlook, hmap⟩ := columns_of_fieldsOf (describe_describes hd) hfields
  have hwidth : Binder.width ⟨descriptor, fields⟩ = columns.length := by
    rw [← hmap, List.length_map]
    rfl
  have hiff := bindRow_eq_ok_iff hchecks ⟨descriptor, fields⟩ row old
  rw [hwidth] at hiff
  refine ⟨hlook, hmap, hiff, ?_⟩
  rcases bindRow_cases hchecks ⟨descriptor, fields⟩ row old with ⟨-, -, new, hs, hbound⟩ | ⟨e, hrefuses, hbound⟩
  · rw [show bound = (.ok (), new) from hbound]
    refine ⟨fun _ => storeCells_stored hs, fun e he => ?_⟩
    cases he
  · rw [show bound = (.error e, old) from hbound]
    rw [Refuses, hwidth] at hrefuses
    refine ⟨fun hok => ?_, fun e' he => ?_⟩
    · cases hok
    · cases he
      exact ⟨rfl, hrefuses⟩

open Samples

/-- Columns of documents whose rows go onto users: the first one twice, or the last one, whose
    index is beyond those of users. -/
def documentIds : Binder := ⟨documentDescriptor, [⟨0, "id", "id", .integer, false, true⟩,
  ⟨0, "id", "id", .integer, false, true⟩]⟩

def documentPublished : Binder := ⟨documentDescriptor, [⟨0, "id", "id", .integer, false, true⟩,
  ⟨4, "published", "published", .boolean, false, false⟩]⟩

theorem userId_read :
    (userEntity.types (userEntity.member ⟨0, by decide⟩).type).read (.int (some 5)) = .ok (.integer 5) ∧
    (userEntity.types (userEntity.member ⟨0, by decide⟩).type).read (.int (some 7)) = .ok (.integer 7) := by
  show (memberType (fun _ => status) (.named "u32")).read _ = _ ∧ (memberType (fun _ => status) (.named "u32")).read _ = _
  rw [memberType_of_not_optional _ rfl]
  exact ⟨rfl, rfl⟩

theorem userId_fits {v : Value} {c : Content}
    (hc : (userEntity.types (userEntity.member ⟨0, by decide⟩).type).read v = .ok c) (hv : v.isNull = false) :
    CellFits userEntity.Record ⟨0, "id", "id", .integer, false, true⟩ v := by
  refine ⟨fun _ => hv, ?_⟩
  rw [Derived.checkField_eq, show userEntity.declaredMembers[0]? = some ⟨0, by decide⟩ by decide]
  dsimp only
  rw [hc]

/-- Rows of documents go onto users: the last id stays, and a flag has no member to go to. -/
theorem derived_row_by_cells_user :
    documentEntity.expansion.declaration.describe = .ok documentDescriptor ∧
    Binder.ofColumns documentDescriptor ["id", "id"] = .ok documentIds ∧
    Binder.ofColumns documentDescriptor ["id", "published"] = .ok documentPublished ∧
    (let bound := documentIds.bindRow (E := userEntity.Record) ⟨[.int (some 5), .int (some 7)]⟩ default
     bound.1 = .ok () ∧ bound.2.content ⟨0, by decide⟩ = .integer 7 ∧
      bound.2.content ⟨1, by decide⟩ = (default : userEntity.Record).content ⟨1, by decide⟩) ∧
    (let bound := documentPublished.bindRow (E := userEntity.Record) ⟨[.int (some 5), .bool (some true)]⟩ default
     bound.1 = .error (.valueConversion "Document" "published" (.unknownField 4)) ∧ bound.2 = default) := by
  have hd : documentEntity.expansion.declaration.describe = .ok documentDescriptor := rfl
  have hids : Binder.ofColumns documentDescriptor ["id", "id"] = .ok documentIds := rfl
  have hpublished : Binder.ofColumns documentDescriptor ["id", "published"] = .ok documentPublished := rfl
  have hfive := userId_fits userId_read.1 rfl
  have hseven := userId_fits userId_read.2 rfl
  refine ⟨hd, hids, hpublished, ?_, ?_⟩
  · obtain ⟨-, -, hiff, hstored, -⟩ := derived_row_by_cells (d := userEntity) hd hids
      ⟨[.int (some 5), .int (some 7)]⟩ default
    have hok := hiff.mpr ⟨rfl, by simp [documentIds, hfive, hseven]⟩
    have hfirst := hstored hok ⟨0, by decide⟩
    have hsecond := hstored hok ⟨1, by decide⟩
    exact ⟨hok, Except.ok.inj (hfirst.symm.trans userId_read.2), hsecond⟩
  · obtain ⟨-, -, hiff, -, hrefused⟩ := derived_row_by_cells (d := userEntity) hd hpublished
      ⟨[.int (some 5), .bool (some true)]⟩ default
    have hbeyond : Entity.checkField userEntity.Record 4 (.bool (some true)) = .error (.unknownField 4) := by
      rw [Derived.checkField_eq, show userEntity.declaredMembers[4]? = none by decide]
    cases hb : (documentPublished.bindRow ⟨[.int (some 5), .bool (some true)]⟩ (default : userEntity.Record)).1 with
    | ok =>
      have hfits := (hiff.mp hb).2 _ (List.mem_cons_of_mem _ (List.mem_cons_self ..))
      exact nomatch hbeyond.symm.trans hfits.checked
    | error e =>
      obtain ⟨hkept, ⟨hne, -⟩ | ⟨-, before, f, v, after, hcells, -, hunfit, hreports⟩⟩ := hrefused e hb
      · exact absurd rfl hne
      · -- The first cell fits, so that it is the second one.
        obtain - | ⟨first, before⟩ := before
        · injection hcells with hcell
          cases hcell
          exact absurd hfive hunfit
        · injection hcells with _ hrest
          obtain - | ⟨second, before⟩ := before
          · injection hrest with hcell
            cases hcell
            cases hreports with
            | null hfound => rcases hfound with ⟨-, h⟩ | h <;> exact nomatch h
            | conversion _ hcause _ =>
              cases hbeyond.symm.trans hcause
              exact ⟨hb, hkept⟩
          · injection hrest with _ hnone
            exact absurd hnone (by simp)

end EntityQuery.Query
