/-
  EntityQuery.Proofs.Query.Violations — a NULL for a field that may not be missing.

  A violation is reported in two ways. The binder looks at the value before anything else, and
  `isNull` knows the NULL of every kind but one: a missing value of an enumerated type is not
  among them. What gets past it is left to the conversion of the field, and counts as a NULL
  if that reports one. Scalars are not taken from enumerated values at all, so that for them a missing
  one is a mismatch like any other; a foreign type may report a NULL, report something else
  or take the value.

  `isVacant` is what carries nothing, of whatever kind.
  - `Value.isVacant_cases`: it is a NULL that the binder knows, or a missing enumerated value.
  - `bindRow_of_unfit`: the first cell that does not fit decides about the row, for any entity.
  - `violation_of_foundNull`, `foundNull_of_violation`: what is reported as a violation.
  - `vacant_violates_iff`: a field that may not be missing, and a cell that carries nothing.
    `enumerated_null_not_violation` has one that is not reported as a violation.
-/
import EntityQuery.Proofs.Query.Nulls

namespace EntityQuery

/-- What carries nothing is the NULL of a known kind, or a missing value of an enumerated type. -/
theorem Value.isVacant_cases {v : Value} (hv : v.isVacant = true) : v.isNull = true ∨ ∃ type, v = .enum type none := by
  unfold Value.isVacant at hv
  split at hv
  · rename_i type
    exact Or.inr ⟨type, rfl⟩
  · exact Or.inl hv

namespace Derive.Scalar

/-- No scalar is taken from an enumerated value. -/
theorem read_enum (x : Scalar) (type : String) (o : Option String) :
    x.memberType.read (.enum type o) = .error (.typeMismatch x.expected (.enum type o)) := by
  cases x <;> rfl

end Derive.Scalar

end EntityQuery

namespace EntityQuery.Query

open Schema Derive

/-! ## The first cell that does not fit -/

section Row

variable {E : Type} [Entity E] {b : Binder} {row : Row} {before after cells : List (Field × Value)} {f : Field}
  {v : Value}

/-- Checking passes over cells that fit. -/
theorem checkCells_append_of_fit (hbefore : ∀ cell ∈ before, CellFits E cell.1 cell.2) :
    b.checkCells E (before ++ cells) = b.checkCells E cells := by
  induction before with
  | nil => rfl
  | cons cell before ih =>
    obtain ⟨hcell, hrest⟩ := List.forall_mem_cons.mp hbefore
    rw [List.cons_append, Binder.checkCells, checkCell_eq_ok_iff_fits.mpr hcell]
    exact ih hrest

/-- The first cell that does not fit decides what is reported, and the entity is as it was. -/
theorem bindRow_of_unfit (hw : row.size = b.width) (hcells : b.fields.zip row.cells = before ++ (f, v) :: after)
    (hbefore : ∀ cell ∈ before, CellFits E cell.1 cell.2) (hunfit : ¬ CellFits E f v) (old : E) :
    ∃ e, Reports E b.descriptor f v e ∧ b.bindRow row old = (.error e, old) := by
  cases hc : b.checkCell E f v with
  | ok => exact absurd (checkCell_eq_ok_iff_fits.mp hc) hunfit
  | error e =>
    have hall : b.checkCells E (b.fields.zip row.cells) = .error e := by
      rw [hcells, checkCells_append_of_fit hbefore, Binder.checkCells, hc]
    refine ⟨e, (checkCell_eq_error hc).2, ?_⟩
    unfold Binder.bindRow
    rw [if_neg (not_not_intro hw), hall]

theorem not_fits_of_foundNull (h : FoundNull E f v) : ¬ CellFits E f v := by
  intro hfits
  rcases h with ⟨hn, hv⟩ | hc
  · exact nomatch (hfits.present hn).symm.trans hv
  · exact nomatch hfits.checked.symm.trans hc

/-- A NULL that is found is reported, after cells that fit. -/
theorem violation_of_foundNull (hw : row.size = b.width) (hcells : b.fields.zip row.cells = before ++ (f, v) :: after)
    (hbefore : ∀ cell ∈ before, CellFits E cell.1 cell.2) (h : FoundNull E f v) (old : E) :
    b.bindRow row old = (.error (b.nullViolation f), old) := by
  obtain ⟨e, hreports, hbound⟩ := bindRow_of_unfit hw hcells hbefore (not_fits_of_foundNull h) old
  cases hreports with
  | null _ => exact hbound
  | conversion hnot _ _ => exact absurd h hnot

/-- A violation that is reported was found in this cell, if no later cell is of the same column. -/
theorem foundNull_of_violation (hE : Checks E) (hw : row.size = b.width)
    (hcells : b.fields.zip row.cells = before ++ (f, v) :: after)
    (hbefore : ∀ cell ∈ before, CellFits E cell.1 cell.2) (hlast : ∀ cell ∈ after, cell.1.column ≠ f.column) {old : E}
    (h : b.bindRow row old = (.error (b.nullViolation f), old)) : FoundNull E f v := by
  rcases bindRow_cases hE b row old with ⟨-, -, new, -, hbound⟩ | ⟨e, hrefuses, hbound⟩
  · exact nomatch hbound.symm.trans h
  cases hbound.symm.trans h
  rcases hrefuses with ⟨hne, -⟩ | ⟨-, before', g, w, after', hcells', -, hunfit, hreports⟩
  · exact absurd hw hne
  have hmem : (g, w) ∈ before ++ (f, v) :: after := by
    rw [← hcells, hcells']
    simp
  generalize he : b.nullViolation f = e at hreports
  cases hreports with
  | conversion _ _ _ => exact nomatch he
  | null hfound =>
    have hcolumn : f.column = g.column := by injection he
    rcases List.mem_append.mp hmem with hm | hm
    · exact absurd (hbefore _ hm) hunfit
    rcases List.mem_cons.mp hm with hsame | hm
    · cases hsame
      exact hfound
    · exact absurd hcolumn.symm (hlast _ hm)

end Row

/-! ## Fields that may not be missing -/

section Members

variable {d : Derived} {i : Fin d.definition.members.length} {f : Field} {v : Value}

/-- A NULL is found by the binder, or reported by the conversion of the member. -/
theorem foundNull_iff_of_required (hb : d.Backs i f) (hn : f.nullable = false) :
    FoundNull d.Record f v ↔ v.isNull = true ∨ (d.types (d.member i).type).read v = .error .nullValue := by
  have hcheck := Derived.checkField_at hb v
  unfold FoundNull
  rw [hcheck, and_iff_right hn]
  cases (d.types (d.member i).type).read v with
  | ok c => simp
  | error e => simp

/-- A scalar refuses a missing enumerated value as a mismatch. -/
theorem bindRow_enum (hb : d.Backs i f) {x : Scalar} (hx : d.types (d.member i).type = x.memberType) {b : Binder}
    {row : Row} {before after : List (Field × Value)} {type : String} (hw : row.size = b.width)
    (hcells : b.fields.zip row.cells = before ++ (f, .enum type none) :: after)
    (hbefore : ∀ cell ∈ before, CellFits d.Record cell.1 cell.2) (old : d.Record) :
    b.bindRow row old =
      (.error (.valueConversion b.descriptor.name f.column (.typeMismatch x.expected (.enum type none))), old) := by
  have hcheck := Derived.checkField_at hb (.enum type none)
  rw [hx, x.read_enum] at hcheck
  have hunfit : ¬ CellFits d.Record f (.enum type none) := fun hfits => nomatch hcheck.symm.trans hfits.checked
  obtain ⟨e, hreports, hbound⟩ := bindRow_of_unfit hw hcells hbefore hunfit old
  cases hreports with
  | null hfound =>
    rcases hfound with ⟨-, hnull⟩ | hnull
    · exact nomatch hnull
    · exact nomatch hcheck.symm.trans hnull
  | conversion _ hcause _ =>
    cases hcheck.symm.trans hcause
    exact hbound

end Members

/-- A cell that carries nothing for a field that may not be missing, the cells before it fitting.
    It is a violation of the field's column if the binder knows the NULL or the conversion of the
    member reports one, and otherwise it is not, unless a later cell of that column is. For a scalar that
    leaves out the missing values of enumerated types and nothing else: these are reported
    as a mismatch. -/
theorem vacant_violates_iff {d : Derived} {descriptor : Descriptor}
    (hd : d.expansion.declaration.describe = .ok descriptor) {columns : List String} {b : Binder}
    (hb : Binder.ofColumns descriptor columns = .ok b) {row : Row} (hw : row.size = columns.length)
    {before after : List (Field × Value)} {f : Field} {v : Value}
    (hcells : b.fields.zip row.cells = before ++ (f, v) :: after)
    (hbefore : ∀ cell ∈ before, CellFits d.Record cell.1 cell.2) {i : Fin d.definition.members.length}
    (hi : (d.member i).column? = some f.column) (hn : f.nullable = false) (hv : v.isVacant = true) (old : d.Record) :
    let bound := b.bindRow row old
    let violates := bound = (.error (.nullabilityViolation descriptor.name f.column), old)
    let found := v.isNull = true ∨ (d.types (d.member i).type).read v = .error .nullValue
    (found → violates) ∧
    ((∀ cell ∈ after, cell.1.column ≠ f.column) → violates → found) ∧
    ∀ x : Scalar, d.types (d.member i).type = x.memberType →
      (violates ↔ ∀ type, v ≠ .enum type none) ∧
      ∀ type, v = .enum type none →
        bound = (.error (.valueConversion descriptor.name f.column (.typeMismatch x.expected v)), old) := by
  intro bound violates found
  have hdescribes := describe_describes hd
  obtain ⟨fields, hfieldsOf, rfl⟩ := Binder.ofColumns_eq_ok hb
  have hwidth : row.size = Binder.width ⟨descriptor, fields⟩ := by
    rw [hw, ← (columns_of_fieldsOf hdescribes hfieldsOf).2, List.length_map]
    rfl
  have hm : (f, v) ∈ fields.zip row.cells := by
    rw [hcells]
    simp
  have hbacks : d.Backs i f :=
    Derived.backs_of_column hdescribes (mem_fields_of_fieldsOf hdescribes hfieldsOf (List.of_mem_zip hm).1) hi
  have hfound : FoundNull d.Record f v ↔ found := foundNull_iff_of_required hbacks hn
  have hforward : found → violates := fun h => violation_of_foundNull hwidth hcells hbefore (hfound.mpr h) old
  refine ⟨hforward, fun hlast h => ?_, fun x hx => ?_⟩
  · exact hfound.mp (foundNull_of_violation (Filling.record_checks d) hwidth hcells hbefore hlast h)
  have hmismatch : ∀ type, v = .enum type none →
      bound = (.error (.valueConversion descriptor.name f.column (.typeMismatch x.expected v)), old) := by
    intro type htype
    subst htype
    exact bindRow_enum hbacks hx hwidth hcells hbefore old
  refine ⟨⟨fun h type htype => ?_, fun hother => ?_⟩, hmismatch⟩
  · exact nomatch (hmismatch type htype).symm.trans h
  · rcases Value.isVacant_cases hv with hnull | ⟨type, htype⟩
    · exact hforward (Or.inl hnull)
    · exact absurd htype (hother type)

open Samples

def userIdField : Field := ⟨0, "id", "id", .unsigned, false, true⟩

def userNameField : Field := ⟨1, "name", "name", .text, false, false⟩

def userIdMember : Fin userEntity.definition.members.length := ⟨0, by decide⟩

def userNameMember : Fin userEntity.definition.members.length := ⟨1, by decide⟩

theorem user_described : userEntity.expansion.declaration.describe = .ok userDescriptor := rfl

/-- The NULL of bytes in a text, between an id and a second one that would be a mismatch. -/
theorem vacant_violates_user :
    let b : Binder := ⟨userDescriptor, [userIdField, userNameField, userIdField]⟩
    userEntity.expansion.declaration.describe = .ok userDescriptor ∧
    Binder.ofColumns userDescriptor ["id", "name", "id"] = .ok b ∧
    CellFits userEntity.Record userIdField (.int (some 5)) ∧
    (userEntity.member userNameMember).column? = some userNameField.column ∧ userNameField.nullable = false ∧
    Value.isVacant (.bytes none) = true ∧
    b.bindRow (E := userEntity.Record) ⟨[.int (some 5), .bytes none, .string (some "x")]⟩ default =
      (.error (.nullabilityViolation "User" "name"), default) := by
  intro b
  have hb : Binder.ofColumns userDescriptor ["id", "name", "id"] = .ok b := rfl
  have hw : Row.size ⟨[.int (some 5), .bytes none, .string (some "x")]⟩ = ["id", "name", "id"].length := rfl
  have hcells : b.fields.zip [.int (some 5), .bytes none, .string (some "x")] =
      [(userIdField, Value.int (some 5))] ++ (userNameField, Value.bytes none) ::
        [(userIdField, Value.string (some "x"))] := rfl
  have hfits : CellFits userEntity.Record userIdField (.int (some 5)) :=
    ⟨fun _ => rfl, (userId_fits userId_read.1 rfl).checked⟩
  have hcolumn : (userEntity.member userNameMember).column? = some userNameField.column := by decide
  have h := vacant_violates_iff user_described hb hw hcells (by simpa using hfits) hcolumn rfl rfl default
  exact ⟨user_described, hb, hfits, hcolumn, rfl, rfl, h.1 (Or.inl rfl)⟩

/-- A missing value of an enumerated type is no violation for an id, but a mismatch. -/
theorem enumerated_null_not_violation :
    let b : Binder := ⟨userDescriptor, [userIdField]⟩
    userEntity.expansion.declaration.describe = .ok userDescriptor ∧
    Binder.ofColumns userDescriptor ["id"] = .ok b ∧
    (userEntity.member userIdMember).column? = some userIdField.column ∧ userIdField.nullable = false ∧
    Value.isVacant (.enum "mood" none) = true ∧
    let bound := b.bindRow (E := userEntity.Record) ⟨[.enum "mood" none]⟩ default
    bound = (.error (.valueConversion "User" "id" (.typeMismatch "u32" (.enum "mood" none))), default) ∧
      bound ≠ (.error (.nullabilityViolation "User" "id"), default) := by
  intro b
  have hcolumn : (userEntity.member userIdMember).column? = some userIdField.column := by decide
  have hbacks : userEntity.Backs userIdMember userIdField :=
    Derived.backs_of_column (describe_describes user_described) (by decide) hcolumn
  have htype : userEntity.types (userEntity.member userIdMember).type = (Scalar.integer .u32).memberType :=
    memberType_of_not_optional _ rfl
  have hw : Row.size ⟨[.enum "mood" none]⟩ = b.width := rfl
  have hcells : b.fields.zip [.enum "mood" none] = [] ++ (userIdField, Value.enum "mood" none) :: [] := rfl
  have hbound := bindRow_enum hbacks htype hw hcells (by simp) default
  refine ⟨user_described, rfl, hcolumn, rfl, rfl, hbound, fun h => ?_⟩
  exact nomatch hbound.symm.trans h

end EntityQuery.Query
