/-
  EntityQuery.Proofs.Query.Nulls — what a NULL becomes in an optional field.

  Whether a cell is a NULL is decided twice. The binder looks at the value alone and knows the
  NULL of every kind. The conversion of a field knows the NULLs of the kinds its type is taken
  from, and the NULL of any other kind is a mismatch for it, which the optional type around it
  passes on. Of two optional types around each other, the inner one makes the NULL a missing
  value, and the outer one finds something there.

  `Scalar` are the types that are not optional and have conversions of their own, and `ownNull`
  is the NULL of a kind they are taken from.
  - `Scalar.read_null`: a NULL is reported as such, or as a mismatch.
  - `Scalar.read_optional_null`: what optional types, one around the other, make of that.
  - `memberType_cases`: every type is a scalar or a foreign one, some number of times optional.
  - `bindRow_of_others_fit`: one cell decides about a row whose other cells fit.
  - `bindRow_optional`: what that cell does to an optional member, whatever its value is.
  - `null_becomes_none_iff`: a NULL becomes a missing value if its kind is one of the field's,
    and the field is optional once.
-/
import EntityQuery.Proofs.Query.Cells

namespace EntityQuery.Derive

open Schema

/-! ## The NULLs of a type -/

/-- The types that are not optional and have conversions of their own. -/
inductive Scalar where
  | integer (type : IntegerType)
  | boolean
  | single
  | double
  | text
  | bytes
  | json
  deriving DecidableEq

namespace Scalar

def memberType : Scalar → MemberType
  | .integer type => .integer type
  | .boolean => .boolean
  | .single => .single
  | .double => .double
  | .text => .text
  | .bytes => .bytes
  | .json => .json

/-- What a mismatch says it had expected. -/
def expected : Scalar → String
  | .integer type => type.name
  | .boolean => "Bool"
  | .single => "Float"
  | .double => "Double"
  | .text => "String"
  | .bytes => "Bytes"
  | .json => "Json"

/-- The value is the NULL of a kind that the type is taken from. -/
def ownNull : Scalar → Value → Bool
  | .integer _, v => v.integer? = some none
  | .boolean, v => v ∈ [.bool none, .tinyInt none, .smallInt none, .int none, .bigInt none]
  | .single, v => v = .float none
  | .double, v => v ∈ [.double none, .float none]
  | .text, v => v ∈ [.string none, .char none]
  | .bytes, v => v = .bytes none
  | .json, v => v ∈ [.json none, .string none]

/-- A NULL is reported as such, or as a mismatch. -/
theorem read_null {v : Value} (hv : v.isNull = true) (x : Scalar) :
    x.memberType.read v = .error (if x.ownNull v then .nullValue else .typeMismatch x.expected v) := by
  cases v with
  | enum type o => cases hv
  | bool o | tinyInt o | smallInt o | int o | bigInt o | tinyUnsigned o | smallUnsigned o | unsigned o | bigUnsigned o
  | float o | double o | string o | char o | bytes o | json o =>
    cases o with
    | some a => cases hv
    | none => cases x <;> rfl

/-- Optional types around each other find something there, but for the innermost one. -/
theorem read_optional_null {v : Value} (hv : v.isNull = true) (x : Scalar) (n : Nat) :
    (MemberType.optional^[n + 1] x.memberType).read v =
      if x.ownNull v then .ok (Content.present^[n] .absent) else .error (.typeMismatch x.expected v) := by
  induction n with
  | zero =>
    have h := x.read_null hv
    show x.memberType.optional.read v = _
    simp only [MemberType.optional, Value.optional?, h]
    cases x.ownNull v <;> rfl
  | succ n ih =>
    rw [Function.iterate_succ_apply' MemberType.optional, Function.iterate_succ_apply' Content.present]
    simp only [MemberType.optional, Value.optional?, ih]
    cases x.ownNull v <;> rfl

end Scalar

theorem plainType_cases (foreign : TypeExpr → MemberType) (t : TypeExpr) :
    (∃ x : Scalar, plainType foreign t = x.memberType) ∨ plainType foreign t = foreign t := by
  unfold plainType
  split
  · exact Or.inl ⟨.json, rfl⟩
  · exact Or.inl ⟨.boolean, rfl⟩
  · exact Or.inl ⟨.text, rfl⟩
  · exact Or.inl ⟨.bytes, rfl⟩
  · split
    · exact Or.inl ⟨.integer _, rfl⟩
    · exact Or.inr rfl
  · split
    · exact Or.inl ⟨.integer _, rfl⟩
    · exact Or.inr rfl
  · split
    · exact Or.inl ⟨.single, rfl⟩
    · exact Or.inl ⟨.double, rfl⟩
  · exact Or.inr rfl

/-- Every type is that of a scalar or a foreign one, with some number of optional types around it. -/
theorem memberType_cases (foreign : TypeExpr → MemberType) (t : TypeExpr) :
    ∃ n, (∃ x : Scalar, memberType foreign t = MemberType.optional^[n] x.memberType) ∨
      ∃ u, memberType foreign t = MemberType.optional^[n] (foreign u) := by
  fun_induction memberType foreign t with
  | case1 t u hu ih =>
    obtain ⟨n, ⟨x, h⟩ | ⟨v, h⟩⟩ := ih
    · exact ⟨n + 1, Or.inl ⟨x, by rw [h, Function.iterate_succ_apply']⟩⟩
    · exact ⟨n + 1, Or.inr ⟨v, by rw [h, Function.iterate_succ_apply']⟩⟩
  | case2 t hn =>
    rcases plainType_cases foreign t with ⟨x, h⟩ | h
    · exact ⟨0, Or.inl ⟨x, h⟩⟩
    · exact ⟨0, Or.inr ⟨t, h⟩⟩

theorem MemberType.optional_eq_absent_iff (t : MemberType) (v : Value) :
    t.optional.read v = .ok .absent ↔ t.read v = .error .nullValue := by
  simp only [optional, Value.optional?]
  cases t.read v with
  | ok c => simp
  | error e => cases e <;> simp

namespace Derived

variable {d : Derived}

/-- A field of the descriptor has its member declared at its index. -/
theorem Backs.declared {i : Fin d.definition.members.length} {f : Field} (h : d.Backs i f) :
    d.declaredMembers[f.index]? = some i := by
  obtain ⟨slot, hslot, hposition, -⟩ := h.slot
  rw [slots_eq, List.getElem?_map, Option.map_eq_some_iff] at hslot
  obtain ⟨j, hj, rfl⟩ := hslot
  rw [hj, Fin.ext hposition]

end Derived

end EntityQuery.Derive

namespace EntityQuery.Query

open Schema Derive

/-! ## One cell of a row -/

section Row

variable {E : Type} [Entity E] {b : Binder} {row : Row} {before after : List (Field × Value)} {f : Field} {v : Value}

/-- A cell decides about a row whose other cells fit. -/
theorem bindRow_of_others_fit (hE : Checks E) (hw : row.size = b.width)
    (hcells : b.fields.zip row.cells = before ++ (f, v) :: after)
    (hothers : ∀ cell ∈ before ++ after, CellFits E cell.1 cell.2) (old : E) :
    (CellFits E f v ∧ ∃ new, b.storeCells (before ++ (f, v) :: after) old = (.ok (), new) ∧
      b.bindRow row old = (.ok (), new)) ∨
    (¬ CellFits E f v ∧ ∃ e, Reports E b.descriptor f v e ∧ b.bindRow row old = (.error e, old)) := by
  rcases bindRow_cases hE b row old with ⟨-, hfits, new, hs, hb⟩ | ⟨e, hrefuses, hb⟩
  · rw [hcells] at hs
    exact Or.inl ⟨hfits (f, v) (by rw [hcells]; simp), new, hs, hb⟩
  · rcases hrefuses with ⟨hne, -⟩ | ⟨-, before', g, w, after', hcells', -, hunfit, hreports⟩
    · exact absurd hw hne
    · have hmem : (g, w) ∈ before ++ (f, v) :: after := by
        rw [← hcells, hcells']
        simp
      have hsame : (g, w) = (f, v) := by
        rcases List.mem_append.mp hmem with hm | hm
        · exact absurd (hothers _ (List.mem_append_left _ hm)) hunfit
        · rcases List.mem_cons.mp hm with h | hm
          · exact h
          · exact absurd (hothers _ (List.mem_append_right _ hm)) hunfit
      cases hsame
      exact Or.inr ⟨hunfit, e, hreports, hb⟩

end Row

/-! ## Optional members -/

section Members

variable {d : Derived} {descriptor : Descriptor} {i : Fin d.definition.members.length} {t : TypeExpr}
  {before after : List (Field × Value)} {f : Field} {v : Value}

/-- A cell for an optional member fits if it can be converted. -/
theorem cellFits_iff_of_optional (hb : d.Backs i f) (ht : (d.member i).type.optionInner? = some t) :
    CellFits d.Record f v ↔ ∃ c, (d.types t).optional.read v = .ok c := by
  have hn : f.nullable = true := by rw [hb.nullable, ht]; rfl
  have hc := Derived.checkField_at hb v
  rw [d.optional_types _ t ht] at hc
  constructor
  · intro h
    rw [h.checked] at hc
    cases hr : (d.types t).optional.read v with
    | ok c => exact ⟨c, rfl⟩
    | error e => rw [hr] at hc; cases hc
  · rintro ⟨c, hr⟩
    rw [hr] at hc
    exact ⟨fun hnot => absurd (hn.symm.trans hnot) nofun, hc⟩

/-- The last cell of a column is the last one that goes to the member of that column. -/
theorem lastFor_of_column (hd : descriptor.Describes d.expansion.declaration)
    (hfields : ∀ cell ∈ before ++ (f, v) :: after, cell.1 ∈ descriptor.fields) (hb : d.Backs i f)
    (hlast : ∀ cell ∈ after, cell.1.column ≠ f.column) : lastFor d i (before ++ (f, v) :: after) = some (f, v) := by
  have hafter : lastFor d i after = none := by
    rw [lastFor, List.getLast?_eq_none_iff, List.filter_eq_nil_iff]
    intro cell hm hgoes
    obtain ⟨j, hj⟩ := Derived.exists_backs hd (hfields cell (by simp [hm]))
    -- Two fields that go to one member have one column.
    have hji : j = i := by
      rw [goesTo, decide_eq_true_iff, hj.declared, Option.some.injEq] at hgoes
      exact hgoes
    subst hji
    exact hlast cell hm (Option.some.inj (hj.column.symm.trans hb.column))
  have hgoes : goesTo d i (f, v) = true := by simp [goesTo, hb.declared]
  rw [lastFor_append, ← List.singleton_append, lastFor_append, hafter, lastFor_singleton, hgoes]
  rfl

/-- What a row whose other cells fit does to an optional member, by the last cell of its column. -/
theorem bindRow_optional (hd : d.expansion.declaration.describe = .ok descriptor) {columns : List String} {b : Binder}
    (hb : Binder.ofColumns descriptor columns = .ok b) {row : Row} (hw : row.size = columns.length)
    (hcells : b.fields.zip row.cells = before ++ (f, v) :: after)
    (hothers : ∀ cell ∈ before ++ after, CellFits d.Record cell.1 cell.2)
    (hlast : ∀ cell ∈ after, cell.1.column ≠ f.column) (hi : (d.member i).column? = some f.column)
    (ht : (d.member i).type.optionInner? = some t) (old : d.Record) :
    let bound := b.bindRow row old
    match (d.types t).optional.read v with
    | .ok c => bound.1 = .ok () ∧ bound.2.content i = c
    | .error e => bound = (.error (.valueConversion descriptor.name f.column e), old) := by
  intro bound
  have hdescribes := describe_describes hd
  obtain ⟨fields, hfieldsOf, rfl⟩ := Binder.ofColumns_eq_ok hb
  have hfields : ∀ cell ∈ before ++ (f, v) :: after, cell.1 ∈ descriptor.fields := by
    intro cell hm
    rw [← hcells] at hm
    exact mem_fields_of_fieldsOf hdescribes hfieldsOf (List.of_mem_zip hm).1
  have hwidth : row.size = Binder.width ⟨descriptor, fields⟩ := by
    rw [hw, ← (columns_of_fieldsOf hdescribes hfieldsOf).2, List.length_map]
    rfl
  have hbacks : d.Backs i f := Derived.backs_of_column hdescribes (hfields (f, v) (by simp)) hi
  have hn : f.nullable = true := by rw [hbacks.nullable, ht]; rfl
  rcases bindRow_of_others_fit (Filling.record_checks d) hwidth hcells hothers old with
    ⟨hfits, new, hs, hbound⟩ | ⟨hunfit, e, hreports, hbound⟩
  · obtain ⟨c, hc⟩ := (cellFits_iff_of_optional hbacks ht).mp hfits
    have hstored := storeCells_stored hs i
    rw [lastFor_of_column hdescribes hfields hbacks hlast] at hstored
    dsimp only at hstored
    rw [d.optional_types _ t ht, hc, Except.ok.injEq] at hstored
    rw [hc]
    exact ⟨congrArg Prod.fst hbound, (congrArg (·.2.content i) hbound).trans hstored.symm⟩
  · have hcheck := Derived.checkField_at hbacks v
    rw [d.optional_types _ t ht] at hcheck
    cases hr : (d.types t).optional.read v with
    | ok c => exact absurd ((cellFits_iff_of_optional hbacks ht).mpr ⟨c, hr⟩) hunfit
    | error cause =>
      rw [hr] at hcheck
      cases hreports with
      | null hfound =>
        -- An optional field is never found to be NULL.
        rcases hfound with ⟨hnot, -⟩ | hnull
        · exact absurd (hn.symm.trans hnot) nofun
        · cases hcheck.symm.trans hnull
          exact absurd hr ((d.types t).optional_ne_nullValue v)
      | conversion _ hcause _ =>
        cases hcheck.symm.trans hcause
        exact hbound

end Members

/-- A NULL in the last cell of a column whose member is optional, in a row whose other cells fit.
    The member misses its value afterwards if and only if the conversion of the type inside reports a NULL.
    With `n` optional types inside around a scalar, that is so if there are none and the NULL
    is of a kind that the scalar is taken from. Of such a kind, the NULL is found missing
    inside all of them, and of another kind it is a mismatch, which refuses the row. -/
theorem null_becomes_none_iff {d : Derived} {descriptor : Descriptor}
    (hd : d.expansion.declaration.describe = .ok descriptor) {columns : List String} {b : Binder}
    (hb : Binder.ofColumns descriptor columns = .ok b) {row : Row} (hw : row.size = columns.length)
    {before after : List (Field × Value)} {f : Field} {v : Value}
    (hcells : b.fields.zip row.cells = before ++ (f, v) :: after)
    (hothers : ∀ cell ∈ before ++ after, CellFits d.Record cell.1 cell.2)
    (hlast : ∀ cell ∈ after, cell.1.column ≠ f.column) {i : Fin d.definition.members.length}
    (hi : (d.member i).column? = some f.column) {t : TypeExpr} (ht : (d.member i).type.optionInner? = some t)
    (hv : v.isNull = true) (old : d.Record) :
    let bound := b.bindRow row old
    let becomesNone := bound.1 = .ok () ∧ bound.2.content i = .absent
    (becomesNone ↔ (d.types t).read v = .error .nullValue) ∧
    ∀ n (x : Scalar), d.types t = MemberType.optional^[n] x.memberType →
      (becomesNone ↔ n = 0 ∧ x.ownNull v = true) ∧
      (x.ownNull v = true → bound.1 = .ok () ∧ bound.2.content i = Content.present^[n] .absent) ∧
      (x.ownNull v = false →
        bound = (.error (.valueConversion descriptor.name f.column (.typeMismatch x.expected v)), old)) := by
  intro bound becomesNone
  have hbound := bindRow_optional hd hb hw hcells hothers hlast hi ht old
  have hnone : becomesNone ↔ (d.types t).optional.read v = .ok .absent := by
    show bound.1 = .ok () ∧ bound.2.content i = .absent ↔ _
    cases hr : (d.types t).optional.read v with
    | ok c =>
      rw [hr] at hbound
      rw [and_iff_right hbound.1, hbound.2, Except.ok.injEq]
    | error e =>
      rw [hr] at hbound
      rw [show bound = _ from hbound]
      simp
  refine ⟨hnone.trans ((d.types t).optional_eq_absent_iff v), fun n x hx => ?_⟩
  have hread := x.read_optional_null hv n
  rw [Function.iterate_succ_apply', ← hx] at hread
  cases hown : x.ownNull v with
  | false =>
    rw [hown] at hread
    rw [hread] at hbound
    rw [hnone, hread]
    exact ⟨by simp, by simp, fun _ => hbound⟩
  | true =>
    rw [hown] at hread
    rw [hread] at hbound
    rw [hnone, hread]
    refine ⟨?_, fun _ => hbound, by simp⟩
    cases n with
    | zero => simp
    | succ n => simp [Function.iterate_succ_apply']

open Samples

def optionalsDescriptor : Descriptor := ⟨"Optionals", "optionals", [⟨0, "flag", "flag", .boolean, true, false⟩,
  ⟨1, "small", "small", .integer, true, false⟩, ⟨2, "big", "big", .unsigned, true, false⟩,
  ⟨3, "single", "single", .float, true, false⟩, ⟨4, "double", "double", .float, true, false⟩,
  ⟨5, "text", "text", .text, true, false⟩, ⟨6, "blob", "blob", .binary, true, false⟩,
  ⟨7, "doc", "doc", .json, true, false⟩, ⟨8, "nested", "nested", .other, true, false⟩], none,
  [("flag", 0), ("small", 1), ("big", 2), ("single", 3), ("double", 4), ("text", 5), ("blob", 6), ("doc", 7),
    ("nested", 8)]⟩

theorem optionals_described : optionalsEntity.expansion.declaration.describe = .ok optionalsDescriptor := rfl

def smallField : Field := ⟨1, "small", "small", .integer, true, false⟩

def nestedField : Field := ⟨8, "nested", "nested", .other, true, false⟩

def smallMember : Fin optionalsEntity.definition.members.length := ⟨1, by decide⟩

def nestedMember : Fin optionalsEntity.definition.members.length := ⟨8, by decide⟩

theorem small_type : optionalsEntity.types (.named "i8") = MemberType.optional^[0] (Scalar.integer .i8).memberType :=
  memberType_of_not_optional _ rfl

theorem nested_type : optionalsEntity.types (.applied "Option" (.named "i32")) =
    MemberType.optional^[1] (Scalar.integer .i32).memberType :=
  (memberType_of_optionInner? _ rfl).trans (congrArg MemberType.optional (memberType_of_not_optional _ rfl))

/-- The outer optional type finds the missing value of the inner one there. -/
theorem nested_read : (optionalsEntity.types (.applied "Option" (.named "i32"))).optional.read (.int none) =
    .ok (.present .absent) := by
  rw [nested_type]
  exact Scalar.read_optional_null rfl (.integer .i32) 1

def nestedSmall : Binder := ⟨optionalsDescriptor, [nestedField, smallField]⟩

theorem nested_fits : CellFits optionalsEntity.Record nestedField (.int none) := by
  refine ⟨nofun, ?_⟩
  rw [Derived.checkField_eq, show optionalsEntity.declaredMembers[nestedField.index]? = some nestedMember by decide]
  show (match (optionalsEntity.types (.applied "Option" (.applied "Option" (.named "i32")))).read (.int none) with
    | .ok _ => _
    | .error e => _) = _
  rw [optionalsEntity.optional_types _ _ rfl, nested_read]

/-- The NULL of a wide integer in a narrow member, after another NULL. -/
theorem null_becomes_none_small :
    optionalsEntity.expansion.declaration.describe = .ok optionalsDescriptor ∧
    Binder.ofColumns optionalsDescriptor ["nested", "small"] = .ok nestedSmall ∧
    CellFits optionalsEntity.Record nestedField (.int none) ∧
    (optionalsEntity.member smallMember).column? = some "small" ∧
    (optionalsEntity.member smallMember).type.optionInner? = some (.named "i8") ∧
    Value.isNull (.bigInt none) = true ∧
    let bound := nestedSmall.bindRow (E := optionalsEntity.Record) ⟨[.int none, .bigInt none]⟩ default
    bound.1 = .ok () ∧ bound.2.content smallMember = .absent := by
  have hb : Binder.ofColumns optionalsDescriptor ["nested", "small"] = .ok nestedSmall := rfl
  have hcolumn : (optionalsEntity.member smallMember).column? = some "small" := by decide
  have htype : (optionalsEntity.member smallMember).type.optionInner? = some (.named "i8") := rfl
  have hw : Row.size ⟨[.int none, .bigInt none]⟩ = ["nested", "small"].length := rfl
  have hcells : nestedSmall.fields.zip [.int none, .bigInt none] =
      [(nestedField, .int none)] ++ (smallField, Value.bigInt none) :: [] := rfl
  have h := null_becomes_none_iff (d := optionalsEntity) optionals_described hb hw hcells (by simpa using nested_fits)
    (by simp) hcolumn htype rfl default
  exact ⟨optionals_described, hb, nested_fits, hcolumn, htype, rfl, (h.2 0 (.integer .i8) small_type).1.mpr ⟨rfl, rfl⟩⟩

/-- The NULL of a text is refused by an integer member, and a member that is optional twice
    is not missing its value after the NULL of an integer. -/
theorem null_not_none :
    optionalsEntity.expansion.declaration.describe = .ok optionalsDescriptor ∧
    Value.isNull (.string none) = true ∧ Value.isNull (.int none) = true ∧
    (Binder.ofColumns optionalsDescriptor ["small"] = .ok ⟨optionalsDescriptor, [smallField]⟩ ∧
      (optionalsEntity.member smallMember).column? = some "small" ∧
      (optionalsEntity.member smallMember).type.optionInner? = some (.named "i8") ∧
      let bound :=
        Binder.bindRow (E := optionalsEntity.Record) ⟨optionalsDescriptor, [smallField]⟩ ⟨[.string none]⟩ default
      bound = (.error (.valueConversion "Optionals" "small" (.typeMismatch "i8" (.string none))), default) ∧
        ¬ (bound.1 = .ok () ∧ bound.2.content smallMember = .absent)) ∧
    (Binder.ofColumns optionalsDescriptor ["nested"] = .ok ⟨optionalsDescriptor, [nestedField]⟩ ∧
      (optionalsEntity.member nestedMember).column? = some "nested" ∧
      (optionalsEntity.member nestedMember).type.optionInner? = some (.applied "Option" (.named "i32")) ∧
      let bound :=
        Binder.bindRow (E := optionalsEntity.Record) ⟨optionalsDescriptor, [nestedField]⟩ ⟨[.int none]⟩ default
      (bound.1 = .ok () ∧ bound.2.content nestedMember = .present .absent) ∧
        ¬ (bound.1 = .ok () ∧ bound.2.content nestedMember = .absent)) := by
  have hsmall : (optionalsEntity.member smallMember).column? = some "small" := by decide
  have hnested : (optionalsEntity.member nestedMember).column? = some "nested" := by decide
  have hinteger : (optionalsEntity.member smallMember).type.optionInner? = some (.named "i8") := rfl
  have htwice : (optionalsEntity.member nestedMember).type.optionInner? = some (.applied "Option" (.named "i32")) := rfl
  have hbsmall : Binder.ofColumns optionalsDescriptor ["small"] = .ok ⟨optionalsDescriptor, [smallField]⟩ := rfl
  have hbnested : Binder.ofColumns optionalsDescriptor ["nested"] = .ok ⟨optionalsDescriptor, [nestedField]⟩ := rfl
  have hrefused := bindRow_optional (d := optionalsEntity) optionals_described hbsmall
    (show Row.size ⟨[.string none]⟩ = ["small"].length from rfl)
    (show [smallField].zip [.string none] = [] ++ (smallField, Value.string none) :: [] from rfl) (by simp) (by simp)
    hsmall hinteger default
  have hfound := bindRow_optional (d := optionalsEntity) optionals_described hbnested
    (show Row.size ⟨[.int none]⟩ = ["nested"].length from rfl)
    (show [nestedField].zip [.int none] = [] ++ (nestedField, Value.int none) :: [] from rfl) (by simp) (by simp)
    hnested htwice default
  have hmismatch : (optionalsEntity.types (.named "i8")).optional.read (.string none) =
      .error (.typeMismatch "i8" (.string none)) := by
    rw [small_type]
    exact Scalar.read_optional_null rfl (.integer .i8) 0
  rw [hmismatch] at hrefused
  rw [nested_read] at hfound
  refine ⟨optionals_described, rfl, rfl, ⟨hbsmall, hsmall, hinteger, hrefused, ?_⟩,
    hbnested, hnested, htwice, hfound, ?_⟩
  · rintro ⟨hok, -⟩
    exact nomatch (congrArg Prod.fst hrefused).symm.trans hok
  · rintro ⟨-, habsent⟩
    exact nomatch hfound.2.symm.trans habsent

end EntityQuery.Query
