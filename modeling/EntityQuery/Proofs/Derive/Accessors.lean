/-
  EntityQuery.Proofs.Derive.Accessors — the declaration of a derived entity and its accessors.

  Expanding a definition goes through its members once, and drops those that are skipped, so the
  declaration, the storing and the checking of fields count by the same smaller numbers. What they
  should be is said here of the members themselves: `Member.isSkipped` and `Member.declared`
  are read off the attributes and the type of one member, and `declaredMembers` are the
  members that are not skipped, in the order of the definition.

  - `slots_eq`: the slots of an accepted definition are those of its declared members.
  - `checkField_eq` / `bindField_eq`: the accessors at an index convert the value for the
    declared member of that index, and report the index if there is none.
  - `reportsValues_memberType`: the conversions of all types report what is wrong with the
    value, and never an index, if those of foreign types do.

  `accessors_agree`: what is declared, and how storing and checking agree on every index,
  value and record.
-/
import Mathlib.Data.List.FinRange
import EntityQuery.Proofs.Derive.Slots
import EntityQuery.Samples.Catalogue

namespace EntityQuery.Derive

open Schema

/-! ## What the attributes of a member say -/

/-- The text that an attribute gives. -/
def Attribute.text? (a : Attribute) : Option String :=
  match a.form with
  | .text s => some s
  | .expression _ literal => literal
  | .bare | .list _ => none

theorem Attribute.text?_of_value {a : Attribute} {s : String} (h : a.value = .ok s) : a.text? = some s := by
  unfold Attribute.value at h
  unfold Attribute.text?
  cases hf : a.form with
  | bare => simp [hf] at h
  | list tokens => simp [hf] at h
  | text t =>
    simp only [hf] at h ⊢
    split at h
    · cases h
    · cases h; rfl
  | expression source literal =>
    cases literal with
    | none => simp [hf] at h
    | some t =>
      simp only [hf] at h ⊢
      split at h
      · cases h
      · cases h; rfl

/-- The text of the last attribute of that name. -/
def lastText (name : String) (attributes : List Attribute) : Option String :=
  ((attributes.filter (·.name = name)).getLast?).bind (·.text?)

/-- There is an attribute of that name. -/
def mentions (name : String) (attributes : List Attribute) : Bool := attributes.any (·.name = name)

namespace Member

def isSkipped (f : Member) : Bool := mentions "skip" f.attributes

/-- The declaration of a member that is not skipped. -/
def declared (f : Member) : FieldDeclaration where
  ident := f.bareIdent
  type := (f.type.optionInner?.getD f.type).fieldType
  column := lastText "column_name" f.attributes
  primaryKey := mentions "primary_key" f.attributes
  nullable := f.type.optionInner?.isSome

end Member

theorem lastText_snoc (name : String) (attributes : List Attribute) (a : Attribute) :
    lastText name (attributes ++ [a]) = if a.name = name then a.text? else lastText name attributes := by
  by_cases h : a.name = name
  · simp [lastText, h]
  · simp [lastText, h]

theorem mentions_snoc (name : String) (attributes : List Attribute) (a : Attribute) :
    mentions name (attributes ++ [a]) = (mentions name attributes || decide (a.name = name)) := by
  simp [mentions]

/-- The marks are those of the attributes read so far. -/
structure Marks.Of (attributes : List Attribute) (m : Marks) : Prop where
  column : m.column = lastText "column_name" attributes
  primaryKey : m.primaryKey = mentions "primary_key" attributes
  skipped : m.skipped = mentions "skip" attributes

theorem Marks.of_read {done : List Attribute} {m m' : Marks} {a : Attribute} (hm : m.Of done) (h : m.read a = .ok m') :
    m'.Of (done ++ [a]) := by
  obtain ⟨hc, hp, hs⟩ := hm
  unfold Marks.read at h
  split at h
  · rename_i hn
    split at h
    · rename_i s hv
      cases h
      constructor <;> simp [lastText_snoc, mentions_snoc, hn, hp, hs, Attribute.text?_of_value hv]
    · cases h
  · rename_i hcolumn
    split at h
    · rename_i hn
      split at h
      · cases h; constructor <;> simp [lastText_snoc, mentions_snoc, hn, hc, hs]
      · cases h
    · rename_i hkey
      split at h
      · rename_i hn
        split at h
        · cases h; constructor <;> simp [lastText_snoc, mentions_snoc, hn, hc, hp, hs]
        · cases h
      · split at h
        · rename_i hn
          split at h
          · cases h; constructor <;> simp [lastText_snoc, mentions_snoc, hn, hc, hp]
          · cases h
        · rename_i hskip
          cases h
          constructor <;> simp [lastText_snoc, mentions_snoc, hcolumn, hkey, hskip, hc, hp, hs]

theorem Marks.of_readAll : ∀ {attributes done : List Attribute} {m m' : Marks}, m.Of done →
    m.readAll attributes = .ok m' → m'.Of (done ++ attributes) := by
  intro attributes
  induction attributes with
  | nil => intro done m m' hm h; cases h; simpa using hm
  | cons a attributes ih =>
    intro done m m' hm h
    unfold Marks.readAll at h
    split at h
    · rename_i m1 h1
      simpa using ih (Marks.of_read hm h1) h
    · cases h

theorem Member.of_marks {f : Member} {m : Marks} (h : f.marks = .ok m) : m.Of f.attributes := by
  unfold Member.marks at h
  split at h
  · cases h
  · rename_i m' hm
    split at h
    · cases h
    · cases h
      exact Marks.of_readAll (show Marks.Of [] _ from ⟨rfl, rfl, rfl⟩) hm

/-! ## The slots of an accepted definition -/

/-- The slot that a member has if it is not skipped. -/
def Member.slot? (f : Member) (position : Nat) : Option Slot :=
  if f.isSkipped then none else some ⟨position, f, f.declared⟩

theorem Member.slot_eq_ok {f : Member} {position : Nat} {o : Option Slot} (h : f.slot position = .ok o) :
    o = f.slot? position := by
  unfold Member.slot at h
  split at h
  · cases h
  · rename_i m hm
    have hof := Member.of_marks hm
    have hskip : m.skipped = f.isSkipped := hof.skipped
    split at h
    · rename_i hs
      cases h
      rw [Member.slot?, ← hskip, if_pos hs]
    · rename_i hs
      split at h
      · cases h
      · cases h
        rw [Member.slot?, ← hskip, if_neg hs, Member.declaration, hof.column, hof.primaryKey, Member.declared]

theorem slotsFrom_eq_ok {n : Nat} {fs : List Member} {slots : List Slot} (h : slotsFrom n fs = .ok slots) :
    slots = (fs.zipIdx n).filterMap fun x => x.1.slot? x.2 := by
  induction fs generalizing n slots with
  | nil => cases h; rfl
  | cons f fs ih =>
    obtain ⟨o, rest, ho, hrest, rfl⟩ := slotsFrom_cons_eq_ok h
    rw [List.zipIdx_cons, List.filterMap_cons, Member.slot_eq_ok ho, ih hrest]
    cases f.slot? n <;> rfl

theorem tableOf_eq_ok {attributes : List Attribute} {table : Option String} (h : tableOf attributes = .ok table) :
    table = (attributes.find? (·.name = "table_name")).bind (·.text?) := by
  unfold tableOf at h
  split at h
  · rename_i hf
    cases h
    rw [hf]
    rfl
  · rename_i a hf
    split at h
    · rename_i t hv
      cases h
      rw [hf]
      exact (Attribute.text?_of_value hv).symm
    · cases h

namespace Derived

variable {d : Derived}

/-- The members that are not skipped, in the order of the definition. -/
def declaredMembers (d : Derived) : List (Fin d.definition.members.length) :=
  (List.finRange _).filter fun i => !(d.member i).isSkipped

/-- The slot of a declared member. -/
def slotOf (d : Derived) (i : Fin d.definition.members.length) : Slot := ⟨i, d.member i, (d.member i).declared⟩

theorem zipIdx_members (d : Derived) :
    d.definition.members.zipIdx = (List.finRange _).map fun i : Fin d.definition.members.length => (d.member i, i.val) := by
  apply List.ext_getElem?
  intro k
  by_cases hk : k < d.definition.members.length
  · simp [hk, member]
  · simp [hk]

theorem slots_eq (d : Derived) : d.expansion.slots = d.declaredMembers.map d.slotOf := by
  rw [slotsFrom_eq_ok d.slots_eq_ok, zipIdx_members, List.filterMap_map, declaredMembers, ← List.filterMap_eq_filter,
    List.map_filterMap]
  congr 1
  funext i
  cases hs : (d.member i).isSkipped with
  | true => simp [Member.slot?, Option.guard, hs]
  | false => simp [Member.slot?, Option.guard, slotOf, hs]

/-- The table that the first attribute of that name gives. -/
def declaredTable (d : Derived) : Option String :=
  (d.definition.attributes.find? (·.name = "table_name")).bind (·.text?)

theorem table_eq (d : Derived) : d.expansion.name = d.definition.name ∧ d.expansion.table = d.declaredTable :=
  have hparts := Definition.parts_of_expand d.expand_eq_ok
  ⟨hparts.1, tableOf_eq_ok hparts.2.1⟩

/-- The declaration is that of the members that are not skipped, in their order. -/
theorem declaration_eq (d : Derived) :
    d.expansion.declaration =
      ⟨d.definition.name, d.declaredTable, d.declaredMembers.map fun i => (d.member i).declared⟩ := by
  simp only [Expansion.declaration, d.table_eq, d.slots_eq, List.map_map]
  rfl

/-! ## The accessors at an index -/

theorem read_eq (d : Derived) (index : Nat) (v : Value) :
    d.read index v = match d.declaredMembers[index]? with
      | none => .error (.unknownField index)
      | some i => match (d.types (d.member i).type).read v with
        | .ok c => .ok (d.slotOf i, c)
        | .error e => .error e := by
  rw [read, slots_eq, List.getElem?_map]
  cases d.declaredMembers[index]? with
  | none => rfl
  | some i => rfl

theorem checkField_eq (d : Derived) (index : Nat) (v : Value) :
    Entity.checkField d.Record index v = match d.declaredMembers[index]? with
      | none => .error (.unknownField index)
      | some i => match (d.types (d.member i).type).read v with
        | .ok _ => .ok ()
        | .error e => .error e := by
  simp only [Entity.checkField, read_eq]
  cases d.declaredMembers[index]? with
  | none => rfl
  | some i =>
    dsimp only
    cases (d.types (d.member i).type).read v <;> rfl

theorem bindField_eq (index : Nat) (v : Value) (r : d.Record) :
    Entity.bindField index v r = match d.declaredMembers[index]? with
      | none => (.error (.unknownField index), r)
      | some i => match (d.types (d.member i).type).read v with
        | .ok c => (.ok (), r.put i c)
        | .error e => (.error e, r) := by
  simp only [Entity.bindField, read_eq]
  cases d.declaredMembers[index]? with
  | none => rfl
  | some i =>
    dsimp only
    cases (d.types (d.member i).type).read v <;> rfl

end Derived

/-! ## What conversions report -/

namespace MemberType

/-- Conversions report what is wrong with the value: a NULL, another kind, an unfit content. That
    there is no field at an index is for the accessors alone to report. -/
def ReportsValues (t : MemberType) : Prop := ∀ v index, t.read v ≠ .error (.unknownField index)

theorem optional_ne_nullValue (t : MemberType) (v : Value) : t.optional.read v ≠ .error .nullValue := by
  simp only [optional, Value.optional?]
  cases t.read v with
  | ok c => simp
  | error e => cases e <;> simp

theorem ReportsValues.optional {t : MemberType} (h : t.ReportsValues) : t.optional.ReportsValues := by
  intro v index
  have hv := h v index
  simp only [MemberType.optional, Value.optional?]
  cases hr : t.read v with
  | ok c => simp
  | error e =>
    rw [hr] at hv
    cases e with
    | unknownField i => simpa using hv
    | nullValue | typeMismatch | conversion => simp

theorem reportsValues_map {α : Type} {extract : Value → Except ExtractError α} {f : α → Content} {initial : Content}
    (h : ∀ v index, extract v ≠ .error (.unknownField index)) :
    ReportsValues ⟨fun v => (extract v).map f, initial⟩ := by
  intro v index
  have hv := h v index
  cases he : extract v with
  | ok a => simp [he, Except.map]
  | error e =>
    rw [he] at hv
    simpa [he, Except.map] using hv

theorem toText_ne_unknownField (v : Value) (index : Nat) : v.toText ≠ .error (.unknownField index) := by
  intro h
  cases v with
  | string o | char o => cases o <;> cases h
  | _ => cases h

theorem toInteger_ne_unknownField (type : IntegerType) (v : Value) (index : Nat) :
    v.toInteger type ≠ .error (.unknownField index) := by
  unfold Value.toInteger
  split
  · simp
  · simp
  · split <;> simp

theorem toBoolean_ne_unknownField (v : Value) (index : Nat) : v.toBoolean ≠ .error (.unknownField index) := by
  have hinteger : ∀ n, Value.booleanOfInteger n ≠ .error (.unknownField index) := by
    intro n
    unfold Value.booleanOfInteger
    split
    · simp
    · split <;> simp
  intro h
  cases v with
  | bool o => cases o <;> cases h
  | tinyInt o | smallInt o | int o | bigInt o =>
    cases o with
    | none => cases h
    | some n => exact hinteger n.toInt h
  | _ => cases h

theorem toJson_ne_unknownField (v : Value) (index : Nat) : v.toJson ≠ .error (.unknownField index) := by
  unfold Value.toJson
  split
  case h_2 => split <;> simp
  all_goals simp

theorem reportsValues_plainType {foreign : TypeExpr → MemberType} (h : ∀ t, (foreign t).ReportsValues) (t : TypeExpr) :
    (plainType foreign t).ReportsValues := by
  unfold plainType
  split
  · exact reportsValues_map toJson_ne_unknownField
  · exact reportsValues_map toBoolean_ne_unknownField
  · exact reportsValues_map toText_ne_unknownField
  · exact reportsValues_map fun v index => by unfold Value.toBytes; split <;> simp
  · split
    · exact reportsValues_map (toInteger_ne_unknownField _)
    · exact h t
  · split
    · exact reportsValues_map (toInteger_ne_unknownField _)
    · exact h t
  · split
    · exact reportsValues_map fun v index => by unfold Value.toSingle; split <;> simp
    · exact reportsValues_map fun v index => by unfold Value.toDouble; split <;> simp
  · exact h t

/-- All conversions report values, if those of foreign types do. -/
theorem reportsValues_memberType {foreign : TypeExpr → MemberType} (h : ∀ t, (foreign t).ReportsValues) (t : TypeExpr) :
    (memberType foreign t).ReportsValues := by
  fun_induction memberType foreign t with
  | case1 t u hu ih => exact ih.optional
  | case2 t hn => exact reportsValues_plainType h t

end MemberType

/-! ## Declaration and accessors together -/

namespace Derived

variable {d : Derived}

theorem length_declared (d : Derived) : d.expansion.declaration.fields.length = d.declaredMembers.length := by
  rw [declaration_eq, List.length_map]

/-- Storing answers what checking answers. -/
theorem bindField_fst (index : Nat) (v : Value) (r : d.Record) :
    (Entity.bindField index v r).1 = Entity.checkField d.Record index v := by
  simp only [Entity.bindField, Entity.checkField]
  cases d.read index v <;> rfl

theorem bindField_snd_of_error {index : Nat} {v : Value} {r : d.Record} {e : ExtractError}
    (h : (Entity.bindField index v r).1 = .error e) : (Entity.bindField index v r).2 = r := by
  simp only [Entity.bindField] at h ⊢
  cases hr : d.read index v with
  | ok x => rw [hr] at h; cases h
  | error e' => rfl

/-- A value stored goes into the declared member of the index, and into no other. -/
theorem bindField_content {index : Nat} {v : Value} {i : Fin d.definition.members.length} {c : Content}
    (hi : d.declaredMembers[index]? = some i) (hc : (d.types (d.member i).type).read v = .ok c) (r : d.Record) :
    (Entity.bindField index v r).2.content i = c ∧
      ∀ j, i ≠ j → (Entity.bindField index v r).2.content j = r.content j := by
  rw [bindField_eq, hi]
  dsimp only
  rw [hc]
  exact ⟨r.content_put_self i c, fun j hj => r.content_put_ne c hj⟩

/-- An index has a declared member, or is not below their number. -/
theorem checkField_eq_unknownField_iff
    (h : ∀ i ∈ d.declaredMembers, (d.types (d.member i).type).ReportsValues) (index : Nat) (v : Value) :
    Entity.checkField d.Record index v = .error (.unknownField index) ↔ d.expansion.declaration.fields.length ≤ index := by
  rw [checkField_eq, length_declared]
  cases hi : d.declaredMembers[index]? with
  | none => simpa using hi
  | some i =>
    have hreports := h i (List.mem_of_getElem? hi) v index
    have hlt : ¬ d.declaredMembers.length ≤ index := Nat.not_le.mpr (List.getElem?_eq_some_iff.mp hi).1
    refine iff_of_false ?_ hlt
    dsimp only
    cases hr : (d.types (d.member i).type).read v with
    | ok c => simp
    | error e =>
      rw [hr] at hreports
      simpa using hreports

/-- A field declared nullable takes a NULL of its type for a missing value. -/
theorem checkField_ne_nullValue {index : Nat} {f : FieldDeclaration}
    (hf : d.expansion.declaration.fields[index]? = some f) (hn : f.nullable = true) (v : Value) :
    Entity.checkField d.Record index v ≠ .error .nullValue := by
  rw [declaration_eq, List.getElem?_map, Option.map_eq_some_iff] at hf
  obtain ⟨i, hi, rfl⟩ := hf
  obtain ⟨u, hu⟩ := Option.isSome_iff_exists.mp hn
  have hne := (d.types u).optional_ne_nullValue v
  rw [checkField_eq, hi]
  dsimp only
  rw [d.optional_types _ u hu]
  cases hr : (d.types u).optional.read v with
  | ok c => simp
  | error e =>
    rw [hr] at hne
    simpa using hne

end Derived

/-- What is declared of an accepted definition is what its members that are not skipped say, in
    their order. At every index, with every value and for every record, storing answers
    what checking answers; a failure leaves the record alone, a success puts the converted
    value into the declared member of that index and leaves all others alone. Without such a
    member the index is reported, and with one it is not, as long as conversions report
    values. No field declared nullable is found to be NULL. -/
theorem accessors_agree (d : Derived) :
    d.expansion.declaration =
      ⟨d.definition.name, d.declaredTable, d.declaredMembers.map fun i => (d.member i).declared⟩ ∧
    ∀ (index : Nat) (v : Value) (r : d.Record),
      let check := Entity.checkField d.Record index v
      let bound := Entity.bindField index v r
      bound.1 = check ∧ (∀ e, bound.1 = .error e → bound.2 = r) ∧
      (match d.declaredMembers[index]? with
        | none => check = .error (.unknownField index)
        | some i => match (d.types (d.member i).type).read v with
          | .error e => check = .error e
          | .ok c => check = .ok () ∧ bound.2.content i = c ∧ ∀ j, i ≠ j → bound.2.content j = r.content j) ∧
      ((∀ i ∈ d.declaredMembers, (d.types (d.member i).type).ReportsValues) →
        (check = .error (.unknownField index) ↔ d.expansion.declaration.fields.length ≤ index)) ∧
      ∀ f, d.expansion.declaration.fields[index]? = some f → f.nullable = true → check ≠ .error .nullValue := by
  refine ⟨d.declaration_eq, fun index v r => ⟨Derived.bindField_fst index v r,
    fun e he => Derived.bindField_snd_of_error he, ?_, fun h => Derived.checkField_eq_unknownField_iff h index v,
    fun f hf hn => Derived.checkField_ne_nullValue hf hn v⟩⟩
  have hcheck := d.checkField_eq index v
  cases hi : d.declaredMembers[index]? with
  | none => rw [hi] at hcheck; exact hcheck
  | some i =>
    rw [hi] at hcheck
    dsimp only at hcheck ⊢
    cases hr : (d.types (d.member i).type).read v with
    | error e => rw [hr] at hcheck; exact hcheck
    | ok c => rw [hr] at hcheck; exact ⟨hcheck, Derived.bindField_content hi hr r⟩

open Samples

theorem status_reportsValues : status.ReportsValues := by
  intro v index
  have hv := MemberType.toText_ne_unknownField v index
  simp only [status]
  cases ht : v.toText with
  | error e =>
    rw [ht] at hv
    simpa using hv
  | ok s =>
    dsimp only
    split <;> simp

/-- The member after the skipped one of a document has an index below its position. -/
theorem accessors_agree_document :
    documentEntity.declaredMembers = [⟨0, by decide⟩, ⟨1, by decide⟩, ⟨2, by decide⟩, ⟨3, by decide⟩, ⟨5, by decide⟩] ∧
    (∀ i ∈ documentEntity.declaredMembers, (documentEntity.types (documentEntity.member i).type).ReportsValues) ∧
    Entity.checkField documentEntity.Record 5 (.bool none) = .error (.unknownField 5) ∧
    Entity.checkField documentEntity.Record 4 (.bool none) ≠ .error (.unknownField 4) ∧
    let bound := Entity.bindField 4 (.tinyInt (some 1)) (default : documentEntity.Record)
    bound.1 = .ok () ∧ bound.2.content ⟨5, by decide⟩ = .boolean true ∧
      ∀ j, ⟨5, by decide⟩ ≠ j → bound.2.content j = Derived.Record.content default j := by
  have hreports : ∀ i ∈ documentEntity.declaredMembers,
      (documentEntity.types (documentEntity.member i).type).ReportsValues :=
    fun i _ => MemberType.reportsValues_memberType (fun _ => status_reportsValues) _
  have hlen : documentEntity.expansion.declaration.fields.length = 5 := by decide
  have hiff := fun index v => ((accessors_agree documentEntity).2 index v default).2.2.2.1 hreports
  have hi : documentEntity.declaredMembers[4]? = some ⟨5, by decide⟩ := by decide
  have hread : (documentEntity.types (documentEntity.member ⟨5, by decide⟩).type).read (.tinyInt (some 1)) =
      .ok (.boolean true) := by
    show (memberType (fun _ => status) (.named "bool")).read (.tinyInt (some 1)) = _
    rw [memberType_of_not_optional _ rfl]
    rfl
  obtain ⟨hsame, -, hstore, -⟩ := (accessors_agree documentEntity).2 4 (.tinyInt (some 1)) default
  rw [hi] at hstore
  dsimp only at hstore
  rw [hread] at hstore
  obtain ⟨hcheck, hself, hothers⟩ := hstore
  refine ⟨by decide, hreports, (hiff 5 (.bool none)).mpr (by rw [hlen]), fun h => ?_, hsame.trans hcheck, hself, hothers⟩
  have := (hiff 4 (.bool none)).mp h
  omega

end EntityQuery.Derive
