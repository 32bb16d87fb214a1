/-
  EntityQuery.Proofs.Schema.Described — what describing a declaration gives, and what a
  registry holds.

  A descriptor keeps its fields in a list and, beside it, a table from columns to positions
  in that list. One pass over the declaration fills both, and afterwards nobody compares
  them: a look-up asks the table and indexes the list with the answer. `Describes` says what
  the two are for a declaration, so that they are inverse to each other:
  - `describe_describes`: whatever `Declaration.describe` returns is such a descriptor.
  - `field?_eq_some_iff` / `hasColumn_iff`: a look-up finds exactly the field of that column.
  - `columns_nodup`: no column occurs twice.

  A registry is reached from the empty one by sections under the exclusive lock, each for
  one type with the declaration of that type. `reach_describe`: what it answers for a type
  is the descriptor of the declaration of that type, however often and in whatever order
  types were described before.
-/
import EntityQuery.Schema.Registry

namespace EntityQuery.Schema

/-! ## One pass over the declared fields -/

/-- The field that a declared field becomes at a position. -/
def FieldDeclaration.resolve (g : FieldDeclaration) (index : Nat) (primaryKey : Bool) : Field :=
  ⟨index, g.ident, g.resolvedColumn, g.type, g.nullable, primaryKey⟩

theorem lookup_eq_some_iff_mem {β : Type} {l : List (String × β)} (h : (l.map (·.1)).Nodup) {a : String} {b : β} :
    l.lookup a = some b ↔ (a, b) ∈ l := by
  induction l with
  | nil => simp
  | cons x l ih =>
    obtain ⟨a', b'⟩ := x
    simp only [List.map_cons, List.nodup_cons] at h
    by_cases e : a = a'
    · subst e
      simp only [List.lookup_cons, BEq.rfl, Option.some.injEq, List.mem_cons, Prod.mk.injEq, true_and]
      constructor
      · intro hb; exact Or.inl hb.symm
      · rintro (rfl | hm)
        · rfl
        · exact absurd (List.mem_map.mpr ⟨_, hm, rfl⟩) h.1
    · have hne : (a == a') = false := by simpa using e
      simp [List.lookup_cons, hne, e, ih h.2]

/-- The table of declared columns. -/
def columnTable (gs : List FieldDeclaration) : List (String × Nat) := gs.mapIdx fun i g => (g.resolvedColumn, i)

theorem columnTable_keys (gs : List FieldDeclaration) : (columnTable gs).map (·.1) = gs.map (·.resolvedColumn) := by
  apply List.ext_getElem?
  intro i
  simp [columnTable, Function.comp_def]

theorem lookup_columnTable {gs : List FieldDeclaration} (h : (gs.map (·.resolvedColumn)).Nodup) {c : String} {i : Nat} :
    (columnTable gs).lookup c = some i ↔ ∃ g, gs[i]? = some g ∧ g.resolvedColumn = c := by
  rw [lookup_eq_some_iff_mem (by rw [columnTable_keys]; exact h), columnTable, List.mem_mapIdx]
  constructor
  · rintro ⟨j, hj, he⟩
    cases he
    exact ⟨gs[i], List.getElem?_eq_getElem hj, rfl⟩
  · rintro ⟨g, hg, rfl⟩
    obtain ⟨hi, rfl⟩ := List.getElem?_eq_some_iff.mp hg
    exact ⟨i, hi, rfl⟩

/-- What a pass has built after some declared fields. -/
structure Described.Of (done : List FieldDeclaration) (s : Described) : Prop where
  fields : s.fields = done.mapIdx fun i g => g.resolve i false
  byColumn : s.byColumn = columnTable done
  distinct : (done.map (·.resolvedColumn)).Nodup

theorem Described.add_eq_ok {d : Declaration} {s s' : Described} {f : FieldDeclaration} (h : s.add d f = .ok s') :
    s.byColumn.lookup f.resolvedColumn = none ∧ ∃ key, s' = s.push f key := by
  unfold Described.add at h
  split at h
  · cases h
  · split at h
    · cases h
    · rename_i hl
      refine ⟨hl, ?_⟩
      split at h
      · split at h
        · cases h
        · cases h; exact ⟨_, rfl⟩
      · cases h; exact ⟨_, rfl⟩

theorem Described.of_add {d : Declaration} {done : List FieldDeclaration} {s s' : Described} {f : FieldDeclaration}
    (hs : s.Of done) (h : s.add d f = .ok s') : s'.Of (done ++ [f]) := by
  obtain ⟨hl, key, rfl⟩ := Described.add_eq_ok h
  have hlen : s.fields.length = done.length := by simp [hs.fields]
  refine ⟨?_, ?_, ?_⟩
  · simp [Described.push, hs.fields, FieldDeclaration.resolve]
  · simp [Described.push, hs.byColumn, hlen, columnTable]
  · rw [List.map_append, List.nodup_append]
    refine ⟨hs.distinct, by simp, ?_⟩
    intro c hc c' hc' e
    obtain ⟨g, hg, rfl⟩ := List.mem_map.mp hc
    obtain ⟨i, hi⟩ := List.getElem?_of_mem hg
    have hf : g.resolvedColumn = f.resolvedColumn := by simpa [← e] using hc'
    have := (lookup_columnTable hs.distinct).mpr ⟨g, hi, hf⟩
    rw [← hs.byColumn, hl] at this
    cases this

theorem describeFields_of {d : Declaration} : ∀ {fs done : List FieldDeclaration} {s s' : Described}, s.Of done →
    describeFields d s fs = .ok s' → s'.Of (done ++ fs) := by
  intro fs
  induction fs with
  | nil => intro done s s' hs h; cases h; simpa using hs
  | cons f fs ih =>
    intro done s s' hs h
    unfold describeFields at h
    split at h
    · rename_i s1 h1
      simpa using ih (Described.of_add hs h1) h
    · cases h

/-! ## Descriptors -/

/-- The descriptor has the fields of the declaration, in order, and the table of their
    columns, which differ. -/
structure Descriptor.Describes (d : Descriptor) (decl : Declaration) : Prop where
  name : d.name = decl.name
  table : d.table = decl.resolvedTable
  nonempty : decl.fields ≠ []
  fields : d.fields = decl.fields.mapIdx fun i g => g.resolve i (d.keyIndex = some i)
  byColumn : d.byColumn = columnTable decl.fields
  distinct : (decl.fields.map (·.resolvedColumn)).Nodup

theorem markKey_resolved (gs : List FieldDeclaration) (key : Option Nat) :
    markKey (gs.mapIdx fun i g => g.resolve i false) key = gs.mapIdx fun i g => g.resolve i (key = some i) := by
  apply List.ext_getElem?
  intro i
  cases key with
  | none => simp [markKey]
  | some k =>
    by_cases e : k = i
    · subst e
      simp [markKey, Function.comp_def, FieldDeclaration.resolve]
    · simp [markKey, e]

theorem describe_describes {decl : Declaration} {d : Descriptor} (h : decl.describe = .ok d) : d.Describes decl := by
  unfold Declaration.describe at h
  split at h
  · cases h
  · rename_i hne
    split at h
    · cases h
    · split at h
      · cases h
      · rename_i s hs
        have hof : s.Of ([] ++ decl.fields) := describeFields_of ⟨rfl, rfl, List.nodup_nil⟩ hs
        simp only [List.nil_append] at hof
        cases h
        refine ⟨rfl, rfl, by simpa using hne, ?_, hof.byColumn, hof.distinct⟩
        show markKey s.fields _ = _
        rw [hof.fields, markKey_resolved]

namespace Descriptor.Describes

variable {d : Descriptor} {decl : Declaration}

theorem columns_eq (h : d.Describes decl) : d.columns = decl.fields.map (·.resolvedColumn) := by
  apply List.ext_getElem?
  intro i
  simp [Descriptor.columns, h.fields, Function.comp_def, FieldDeclaration.resolve]

theorem columns_nodup (h : d.Describes decl) : d.columns.Nodup := by
  rw [h.columns_eq]; exact h.distinct

theorem fields_ne_nil (h : d.Describes decl) : d.fields ≠ [] := by
  rw [h.fields]
  simpa using h.nonempty

/-- The field at a position is the declared one. -/
theorem getElem?_fields (h : d.Describes decl) (i : Nat) :
    d.fields[i]? = decl.fields[i]?.map fun g => g.resolve i (d.keyIndex = some i) := by
  simp [h.fields]

theorem index_eq (h : d.Describes decl) {i : Nat} {f : Field} (hf : d.fields[i]? = some f) : f.index = i := by
  rw [h.getElem?_fields, Option.map_eq_some_iff] at hf
  obtain ⟨g, -, rfl⟩ := hf
  rfl

theorem lookup_eq_some_iff (h : d.Describes decl) {c : String} {i : Nat} :
    d.byColumn.lookup c = some i ↔ ∃ f, d.fields[i]? = some f ∧ f.column = c := by
  rw [h.byColumn, lookup_columnTable h.distinct]
  constructor
  · rintro ⟨g, hg, rfl⟩
    exact ⟨g.resolve i (d.keyIndex = some i), by simp [h.getElem?_fields, hg], rfl⟩
  · rintro ⟨f, hf, rfl⟩
    rw [h.getElem?_fields, Option.map_eq_some_iff] at hf
    obtain ⟨g, hg, rfl⟩ := hf
    exact ⟨g, hg, rfl⟩

/-- A look-up finds exactly the field of that column. -/
theorem field?_eq_some_iff (h : d.Describes decl) {c : String} {f : Field} :
    d.field? c = some f ↔ f ∈ d.fields ∧ f.column = c := by
  unfold Descriptor.field?
  rw [Option.bind_eq_some_iff]
  constructor
  · rintro ⟨i, hi, hf⟩
    obtain ⟨f', hf', hc⟩ := h.lookup_eq_some_iff.mp hi
    rw [hf] at hf'
    cases hf'
    exact ⟨List.mem_of_getElem? hf, hc⟩
  · rintro ⟨hf, hc⟩
    obtain ⟨i, hi⟩ := List.getElem?_of_mem hf
    exact ⟨i, h.lookup_eq_some_iff.mpr ⟨f, hi, hc⟩, hi⟩

theorem hasColumn_iff (h : d.Describes decl) {c : String} : d.hasColumn c = true ↔ c ∈ d.columns := by
  rw [Descriptor.hasColumn, Option.isSome_iff_exists, Descriptor.columns, List.mem_map]
  constructor
  · rintro ⟨i, hi⟩
    obtain ⟨f, hf, hc⟩ := h.lookup_eq_some_iff.mp hi
    exact ⟨f, List.mem_of_getElem? hf, hc⟩
  · rintro ⟨f, hf, hc⟩
    obtain ⟨i, hi⟩ := List.getElem?_of_mem hf
    exact ⟨i, h.lookup_eq_some_iff.mpr ⟨f, hi, hc⟩⟩

end Descriptor.Describes

/-! ## Registries -/

/-- The registries that describing types leads to, each type with its own declaration. -/
inductive Registry.Reach (declared : TypeKey → Declaration) : Registry → Prop
  | empty : Reach declared Registry.empty
  | enrol {r : Registry} (key : TypeKey) : Reach declared r → Reach declared (r.enrol key (declared key)).2

variable {declared : TypeKey → Declaration} {r : Registry}

theorem enrol_lookup {key k : TypeKey} {decl : Declaration} {e : Entry} (h : (r.enrol key decl).2.lookup k = some e) :
    r.lookup k = some e ∨ (k = key ∧ decl.describe = .ok e.descriptor) := by
  unfold Registry.enrol at h
  split at h
  · exact Or.inl h
  · split at h
    · exact Or.inl h
    · rename_i descriptor hd
      simp only [Registry.lookup, List.lookup_append, Option.or_eq_some_iff] at h
      rcases h with h | ⟨-, h⟩
      · exact Or.inl h
      · by_cases e : k = key
        · subst e
          simp only [List.lookup_cons, BEq.rfl, Option.some.injEq] at h
          subst h
          exact Or.inr ⟨rfl, hd⟩
        · have hne : (k == key) = false := by simpa using e
          simp [List.lookup_cons, hne] at h

theorem reach_lookup (hr : r.Reach declared) {key : TypeKey} {e : Entry} (h : r.lookup key = some e) :
    (declared key).describe = .ok e.descriptor := by
  induction hr with
  | empty => cases h
  | enrol k _ ih =>
    rcases enrol_lookup h with h | ⟨rfl, h⟩
    · exact ih h
    · exact h

/-- What a registry answers for a type is the descriptor of its declaration. -/
theorem reach_describe (hr : r.Reach declared) {key : TypeKey} {e : Entry}
    (h : (r.describe key (declared key)).1 = .ok e) : (declared key).describe = .ok e.descriptor := by
  unfold Registry.describe Registry.enrol at h
  cases hl : r.lookup key with
  | some e' =>
    simp only [hl] at h
    cases h
    exact reach_lookup hr hl
  | none =>
    simp only [hl] at h
    split at h
    · cases h
    · rename_i descriptor hd
      cases h
      exact hd

end EntityQuery.Schema
