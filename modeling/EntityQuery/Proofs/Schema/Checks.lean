/-
  EntityQuery.Proofs.Schema.Checks — which declarations are described, and what the others are
  refused for.

  Describing goes through the declared fields once and stops at the first that fails a check
  against those before it. What the checks are is said here of the declared fields alone, without
  the pass and what it builds:
  - `FieldDeclaration.Passes` says that nothing is wrong with a field after some others,
    `FieldDeclaration.Fault` what is, and what is reported of it: an empty column before a
    column already taken, and that before a second primary key. The other field that a
    report names is the only one before it with that column, or that mark.
  - `Declaration.WellFormed` says of all fields at once that each of them passes, and
    `Declaration.Refused` what is wrong with a declaration first.
  - `Declaration.KeyAt` says which field is the primary key.

  A field either passes or has a fault, and the pass tells which (`Described.add_cases`), so a
  pass goes through the whole declaration or ends with its first fault (`describeFields_cases`).
  Only one error is that of a first fault (`Declaration.FirstFault.unique`).

  `described_or_first_fault`: a declaration is described exactly if it is well formed, its
  descriptor has the declared fields, found by their columns and exactly one of them the key, if
  there is a key; and it is refused with an error exactly if that is what is wrong with it first.
-/
import EntityQuery.Proofs.Schema.Described
import EntityQuery.Proofs.Text.LetterCase

namespace EntityQuery.Schema

/-! ## Names in any case -/

def idSpellings : List String := ["id", "iD", "Id", "ID"]

theorem isId_iff {s : String} : isId s = true ↔ s ∈ idSpellings := by
  have hi : ∀ c : Char, c.toLower = 'i' ↔ c = 'i' ∨ c = 'I' :=
    fun _ => Text.LetterCase.toLower_eq_iff (by decide) (by decide) (by decide)
  have hd : ∀ c : Char, c.toLower = 'd' ↔ c = 'd' ∨ c = 'D' :=
    fun _ => Text.LetterCase.toLower_eq_iff (by decide) (by decide) (by decide)
  simp only [isId, beq_iff_eq, idSpellings, List.mem_cons, List.not_mem_nil, or_false, ← String.toList_inj]
  constructor
  · intro h
    obtain ⟨a, t, hs, ha, ht⟩ := List.map_eq_cons_iff.mp h
    obtain ⟨b, u, ht', hb, hu⟩ := List.map_eq_cons_iff.mp ht
    rw [hs, ht', List.map_eq_nil_iff.mp hu]
    rcases (hi a).mp ha with rfl | rfl
    · rcases (hd b).mp hb with rfl | rfl <;> simp
    · rcases (hd b).mp hb with rfl | rfl <;> simp
  · rintro (h | h | h | h)
    · rw [h]; decide
    · rw [h]; decide
    · rw [h]; decide
    · rw [h]; decide

/-! ## One field after others -/

/-- Of the members of a list just the one, at one place, has the property. -/
def OnlyOne {α : Type} (p : α → Prop) (l : List α) (x : α) : Prop :=
  ∃ i : Nat, l[i]? = some x ∧ ∀ (j : Nat) (y : α), l[j]? = some y → (p y ↔ j = i)

theorem OnlyOne.mem {α : Type} {p : α → Prop} {l : List α} {x : α} (h : OnlyOne p l x) : x ∈ l ∧ p x := by
  obtain ⟨i, hx, honly⟩ := h
  exact ⟨List.mem_of_getElem? hx, (honly i x hx).mpr rfl⟩

theorem OnlyOne.unique {α : Type} {p : α → Prop} {l : List α} {x y : α} (hx : OnlyOne p l x) (hy : OnlyOne p l y) :
    x = y := by
  obtain ⟨i, hxi, hi⟩ := hx
  obtain ⟨j, hyj, hj⟩ := hy
  have hij : i = j := (hj i x hxi).mp ((hi i x hxi).mpr rfl)
  rw [hij, hyj] at hxi
  exact (Option.some.inj hxi).symm

namespace FieldDeclaration

/-- Nothing is wrong with a field after others. -/
structure Passes (before : List FieldDeclaration) (f : FieldDeclaration) : Prop where
  named : f.column ≠ some ""
  free : ∀ g ∈ before, g.resolvedColumn ≠ f.resolvedColumn
  onlyKey : f.primaryKey = true → ∀ g ∈ before, g.primaryKey = false

/-- What is wrong with a field after others, as it is reported. -/
inductive Fault (entity : String) (before : List FieldDeclaration) (f : FieldDeclaration) : SchemaError → Prop
  | emptyName : f.column = some "" → Fault entity before f (.emptyName entity (some f.ident))
  | duplicateColumn {g : FieldDeclaration} : f.column ≠ some "" →
      OnlyOne (·.resolvedColumn = f.resolvedColumn) before g →
      Fault entity before f (.duplicateColumn entity f.resolvedColumn g.ident f.ident)
  | multiplePrimaryKeys {g : FieldDeclaration} : f.column ≠ some "" →
      (∀ h ∈ before, h.resolvedColumn ≠ f.resolvedColumn) → f.primaryKey = true →
      OnlyOne (·.primaryKey = true) before g →
      Fault entity before f (.multiplePrimaryKeys entity g.ident f.ident)

variable {entity : String} {before : List FieldDeclaration} {f : FieldDeclaration} {e e' : SchemaError}

theorem Fault.not_passes (h : f.Fault entity before e) : ¬ f.Passes before := by
  intro hp
  cases h with
  | emptyName he => exact hp.named he
  | duplicateColumn _ hg => exact hp.free _ hg.mem.1 hg.mem.2
  | multiplePrimaryKeys _ _ hk hg => simpa [hg.mem.2] using hp.onlyKey hk _ hg.mem.1

theorem Fault.unique (h : f.Fault entity before e) (h' : f.Fault entity before e') : e = e' := by
  cases h with
  | emptyName he =>
    cases h' with
    | emptyName => rfl
    | duplicateColumn hn => exact absurd he hn
    | multiplePrimaryKeys hn => exact absurd he hn
  | duplicateColumn hn hg =>
    cases h' with
    | emptyName he => exact absurd he hn
    | duplicateColumn _ hg' => rw [hg.unique hg']
    | multiplePrimaryKeys _ hfree => exact absurd hg.mem.2 (hfree _ hg.mem.1)
  | multiplePrimaryKeys hn hfree _ hg =>
    cases h' with
    | emptyName he => exact absurd he hn
    | duplicateColumn _ hg' => exact absurd hg'.mem.2 (hfree _ hg'.mem.1)
    | multiplePrimaryKeys _ _ _ hg' => rw [hg.unique hg']

/-- The field is called `id`, or stored in a column of that name, in any case of its letters. -/
def NamedId (g : FieldDeclaration) : Prop := g.ident ∈ idSpellings ∨ g.resolvedColumn ∈ idSpellings

end FieldDeclaration

/-! ## Whole declarations -/

namespace Declaration

/-- There are fields, no explicit name is empty, the columns differ, and at most one field is
    marked as primary key. -/
structure WellFormed (d : Declaration) : Prop where
  fields : d.fields ≠ []
  table : d.table ≠ some ""
  named : ∀ f ∈ d.fields, f.column ≠ some ""
  distinct : (d.fields.map (·.resolvedColumn)).Nodup
  oneKey : d.fields.countP (·.primaryKey) ≤ 1

/-- The error is that of the field at the smallest position at which a check fails. -/
def FirstFault (d : Declaration) (e : SchemaError) : Prop :=
  ∃ (i : Nat) (f : FieldDeclaration), d.fields[i]? = some f ∧ f.Fault d.name (d.fields.take i) e ∧
    ∀ (j : Nat) (g : FieldDeclaration), j < i → d.fields[j]? = some g → g.Passes (d.fields.take j)

/-- What is wrong with a declaration first, as it is reported. -/
inductive Refused (d : Declaration) : SchemaError → Prop
  | noFields : d.fields = [] → Refused d (.noFields d.name)
  | emptyTable : d.fields ≠ [] → d.table = some "" → Refused d (.emptyName d.name none)
  | firstFault {e : SchemaError} : d.fields ≠ [] → d.table ≠ some "" → d.FirstFault e → Refused d e

/-- The field at a position is the key: the marked one, or the first called `id` if none is. -/
def KeyAt (d : Declaration) (i : Nat) : Prop :=
  ∃ g, d.fields[i]? = some g ∧
    (g.primaryKey = true ∨ (∀ h ∈ d.fields, h.primaryKey = false) ∧ g.NamedId ∧
      ∀ (j : Nat) (h : FieldDeclaration), j < i → d.fields[j]? = some h → ¬ h.NamedId)

variable {d : Declaration} {e e' : SchemaError}

/-- Only one error is that of a first fault. -/
theorem FirstFault.unique (h : d.FirstFault e) (h' : d.FirstFault e') : e = e' := by
  obtain ⟨i, f, hf, hfault, hbefore⟩ := h
  obtain ⟨j, g, hg, hfault', hbefore'⟩ := h'
  rcases Nat.lt_trichotomy i j with hlt | rfl | hlt
  · exact absurd (hbefore' i f hlt hf) hfault.not_passes
  · rw [hf] at hg
    cases hg
    exact hfault.unique hfault'
  · exact absurd (hbefore j g hlt hg) hfault'.not_passes

theorem Refused.unique (h : d.Refused e) (h' : d.Refused e') : e = e' := by
  cases h with
  | noFields hf =>
    cases h' with
    | noFields => rfl
    | emptyTable hf' => exact absurd hf hf'
    | firstFault hf' => exact absurd hf hf'
  | emptyTable hf ht =>
    cases h' with
    | noFields hf' => exact absurd hf' hf
    | emptyTable => rfl
    | firstFault _ ht' => exact absurd ht ht'
  | firstFault hf ht hfault =>
    cases h' with
    | noFields hf' => exact absurd hf' hf
    | emptyTable _ ht' => exact absurd ht' ht
    | firstFault _ _ hfault' => exact hfault.unique hfault'

theorem split_at {i : Nat} {f : FieldDeclaration} (hf : d.fields[i]? = some f) :
    d.fields = d.fields.take i ++ f :: d.fields.drop (i + 1) := by
  obtain ⟨hi, rfl⟩ := List.getElem?_eq_some_iff.mp hf
  rw [← List.drop_eq_getElem_cons hi, List.take_append_drop]

theorem WellFormed.passes (h : d.WellFormed) {i : Nat} {f : FieldDeclaration} (hf : d.fields[i]? = some f) :
    f.Passes (d.fields.take i) := by
  have hsplit := split_at hf
  have hdistinct := h.distinct
  have hkey := h.oneKey
  rw [hsplit, List.map_append, List.nodup_append] at hdistinct
  rw [hsplit, List.countP_append, List.countP_cons] at hkey
  refine ⟨h.named f (List.mem_of_getElem? hf), fun g hg => ?_, fun hk g hg => ?_⟩
  · exact hdistinct.2.2 _ (List.mem_map_of_mem hg) _ (by simp)
  · rw [if_pos hk] at hkey
    have hzero : (d.fields.take i).countP (·.primaryKey) = 0 := by omega
    simpa using List.countP_eq_zero.mp hzero g hg

theorem WellFormed.not_refused (h : d.WellFormed) : ¬ d.Refused e := by
  rintro (hf | ⟨-, ht⟩ | ⟨-, -, i, f, hf, hfault, -⟩)
  · exact h.fields hf
  · exact h.table ht
  · exact hfault.not_passes (h.passes hf)

end Declaration

/-! ## The pass -/

/-- A pass has gone through some fields and found nothing wrong with them. -/
structure Described.Through (done : List FieldDeclaration) (s : Described) : Prop extends s.Of done where
  named : ∀ f ∈ done, f.column ≠ some ""
  oneKey : done.countP (·.primaryKey) ≤ 1
  key : s.key = done.findIdx? (·.primaryKey)

variable {decl : Declaration} {done rest : List FieldDeclaration} {f : FieldDeclaration} {s : Described}

theorem identAt_of_done (hd : decl.fields = done ++ rest) {i : Nat} {g : FieldDeclaration} (hg : done[i]? = some g) :
    decl.identAt i = g.ident := by
  have hi := (List.getElem?_eq_some_iff.mp hg).1
  rw [Declaration.identAt, hd, List.getElem?_append_left hi, hg]
  rfl

/-- The position that the table has for a taken column is that of the only field with it. -/
theorem Described.Through.onlyOne_column (hs : s.Through done) {c : String} {i : Nat}
    (hl : s.byColumn.lookup c = some i) :
    ∃ g, done[i]? = some g ∧ OnlyOne (·.resolvedColumn = c) done g := by
  rw [hs.byColumn] at hl
  obtain ⟨g, hg, hc⟩ := (lookup_columnTable hs.distinct).mp hl
  refine ⟨g, hg, i, hg, fun j h hh => ⟨fun hhc => ?_, ?_⟩⟩
  · have hj := (lookup_columnTable hs.distinct).mpr ⟨h, hh, hhc⟩
    rw [hl] at hj
    exact (Option.some.inj hj).symm
  · rintro rfl
    rw [hg] at hh
    cases hh
    exact hc

theorem Described.Through.free_of_lookup (hs : s.Through done) {c : String} (hl : s.byColumn.lookup c = none) :
    ∀ g ∈ done, g.resolvedColumn ≠ c := by
  intro g hg hc
  obtain ⟨i, hi⟩ := List.getElem?_of_mem hg
  rw [hs.byColumn, (lookup_columnTable hs.distinct).mpr ⟨g, hi, hc⟩] at hl
  cases hl

/-- The marked position is that of the only field with a mark. -/
theorem Described.Through.onlyOne_key (hs : s.Through done) {i : Nat} (hk : s.key = some i) :
    ∃ g, done[i]? = some g ∧ OnlyOne (·.primaryKey = true) done g := by
  rw [hs.key, List.findIdx?_eq_some_iff_getElem] at hk
  obtain ⟨hi, hmark, hbefore⟩ := hk
  have hg : done[i]? = some done[i] := List.getElem?_eq_getElem hi
  refine ⟨done[i], hg, i, hg, fun j h hh => ⟨fun hm => ?_, ?_⟩⟩
  · obtain ⟨hj, rfl⟩ := List.getElem?_eq_some_iff.mp hh
    rcases Nat.lt_trichotomy j i with hlt | rfl | hlt
    · exact absurd hm (hbefore j hlt)
    · rfl
    · -- Two marks would be counted.
      have hcount := hs.oneKey
      rw [← List.take_append_drop j done, List.countP_append, List.drop_eq_getElem_cons hj,
        List.countP_cons, if_pos hm] at hcount
      have hzero : (done.take j).countP (·.primaryKey) = 0 := by omega
      have hmem : done[i] ∈ done.take j := List.mem_of_getElem? (i := i) (by simp [hlt, hg])
      exact absurd hmark (List.countP_eq_zero.mp hzero _ hmem)
  · rintro rfl
    rw [hg] at hh
    cases hh
    exact hmark

theorem Described.Through.unmarked_of_key (hs : s.Through done) (hk : s.key = none) :
    ∀ g ∈ done, g.primaryKey = false := by
  rw [hs.key, List.findIdx?_eq_none_iff] at hk
  exact hk

theorem Described.through_empty : Described.Through [] ⟨[], [], none⟩ :=
  { fields := rfl, byColumn := rfl, distinct := List.nodup_nil, named := by simp, oneKey := by simp, key := rfl }

/-- The next field passes, or has the fault that is reported. -/
theorem Described.add_cases (hs : s.Through done) (hd : decl.fields = done ++ f :: rest) :
    (f.Passes done ∧ ∃ s', s.add decl f = .ok s' ∧ s'.Through (done ++ [f])) ∨
      ∃ e, s.add decl f = .error e ∧ f.Fault decl.name done e := by
  by_cases hn : f.column = some ""
  · exact Or.inr ⟨_, by rw [Described.add, if_pos hn], .emptyName hn⟩
  have hlen : s.fields.length = done.length := by simp [hs.fields]
  cases hl : s.byColumn.lookup f.resolvedColumn with
  | some first =>
    obtain ⟨g, hg, honly⟩ := hs.onlyOne_column hl
    refine Or.inr ⟨_, by rw [Described.add, if_neg hn, hl], ?_⟩
    rw [identAt_of_done hd hg]
    exact .duplicateColumn hn honly
  | none =>
    have hfree := hs.free_of_lookup hl
    have hnamed : ∀ g ∈ done ++ [f], g.column ≠ some "" := by
      rw [List.forall_mem_append]
      exact ⟨hs.named, by simpa using hn⟩
    cases hk : f.primaryKey with
    | false =>
      have hadd : s.add decl f = .ok (s.push f s.key) := by simp [Described.add, hn, hl, hk]
      refine Or.inl ⟨⟨hn, hfree, by simp [hk]⟩, _, hadd, { Described.of_add hs.toOf hadd with
        named := hnamed, oneKey := ?_, key := ?_ }⟩
      · simpa [List.countP_append, hk] using hs.oneKey
      · simp [Described.push, List.findIdx?_append, hk, hs.key]
    | true =>
      cases hm : s.key with
      | some first =>
        obtain ⟨g, hg, honly⟩ := hs.onlyOne_key hm
        refine Or.inr ⟨.multiplePrimaryKeys decl.name (decl.identAt first) f.ident,
          by simp [Described.add, hn, hl, hk, hm], ?_⟩
        rw [identAt_of_done hd hg]
        exact .multiplePrimaryKeys hn hfree hk honly
      | none =>
        have hunmarked := hs.unmarked_of_key hm
        have hadd : s.add decl f = .ok (s.push f (some s.fields.length)) := by simp [Described.add, hn, hl, hk, hm]
        refine Or.inl ⟨⟨hn, hfree, fun _ => hunmarked⟩, _, hadd, { Described.of_add hs.toOf hadd with
          named := hnamed, oneKey := ?_, key := ?_ }⟩
        · have hzero : done.countP (·.primaryKey) = 0 := List.countP_eq_zero.mpr (by simpa using hunmarked)
          simp [List.countP_append, hzero, hk]
        · have hnone : done.findIdx? (·.primaryKey) = none := List.findIdx?_eq_none_iff.mpr hunmarked
          simp [Described.push, List.findIdx?_append, hk, hnone, hlen]

/-- The pass goes through all fields, or ends with the error of the first fault. -/
theorem describeFields_cases {fs : List FieldDeclaration} (hs : s.Through done) (hd : decl.fields = done ++ fs)
    (hp : ∀ (j : Nat) (g : FieldDeclaration), j < done.length → decl.fields[j]? = some g →
      g.Passes (decl.fields.take j)) :
    (∃ s', describeFields decl s fs = .ok s' ∧ s'.Through decl.fields) ∨
      ∃ e, describeFields decl s fs = .error e ∧ decl.FirstFault e := by
  induction fs generalizing done s with
  | nil => exact Or.inl ⟨s, rfl, by rw [hd, List.append_nil]; exact hs⟩
  | cons f fs ih =>
    have hf : decl.fields[done.length]? = some f := by simp [hd]
    have htake : decl.fields.take done.length = done := by simp [hd]
    rcases Described.add_cases hs hd with ⟨hpass, s', hadd, hs'⟩ | ⟨e, hadd, hfault⟩
    · simp only [describeFields, hadd]
      refine ih hs' (by simp [hd]) fun j g hj hg => ?_
      rw [List.length_append, List.length_singleton] at hj
      rcases Nat.lt_succ_iff_lt_or_eq.mp hj with hlt | rfl
      · exact hp j g hlt hg
      · rw [hf] at hg
        cases hg
        rw [htake]
        exact hpass
    · refine Or.inr ⟨e, by simp only [describeFields, hadd], done.length, f, hf, ?_, hp⟩
      rw [htake]
      exact hfault

/-! ## Descriptors -/

/-- The marked field, or else the first called `id`. -/
theorem keyAt_iff_of_through {key : Option Nat} (hs : s.Through decl.fields)
    (hkey : key = s.key.or (s.fields.findIdx? fun f => isId f.ident || isId f.column)) (i : Nat) :
    key = some i ↔ decl.KeyAt i := by
  have hnames : s.fields.map (fun f => (f.ident, f.column)) = decl.fields.map fun g => (g.ident, g.resolvedColumn) := by
    apply List.ext_getElem?
    intro j
    simp [hs.fields, FieldDeclaration.resolve, Function.comp_def]
  have hid : s.fields.findIdx? (fun f => isId f.ident || isId f.column) =
      decl.fields.findIdx? fun g => isId g.ident || isId g.resolvedColumn := by
    have h := congrArg (List.findIdx? fun x : String × String => isId x.1 || isId x.2) hnames
    rwa [List.findIdx?_map, List.findIdx?_map] at h
  have hnamed : ∀ g : FieldDeclaration, (isId g.ident || isId g.resolvedColumn) = true ↔ g.NamedId := by
    intro g
    rw [Bool.or_eq_true, isId_iff, isId_iff]
    rfl
  rw [hkey, hid]
  cases hm : s.key with
  | some k =>
    obtain ⟨g, hg, k', hgk', honly⟩ := hs.onlyOne_key hm
    have hmark : g.primaryKey = true := (honly k' g hgk').mpr rfl
    have hk : k = k' := (honly k g hg).mp hmark
    rw [Option.some_or, Option.some.injEq]
    constructor
    · rintro rfl
      exact ⟨g, hg, Or.inl hmark⟩
    · rintro ⟨h, hh, hmarked | ⟨hnone, -⟩⟩
      · rw [hk, (honly i h hh).mp hmarked]
      · rw [hnone g (List.mem_of_getElem? hg)] at hmark
        cases hmark
  | none =>
    have hunmarked := hs.unmarked_of_key hm
    rw [Option.none_or, List.findIdx?_eq_some_iff_getElem]
    constructor
    · rintro ⟨hi, hfirst, hbefore⟩
      refine ⟨_, List.getElem?_eq_getElem hi, Or.inr ⟨hunmarked, (hnamed _).mp hfirst, fun j h hj hh => ?_⟩⟩
      obtain ⟨_, rfl⟩ := List.getElem?_eq_some_iff.mp hh
      exact fun hn => hbefore j hj ((hnamed _).mpr hn)
    · rintro ⟨g, hg, hmarked | ⟨-, hfirst, hbefore⟩⟩
      · rw [hunmarked g (List.mem_of_getElem? hg)] at hmarked
        cases hmarked
      · obtain ⟨hi, rfl⟩ := List.getElem?_eq_some_iff.mp hg
        refine ⟨hi, (hnamed _).mpr hfirst, fun j hj hn => ?_⟩
        have hj' : j < decl.fields.length := Nat.lt_trans hj hi
        exact hbefore j _ hj (List.getElem?_eq_getElem hj') ((hnamed _).mp hn)

/-- What describing gives, in all cases. -/
theorem describe_cases (decl : Declaration) :
    (∃ e, decl.describe = .error e ∧ decl.Refused e) ∨
      (decl.WellFormed ∧ ∃ d, decl.describe = .ok d ∧ ∀ i, d.keyIndex = some i ↔ decl.KeyAt i) := by
  unfold Declaration.describe
  by_cases hf : decl.fields = []
  · exact Or.inl ⟨_, by rw [hf]; rfl, .noFields hf⟩
  rw [if_neg (by simpa using hf)]
  by_cases ht : decl.table = some ""
  · exact Or.inl ⟨_, by rw [if_pos ht], .emptyTable hf ht⟩
  rw [if_neg ht]
  have hall : decl.fields = [] ++ decl.fields := rfl
  rcases describeFields_cases Described.through_empty hall (by simp) with ⟨s, hs, hthrough⟩ | ⟨e, he, hfault⟩
  · rw [hs]
    exact Or.inr ⟨⟨hf, ht, hthrough.named, hthrough.distinct, hthrough.oneKey⟩, _, rfl,
      keyAt_iff_of_through hthrough rfl⟩
  · rw [he]
    exact Or.inl ⟨e, rfl, .firstFault hf ht hfault⟩

theorem exists_describe_iff : (∃ d, decl.describe = .ok d) ↔ decl.WellFormed := by
  rcases describe_cases decl with ⟨e, he, hrefused⟩ | ⟨hw, d, hd, -⟩
  · rw [he]
    exact iff_of_false (by simp) fun hw => hw.not_refused hrefused
  · exact iff_of_true ⟨d, hd⟩ hw

theorem describe_eq_error_iff {e : SchemaError} : decl.describe = .error e ↔ decl.Refused e := by
  rcases describe_cases decl with ⟨e', he, hrefused⟩ | ⟨hw, d, hd, -⟩
  · rw [he, Except.error.injEq]
    constructor
    · rintro rfl
      exact hrefused
    · exact hrefused.unique
  · rw [hd]
    exact iff_of_false (by simp) hw.not_refused

theorem keyIndex_of_describe {d : Descriptor} (hd : decl.describe = .ok d) (i : Nat) :
    d.keyIndex = some i ↔ decl.KeyAt i := by
  rcases describe_cases decl with ⟨e, he, -⟩ | ⟨-, d', hd', hkey⟩
  · rw [hd] at he
    cases he
  · rw [hd] at hd'
    cases hd'
    exact hkey i

/-- Exactly the key carries the flag. -/
theorem Descriptor.Describes.primaryKey?_eq_some_iff {d : Descriptor} (h : d.Describes decl) {f : Field} :
    d.primaryKey? = some f ↔ f ∈ d.fields ∧ f.primaryKey = true := by
  rw [Descriptor.primaryKey?, Option.bind_eq_some_iff]
  constructor
  · rintro ⟨i, hi, hf⟩
    refine ⟨List.mem_of_getElem? hf, ?_⟩
    rw [h.getElem?_fields, Option.map_eq_some_iff] at hf
    obtain ⟨g, -, rfl⟩ := hf
    simpa [FieldDeclaration.resolve] using hi
  · rintro ⟨hf, hk⟩
    obtain ⟨i, hi⟩ := List.getElem?_of_mem hf
    refine ⟨i, ?_, hi⟩
    rw [h.getElem?_fields, Option.map_eq_some_iff] at hi
    obtain ⟨g, -, rfl⟩ := hi
    simpa [FieldDeclaration.resolve] using hk

/-- A declaration is described exactly if it is well formed. Its descriptor then has a field for
    each one declared, at the same position, with that position as index, its resolved column
    and what else is declared of it; a look-up finds exactly the field of a column, for every
    column that the descriptor has; and the primary key is the field at the position of the
    key, and the only one flagged. A declaration is refused with an error exactly if that is
    what is wrong with it first. -/
theorem described_or_first_fault (decl : Declaration) :
    ((∃ d, decl.describe = .ok d) ↔ decl.WellFormed) ∧
    (∀ d, decl.describe = .ok d →
      d.fields.length = decl.fields.length ∧
      (∀ (i : Nat) (g : FieldDeclaration), decl.fields[i]? = some g → ∃ f, d.fields[i]? = some f ∧ f.index = i ∧
        f.column = g.resolvedColumn ∧ f.ident = g.ident ∧ f.type = g.type ∧ f.nullable = g.nullable) ∧
      (∀ (c : String) (f : Field), d.field? c = some f ↔ f ∈ d.fields ∧ f.column = c) ∧
      (∀ c : String, (d.field? c).isSome = d.hasColumn c) ∧
      (∀ f : Field, d.primaryKey? = some f ↔ ∃ i, decl.KeyAt i ∧ d.fields[i]? = some f) ∧
      ∀ f ∈ d.fields, f.primaryKey = true ↔ d.primaryKey? = some f) ∧
    ∀ e, decl.describe = .error e ↔ decl.Refused e := by
  refine ⟨exists_describe_iff, fun d hd => ?_, fun e => describe_eq_error_iff⟩
  have hdd := describe_describes hd
  refine ⟨by simp [hdd.fields], fun i g hg => ?_, fun c f => hdd.field?_eq_some_iff, fun c => ?_, fun f => ?_,
    fun f hf => ?_⟩
  · exact ⟨g.resolve i (d.keyIndex = some i), by simp [hdd.getElem?_fields, hg], rfl, rfl, rfl, rfl, rfl⟩
  · rw [Bool.eq_iff_iff, hdd.hasColumn_iff, Option.isSome_iff_exists, Descriptor.columns, List.mem_map]
    exact exists_congr fun f => hdd.field?_eq_some_iff
  · simp only [Descriptor.primaryKey?, Option.bind_eq_some_iff, keyIndex_of_describe hd]
  · rw [hdd.primaryKey?_eq_some_iff]
    exact ⟨fun hk => ⟨hf, hk⟩, And.right⟩

/-- Its last field is wrong twice: its column is taken, and there is a primary key already. -/
def accountDeclaration : Declaration := ⟨"Account", none, [⟨"code", .text, none, true, false⟩,
  ⟨"UserID", .integer, none, false, false⟩, ⟨"user_id", .integer, none, true, false⟩]⟩

theorem described_or_first_fault_account :
    accountDeclaration.Refused (.duplicateColumn "Account" "user_id" "UserID" "user_id") ∧
      ¬ accountDeclaration.WellFormed := by
  have hrefused : accountDeclaration.describe = .error (.duplicateColumn "Account" "user_id" "UserID" "user_id") := rfl
  obtain ⟨hok, -, herror⟩ := described_or_first_fault accountDeclaration
  refine ⟨(herror _).mp hrefused, fun hw => ?_⟩
  obtain ⟨d, hd⟩ := hok.mpr hw
  rw [hrefused] at hd
  cases hd

end EntityQuery.Schema
