/-
  EntityQuery.Proofs.Query.Destinations — the three kinds of destination side by side.

  A list starts a fresh entity for every row and takes what comes out if all rows went
  through. An optional entity starts one for the first row, and a single entity takes the first
  row as it is. What they have in common is a row bound onto a fresh entity: `b.bindRow row
  default` says what that gives, whether or not the entity stores part of a row it refuses.
  - `bindAll_of_forall` / `bindAll_of_first`: all rows go through, or the first that does not
    is what is reported.
  - `forall_or_first`: one of the two is so.
  - `bindRows_optional`: an optional entity is the list of the first row alone.
  - `destinations_agree`: all three kinds, for any entity, any binder and any rows.
-/
import EntityQuery.Proofs.Query.Binding

namespace EntityQuery.Query

open Schema

namespace Binder

variable {E : Type} [Entity E] [Inhabited E] {b : Binder} {row : Row} {rows before after : List Row} {e : QueryError}

/-! ## A fresh entity -/

theorem bindFresh_of_ok (h : (b.bindRow row (default : E)).1 = .ok ()) :
    b.bindFresh E row = .ok (b.bindRow row (default : E)).2 := by
  unfold bindFresh
  rcases hb : b.bindRow row (default : E) with ⟨_ | _, entity⟩
  · rw [hb] at h; cases h
  · rfl

theorem bindFresh_of_error (h : (b.bindRow row (default : E)).1 = .error e) : b.bindFresh E row = .error e := by
  unfold bindFresh
  rcases hb : b.bindRow row (default : E) with ⟨_ | _, entity⟩
  · rw [hb] at h; cases h; rfl
  · rw [hb] at h; cases h

/-! ## A list of entities -/

theorem bindAll_of_forall (h : ∀ row ∈ rows, (b.bindRow row (default : E)).1 = .ok ()) :
    b.bindAll E rows = .ok (rows.map fun row => (b.bindRow row (default : E)).2) := by
  induction rows with
  | nil => rfl
  | cons row rows ih =>
    rw [List.forall_mem_cons] at h
    simp only [bindAll, bindFresh_of_ok h.1, ih h.2, List.map_cons]

theorem bindAll_of_first (hbefore : ∀ row ∈ before, (b.bindRow row (default : E)).1 = .ok ())
    (h : (b.bindRow row (default : E)).1 = .error e) : b.bindAll E (before ++ row :: after) = .error e := by
  induction before with
  | nil => simp only [List.nil_append, bindAll, bindFresh_of_error h]
  | cons first before ih =>
    rw [List.forall_mem_cons] at hbefore
    simp only [List.cons_append, bindAll, bindFresh_of_ok hbefore.1, ih hbefore.2]

/-- All rows go through onto fresh entities, or there is a first one that does not. -/
theorem forall_or_first (E : Type) [Entity E] [Inhabited E] (b : Binder) (rows : List Row) :
    (∀ row ∈ rows, (b.bindRow row (default : E)).1 = .ok ()) ∨
      ∃ before row after e, rows = before ++ row :: after ∧
        (∀ row ∈ before, (b.bindRow row (default : E)).1 = .ok ()) ∧ (b.bindRow row (default : E)).1 = .error e := by
  induction rows with
  | nil => exact Or.inl nofun
  | cons row rows ih =>
    cases hb : (b.bindRow row (default : E)).1 with
    | error e => exact Or.inr ⟨[], row, rows, e, rfl, nofun, hb⟩
    | ok =>
      rcases ih with hall | ⟨before, bad, after, e, rfl, hbefore, hbad⟩
      · exact Or.inl (List.forall_mem_cons.mpr ⟨hb, hall⟩)
      · exact Or.inr ⟨row :: before, bad, after, e, rfl, List.forall_mem_cons.mpr ⟨hb, hbefore⟩, hbad⟩

theorem bindRows_many_of_forall (h : ∀ row ∈ rows, (b.bindRow row (default : E)).1 = .ok ()) (old : List E) :
    b.bindRows rows .many old = (.ok rows.length, rows.map fun row => (b.bindRow row (default : E)).2) := by
  simp only [bindRows, bindAll_of_forall h, List.length_map]

theorem bindRows_many_of_first (hbefore : ∀ row ∈ before, (b.bindRow row (default : E)).1 = .ok ())
    (h : (b.bindRow row (default : E)).1 = .error e) (old : List E) :
    b.bindRows (before ++ row :: after) .many old = (.error e, old) := by
  simp only [bindRows, bindAll_of_first hbefore h]

theorem bindRows_many_ok_iff (old : List E) : (∃ n, (b.bindRows rows .many old).1 = .ok n) ↔
    ∀ row ∈ rows, (b.bindRow row (default : E)).1 = .ok () := by
  rcases forall_or_first E b rows with hall | ⟨before, row, after, e, rfl, hbefore, h⟩
  · rw [bindRows_many_of_forall hall]
    exact iff_of_true ⟨_, rfl⟩ hall
  · rw [bindRows_many_of_first hbefore h]
    refine iff_of_false nofun fun hall => ?_
    rw [hall row (by simp)] at h
    cases h

/-! ## One entity -/

/-- An optional entity and a list take one row alike. -/
theorem bindRows_optional (row : Row) (rest : List Row) (old : Option E) (list : List E) :
    (∃ entity, b.bindRows [row] .many list = (.ok 1, [entity]) ∧
      b.bindRows (row :: rest) .optional old = (.ok 1, some entity)) ∨
    ∃ e, b.bindRows [row] .many list = (.error e, list) ∧ b.bindRows (row :: rest) .optional old = (.error e, old) := by
  cases hb : (b.bindRow row (default : E)).1 with
  | ok =>
    have hall : ∀ row' ∈ [row], (b.bindRow row' (default : E)).1 = .ok () := List.forall_mem_singleton.mpr hb
    exact Or.inl ⟨_, bindRows_many_of_forall hall list, by simp only [bindRows, bindFresh_of_ok hb]⟩
  | error e =>
    have hnone : ∀ row' ∈ ([] : List Row), (b.bindRow row' (default : E)).1 = .ok () := List.forall_mem_nil _
    exact Or.inr ⟨e, bindRows_many_of_first hnone hb list, by simp only [bindRows, bindFresh_of_error hb]⟩

/-- A fresh single entity takes a row as an optional one does. -/
theorem bindRows_one_default (row : Row) (rest : List Row) (old : Option E) :
    (b.bindRows (row :: rest) .one (default : E)).1 = (b.bindRows (row :: rest) .optional old).1 ∧
    ∀ n, (b.bindRows (row :: rest) .one (default : E)).1 = .ok n →
      (b.bindRows (row :: rest) .optional old).2 = some (b.bindRows (row :: rest) .one (default : E)).2 := by
  rcases hb : b.bindRow row (default : E) with ⟨e | _, entity⟩
  · simp [bindRows, bindFresh, hb]
  · simp [bindRows, bindFresh, hb]

end Binder

/-- Any rows bound by any binder into the three kinds of destination.
    A list takes them if every row goes through onto a fresh entity, whatever it held before, and
    otherwise keeps what it held and reports what the first row that does not go through does.
    An optional entity is missing without a row, and otherwise is what a list of the first row
    alone holds, or is kept and reports the same. A single entity that is fresh reports what an
    optional one does and holds the same entity after a row, and is left alone without one. -/
theorem destinations_agree {E : Type} [Entity E] [Inhabited E] (b : Binder) (rows : List Row) :
    let fresh := fun row : Row => b.bindRow row (default : E)
    (∀ old : List E,
      ((∃ n, (b.bindRows rows .many old).1 = .ok n) ↔ ∀ row ∈ rows, (fresh row).1 = .ok ()) ∧
      ((∀ row ∈ rows, (fresh row).1 = .ok ()) →
        b.bindRows rows .many old = (.ok rows.length, rows.map fun row => (fresh row).2)) ∧
      ∀ before row after e, rows = before ++ row :: after → (∀ row ∈ before, (fresh row).1 = .ok ()) →
        (fresh row).1 = .error e → b.bindRows rows .many old = (.error e, old)) ∧
    (∀ old : Option E,
      (rows = [] → b.bindRows rows .optional old = (.ok 0, none)) ∧
      ∀ row rest, rows = row :: rest → ∀ list : List E,
        (∃ entity, b.bindRows [row] .many list = (.ok 1, [entity]) ∧
          b.bindRows rows .optional old = (.ok 1, some entity)) ∨
        ∃ e, b.bindRows [row] .many list = (.error e, list) ∧ b.bindRows rows .optional old = (.error e, old)) ∧
    ∀ old : Option E,
      (b.bindRows rows .one (default : E)).1 = (b.bindRows rows .optional old).1 ∧
      (rows = [] → (b.bindRows rows .one (default : E)).2 = default) ∧
      (rows ≠ [] → ∀ n, (b.bindRows rows .one (default : E)).1 = .ok n →
        (b.bindRows rows .optional old).2 = some (b.bindRows rows .one (default : E)).2) := by
  intro fresh
  refine ⟨fun old => ⟨Binder.bindRows_many_ok_iff old, fun hall => Binder.bindRows_many_of_forall hall old, ?_⟩,
    fun old => ⟨?_, ?_⟩, fun old => ?_⟩
  · rintro before row after e rfl hbefore h
    exact Binder.bindRows_many_of_first hbefore h old
  · rintro rfl
    rfl
  · rintro row rest rfl list
    exact Binder.bindRows_optional row rest old list
  · cases rows with
    | nil => exact ⟨rfl, fun _ => rfl, fun h => absurd rfl h⟩
    | cons row rest =>
      obtain ⟨hsame, hentity⟩ := Binder.bindRows_one_default (b := b) row rest old
      exact ⟨hsame, nofun, fun _ => hentity⟩

open Samples

/-- Counters by their hits and labels. -/
def counterBinder : Binder := ⟨counterDescriptor, [⟨0, "hits", "hit_count", .unsigned, false, false⟩,
  ⟨1, "label", "label", .text, false, false⟩]⟩

/-- A counter, and one that is refused when its hits have been stored. -/
def counterRows : List Row := [⟨[.bigUnsigned (some 5), .string (some "a")]⟩, ⟨[.bigUnsigned (some 6), .int (some 3)]⟩]

/-- The second row tears its own entity, which no destination gets to see. -/
theorem destinations_agree_counters :
    counterBinder.bindRows counterRows .many [(⟨1, "b", ⟨0⟩⟩ : Counter)] =
      (.error (.valueConversion "Counter" "label" (.typeMismatch "String" (.int (some 3)))), [⟨1, "b", ⟨0⟩⟩]) ∧
    counterBinder.bindRows counterRows .optional (none : Option Counter) = (.ok 1, some ⟨5, "a", ⟨0⟩⟩) ∧
    counterBinder.bindRows counterRows .one (default : Counter) = (.ok 1, ⟨5, "a", ⟨0⟩⟩) := by
  obtain ⟨hmany, hoptional, hone⟩ := destinations_agree (E := Counter) counterBinder counterRows
  have hlist : counterBinder.bindRows [⟨[.bigUnsigned (some 5), .string (some "a")]⟩] .many ([] : List Counter) =
      (.ok 1, [⟨5, "a", ⟨0⟩⟩]) := rfl
  have hfirst : counterBinder.bindRows counterRows .optional (none : Option Counter) = (.ok 1, some ⟨5, "a", ⟨0⟩⟩) := by
    rcases (hoptional none).2 _ _ rfl [] with ⟨entity, hsame, hbound⟩ | ⟨e, hsame, -⟩
    · cases hlist.symm.trans hsame
      exact hbound
    · cases hlist.symm.trans hsame
  have hgood : (counterBinder.bindRow ⟨[.bigUnsigned (some 5), .string (some "a")]⟩ (default : Counter)).1 = .ok () := rfl
  have hbad : (counterBinder.bindRow ⟨[.bigUnsigned (some 6), .int (some 3)]⟩ (default : Counter)).1 =
      .error (.valueConversion "Counter" "label" (.typeMismatch "String" (.int (some 3)))) := rfl
  refine ⟨?_, hfirst, ?_⟩
  · exact (hmany _).2.2 [_] _ [] _ rfl (List.forall_mem_singleton.mpr hgood) hbad
  · obtain ⟨hsame, -, hentity⟩ := hone none
    rw [hfirst] at hsame hentity
    exact Prod.ext hsame (Option.some.inj (hentity nofun 1 hsame)).symm

end EntityQuery.Query
