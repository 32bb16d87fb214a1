/-
  EntityQuery.Proofs.Query.Cutting — the byte ranges that a statement is cut out of.

  A list is written as the column that it tests, rendered, and then what its template has after as
  many bytes as the column has. Under the dollar style a text is further cut at its markers. A
  range of bytes is one that a text has only if it is in order, within the text and between
  characters, and here the bounds come from elsewhere: the length of another text, and offsets
  counted while scanning.
  - The template of a list begins with its column, so the rest of it is a slice (`isSlice_bodyRange`).
  - Markers increase, and each is the offset of a question mark, which has one byte. So the pieces
    between them are slices, and so are those before the first and after the last one
    (`isSlice_of_mem_cuts`).

  `State.compile?` compiles with checked slices, and gives nothing if one of them is refused.

  `no_cut_inside_character`: whatever characters the templates and the columns of a state have, and
  under both styles, all ranges that it is cut at are slices, and the checks refuse none of them.
-/
import EntityQuery.Proofs.Query.Numbering

namespace EntityQuery.Query

open Schema Text

/-! ## Cuts at markers -/

/-- A place of a text that holds a question mark. -/
def HoldsMark (cs : List Char) (offset : Nat) : Prop :=
  ∃ before after, cs = before ++ '?' :: after ∧ byteSize before = offset

theorem HoldsMark.isBoundary {cs : List Char} {offset : Nat} (h : HoldsMark cs offset) : IsBoundary cs offset := by
  obtain ⟨before, after, hcs, hsize⟩ := h
  exact ⟨before, '?' :: after, hcs, hsize⟩

/-- A question mark has one byte. -/
theorem HoldsMark.isBoundary_succ {cs : List Char} {offset : Nat} (h : HoldsMark cs offset) :
    IsBoundary cs (offset + 1) := by
  obtain ⟨before, after, rfl, rfl⟩ := h
  refine ⟨before ++ ['?'], after, by simp, ?_⟩
  rw [byteSize_append]
  rfl

/-- Between a boundary, increasing question marks after it, and the end, there are slices. -/
theorem isSlice_of_mem_cutsFrom {cs : List Char} {start : Nat} {ms : List Nat} (hstart : IsBoundary cs start)
    (hincreasing : ms.Pairwise (· < ·)) (hafter : ∀ m ∈ ms, start ≤ m) (hmarks : ∀ m ∈ ms, HoldsMark cs m) :
    ∀ range ∈ cutsFrom start (byteSize cs) ms, IsSlice cs range := by
  induction ms generalizing start with
  | nil =>
    intro range hrange
    rw [List.mem_singleton.mp hrange]
    exact ⟨hstart.le, hstart, isBoundary_byteSize cs⟩
  | cons m ms ih =>
    rw [List.pairwise_cons] at hincreasing
    rw [List.forall_mem_cons] at hafter hmarks
    intro range hrange
    rcases List.mem_cons.mp hrange with rfl | hrange
    · exact ⟨hafter.1, hstart, hmarks.1.isBoundary⟩
    · -- The next piece begins one byte after this mark, and further marks are not before that.
      exact ih hmarks.1.isBoundary_succ hincreasing.2 hincreasing.1 hmarks.2 range hrange

theorem isSlice_of_mem_cuts (cs : List Char) : ∀ range ∈ cuts cs, IsSlice cs range := by
  have hrenumbered := renumbered_markers 0 0 cs
  refine isSlice_of_mem_cutsFrom (isBoundary_zero cs) hrenumbered.increasing (fun m _ => Nat.zero_le m) ?_
  intro m hm
  obtain ⟨before, after, hcs, hsize⟩ := hrenumbered.question_at m hm
  exact ⟨before, after, hcs, by omega⟩

/-! ## Statements with checked slices -/

theorem mapM_slice? {cs : List Char} {ranges : List (Nat × Nat)} (h : ∀ range ∈ ranges, IsSlice cs range) :
    ranges.mapM (slice? cs) = some (ranges.map (slice cs)) := by
  induction ranges with
  | nil => rfl
  | cons range ranges ih =>
    rw [List.forall_mem_cons] at h
    rw [List.mapM_cons, slice?_of_isSlice h.1, ih h.2]
    rfl

namespace Predicate

/-- What follows the column of a list is a slice of its template. -/
theorem isSlice_bodyRange (p : Predicate) : IsSlice p.template p.bodyRange := by
  cases p with
  | fragment template args => exact ⟨Nat.zero_le _, isBoundary_zero _, isBoundary_byteSize _⟩
  | inList column values =>
    have hcolumn : IsBoundary (inList column values).template (byteSize column.toList) :=
      ⟨column.toList, listBody values.length, rfl, rfl⟩
    exact ⟨hcolumn.le, hcolumn, isBoundary_byteSize _⟩

/-- The condition rendered with checked slices. -/
def render? (settings : Settings) (bound : Nat) (p : Predicate) : Option (List Char) := do
  let body ← slice? p.template p.bodyRange
  let text ← match settings.placeholder with
    | .question => some body
    | .dollar => ((cuts body).mapM (slice? body)).map (numbered bound)
  some (p.head settings ++ text)

theorem render?_eq (settings : Settings) (bound : Nat) (p : Predicate) :
    p.render? settings bound = some (p.render settings bound) := by
  have hbody : slice? p.template p.bodyRange = some p.body := slice?_of_isSlice p.isSlice_bodyRange
  have hpieces : (cuts p.body).mapM (slice? p.body) = some ((cuts p.body).map (slice p.body)) :=
    mapM_slice? (isSlice_of_mem_cuts p.body)
  rw [render?, render, hbody, Option.bind_eq_bind, Option.bind_some, hpieces]
  cases settings.placeholder with
  | question => rfl
  | dollar => rfl

end Predicate

/-- The conditions one by one, with checked slices. -/
def conditions? (settings : Settings) (many : Bool) : Nat → List Predicate → Option (List (List Char))
  | _, [] => some []
  | bound, p :: ps => do
    let text ← p.render? settings bound
    let texts ← conditions? settings many (bound + p.args.length) ps
    some ((if many && p.hasDisjunction then '(' :: text ++ [')'] else text) :: texts)

theorem conditions?_eq (settings : Settings) (many : Bool) (bound : Nat) (ps : List Predicate) :
    conditions? settings many bound ps = some (conditions settings many bound ps) := by
  induction ps generalizing bound with
  | nil => rfl
  | cons p ps ih =>
    rw [conditions?, p.render?_eq, ih]
    rfl

namespace State

def whereClause? (settings : Settings) (s : State) : Option (List Char) :=
  if s.predicates.isEmpty then some []
  else (conditions? settings (1 < s.predicates.length) 0 s.predicates).map fun texts =>
    " WHERE ".toList ++ joined " AND ".toList texts

theorem whereClause?_eq (settings : Settings) (s : State) :
    s.whereClause? settings = some (s.whereClause settings) := by
  rw [whereClause?, whereClause, conditions?_eq]
  split
  · rfl
  · rfl

/-- The query compiled with checked slices: nothing comes of it if one of them is refused. -/
def compile? (settings : Settings) (s : State) : Option (Except QueryError Statement) :=
  match s.entity with
  | none => some (.error .emptyQuery)
  | some d => match s.projectedFields with
    | .error e => some (.error e)
    | .ok fields => do
      let columns := fields.map (·.column)
      let conditions ← s.whereClause? settings
      let text := selectClause settings d.table columns ++ conditions ++ s.orderClause settings ++ s.limitClause ++
        s.offsetClause
      some (.ok ⟨String.ofList text, s.predicates.flatMap (·.args), columns⟩)

theorem compile?_eq (settings : Settings) (s : State) : s.compile? settings = some (s.compile settings) := by
  rw [compile?, compile, whereClause?_eq]
  cases s.entity with
  | none => rfl
  | some d =>
    cases s.projectedFields with
    | error e => rfl
    | ok fields => rfl

end State

/-- Whatever calls a state comes from, what follows the column of a list is a slice of its template,
    and so is every piece between markers a slice of what is cut at them. No slice is refused when
    the state is compiled. -/
theorem no_cut_inside_character (settings : Settings) (s : State) :
    (∀ p ∈ s.predicates, IsSlice p.template p.bodyRange ∧ ∀ range ∈ cuts p.body, IsSlice p.body range) ∧
      s.compile? settings = some (s.compile settings) :=
  ⟨fun p _ => ⟨p.isSlice_bodyRange, isSlice_of_mem_cuts p.body⟩, s.compile?_eq settings⟩

open Samples in
/-- A list on a column with characters of two bytes, and free text with some of three and four. -/
theorem no_cut_inside_character_wide :
    ∃ d, oddNamesEntity.expansion.declaration.describe = .ok d ∧
      let p := Predicate.inList "größe" [.int (some 1), .int (some 2)]
      let q := Predicate.fragment "größe < ? AND '?' < ? || '𝄞€'" [.int (some 3), .bool none]
      let s := (State.ofEntity d).run [.filterIn "größe" p.args, .filter "größe < ? AND '?' < ? || '𝄞€'" q.args]
      s.predicates = [p, q] ∧ p.bodyRange = (7, 17) ∧ IsSlice p.template (7, 17) ∧
        cuts q.body = [(0, 10), (11, 22), (23, 36)] ∧ (∀ range ∈ cuts q.body, IsSlice q.body range) ∧
        s.compile? ⟨.dollar, false⟩ = some (s.compile ⟨.dollar, false⟩) := by
  refine ⟨_, rfl, ?_⟩
  intro p q s
  have hpredicates : s.predicates = [p, q] := by decide
  obtain ⟨hslices, hcompile⟩ := no_cut_inside_character ⟨.dollar, false⟩ s
  rw [hpredicates] at hslices
  have hrange : p.bodyRange = (7, 17) := by decide
  have hp := (hslices p List.mem_cons_self).1
  rw [hrange] at hp
  exact ⟨hpredicates, hrange, hp, by decide, (hslices q (List.mem_cons_of_mem _ List.mem_cons_self)).2, hcompile⟩

end EntityQuery.Query
