/-
  EntityQuery.Proofs.Query.Counting — the markers of a condition against its arguments.

  Free text is only accepted with as many arguments as it has markers. A list is made without
  counting: its text has a question mark for every value, but these stand after a column, and a
  column may be any text at all.
  - A column that the scanner leaves outside literals adds the markers that it shows itself.
  - A column that opens a literal, and does not close it, hides the whole list behind it
    (`hidden_of_inLiteral`).

  So the markers of a list are those of its column, and the values if the column has no open
  literal (`length_markers_inList`). What is numbered in a statement is the text after the column
  alone, and there the count is always right (`length_markers_body`).

  `markers_match_iff`: after any calls, a condition has as many markers as arguments exactly if
  it is free text, or its column shows none and closes its literals, or happens to show
  as many as there are values in front of an open one. `list_after_odd_column_miscounted` has
  two lists for which that fails.
-/
import EntityQuery.Proofs.Query.Markers

namespace EntityQuery.Query

open Schema Text

/-! ## Texts in an open literal -/

/-- The scanner is in a literal, which one of the quotes closes. -/
def Mode.InLiteral (m : Mode) : Prop := ∃ q, isQuote q = true ∧ (m = .quoted q ∨ m = .escaped q)

theorem Mode.InLiteral.shows {m : Mode} (h : m.InLiteral) (c : Char) : m.shows c = false := by
  obtain ⟨q, -, rfl | rfl⟩ := h
  · rfl
  · rfl

theorem Mode.InLiteral.ne_plain {m : Mode} (h : m.InLiteral) : m ≠ .plain := by
  obtain ⟨q, -, rfl | rfl⟩ := h
  · simp
  · simp

theorem Mode.inLiteral_next {m : Mode} (h : m = .plain ∨ m.InLiteral) (c : Char) :
    m.next c = .plain ∨ (m.next c).InLiteral := by
  rcases h with rfl | ⟨q, hq, rfl | rfl⟩
  · by_cases hc : isQuote c = true
    · exact Or.inr ⟨c, hc, Or.inl (by simp [Mode.next, hc])⟩
    · exact Or.inl (by simp [Mode.next, hc])
  · by_cases hb : c = '\\'
    · exact Or.inr ⟨q, hq, Or.inr (by simp [Mode.next, hb])⟩
    · by_cases hc : c = q
      · exact Or.inl (by simp [Mode.next, hb, ← hc])
      · exact Or.inr ⟨q, hq, Or.inl (by simp [Mode.next, hb, hc])⟩
  · exact Or.inr ⟨q, hq, Or.inl rfl⟩

/-- After any text the scanner is outside literals or in one. -/
theorem Mode.plain_or_inLiteral (cs : List Char) : Mode.plain.after cs = .plain ∨ (Mode.plain.after cs).InLiteral := by
  have hafter : ∀ m : Mode, m = .plain ∨ m.InLiteral → m.after cs = .plain ∨ (m.after cs).InLiteral := by
    induction cs with
    | nil => exact fun m h => h
    | cons c cs ih => exact fun m h => ih _ (Mode.inLiteral_next h c)
  exact hafter .plain (Or.inl rfl)

/-- Without a quote a text stays in the literal, and nothing of it shows. -/
theorem hidden_of_inLiteral {m : Mode} {cs : List Char} (hm : m.InLiteral) (h : ∀ c ∈ cs, isQuote c = false) :
    Hidden m cs := by
  induction cs generalizing m with
  | nil => trivial
  | cons c cs ih =>
    rw [List.forall_mem_cons] at h
    refine ⟨hm.shows c, ih ?_ h.2⟩
    obtain ⟨q, hq, rfl | rfl⟩ := hm
    · have hne : c ≠ q := fun e => by rw [e, hq] at h; cases h.1
      by_cases hb : c = '\\'
      · exact ⟨q, hq, Or.inr (by simp [Mode.next, hb])⟩
      · exact ⟨q, hq, Or.inl (by simp [Mode.next, hb, hne])⟩
    · exact ⟨q, hq, Or.inl rfl⟩

/-! ## Conditions -/

theorem length_markersFrom_listBody (offset n : Nat) :
    (markersFrom .plain offset (Predicate.listBody n)).length = n := by
  rw [markersFrom_unquoted (listBody_unquoted n), length_offsetsOf, count_listBody]

namespace Predicate

/-- The markers of a list: those of its column, and its values if the column has no open literal. -/
theorem length_markers_inList (column : String) (values : List Value) :
    (markers (inList column values).template).length = (markers column.toList).length +
      if Mode.plain.after column.toList = .plain then values.length else 0 := by
  rw [template, markers, markersFrom_append, List.length_append]
  rcases Mode.plain_or_inLiteral column.toList with hplain | hopen
  · rw [if_pos hplain, hplain, length_markersFrom_listBody]
    rfl
  · rw [if_neg hopen.ne_plain, markersFrom_hidden (hidden_of_inLiteral hopen (listBody_unquoted _))]
    rfl

/-- What is numbered in a statement has as many markers as arguments. -/
theorem length_markers_body {p : Predicate} (h : p.Counted) : (markers p.body).length = p.args.length := by
  cases p with
  | fragment template args =>
    rw [body_fragment]
    exact h
  | inList column values =>
    rw [body_inList]
    exact length_markersFrom_listBody 0 values.length

/-- The column of a list leaves the count of its markers right. -/
def Unspoilt : Predicate → Prop
  | .fragment _ _ => True
  | .inList column values =>
    if Mode.plain.after column.toList = .plain then markers column.toList = []
    else (markers column.toList).length = values.length

instance (p : Predicate) : Decidable p.Unspoilt :=
  match p with
  | .fragment _ _ => inferInstanceAs (Decidable True)
  | .inList column values => inferInstanceAs (Decidable (if Mode.plain.after column.toList = .plain then
      markers column.toList = [] else (markers column.toList).length = values.length))

theorem length_markers_iff {p : Predicate} (h : p.Counted) :
    (markers p.template).length = p.args.length ↔ p.Unspoilt := by
  cases p with
  | fragment template args => exact iff_of_true h trivial
  | inList column values =>
    rw [length_markers_inList, Unspoilt]
    split
    · rw [← List.length_eq_zero_iff]
      exact Nat.add_eq_right
    · rfl

end Predicate

/-- After any calls, what is numbered of every condition has as many markers as arguments. The
    condition as a whole has as many exactly if it is free text, or a list whose column leaves
    the count right: one that closes its literals and shows no marker, or one with an open
    literal that shows as many as there are values. -/
theorem markers_match_iff {decl : Declaration} {d : Descriptor} (hd : decl.describe = .ok d) (calls : List Call) :
    ∀ p ∈ ((State.ofEntity d).run calls).predicates, (markers p.body).length = p.args.length ∧
      ((markers p.template).length = p.args.length ↔ p.Unspoilt) := by
  intro p hp
  have hfits : ((State.ofEntity d).run calls).Fits d := (State.fits_ofEntity d).run (describe_describes hd) calls
  have hcounted := hfits.counted p hp
  exact ⟨Predicate.length_markers_body hcounted, Predicate.length_markers_iff hcounted⟩

/-- A marker of free text, and one of a list after a column that shows one itself. -/
theorem markers_match_iff_odd :
    oddDeclaration.describe = .ok oddDescriptor ∧
    let p := Predicate.fragment "a = '?' OR b = ?" [.int (some 1)]
    let q := Predicate.inList "q?" [.bool (some true), .bool none]
    ((State.ofEntity oddDescriptor).run oddCalls).predicates = [p, q, .inList "q?" []] ∧
    (markers p.template).length = p.args.length ∧
    (markers q.body).length = q.args.length ∧ (markers q.template).length ≠ q.args.length := by
  have hd : oddDeclaration.describe = .ok oddDescriptor := rfl
  have hpredicates : ((State.ofEntity oddDescriptor).run oddCalls).predicates =
      [.fragment "a = '?' OR b = ?" [.int (some 1)], .inList "q?" [.bool (some true), .bool none],
        .inList "q?" []] := by
    decide
  have h := markers_match_iff hd oddCalls
  rw [hpredicates] at h
  obtain ⟨-, hp⟩ := h _ (List.mem_cons_self)
  obtain ⟨hbody, hq⟩ := h _ (List.mem_cons_of_mem _ List.mem_cons_self)
  exact ⟨hd, hpredicates, hp.mpr trivial, hbody, fun he => absurd (hq.mp he) (by decide)⟩

open Samples

/-- After a column with a question mark a list of one value has two markers, and after one that
    opens a literal it has none; both are accepted. -/
theorem list_after_odd_column_miscounted :
    ∃ d, oddNamesEntity.expansion.declaration.describe = .ok d ∧
      let p := Predicate.inList "q?" [.int (some 1)]
      let q := Predicate.inList "it's" [.int (some 1)]
      let s := (State.ofEntity d).run [.filterIn "q?" [.int (some 1)], .filterIn "it's" [.int (some 1)]]
      s.predicates = [p, q] ∧ (markers p.template).length = 2 ∧ p.args.length = 1 ∧
        (markers q.template).length = 0 ∧ q.args.length = 1 ∧
        ¬ ∀ r ∈ s.predicates, (markers r.template).length = r.args.length :=
  ⟨_, rfl, by decide, by decide, rfl, by decide, rfl, by decide⟩

end EntityQuery.Query
