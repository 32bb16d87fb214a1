/-
  EntityQuery.Proofs.Text.Pieces — the pieces of texts put one after another.

  A cut between two texts separates their pieces (`pieces_append`), and a text without cuts
  in front of another one belongs to its first piece (`pieces_prepend`). So what relates two
  texts character by character, cuts to the same cuts, relates their pieces one by one. A
  text without cuts is a piece of another one if it stands there with a cut, or the end of
  the text, on either side (`mem_pieces_iff`).
-/
import EntityQuery.Text.Pieces

namespace EntityQuery.Text

variable {cut : Char → Bool}

theorem pieces_ne_nil (cut : Char → Bool) (cs : List Char) : pieces cut cs ≠ [] := by
  cases cs with
  | nil => simp [pieces]
  | cons c cs =>
    unfold pieces
    split
    · simp
    · split <;> simp

theorem pieces_cons_cut {c : Char} (h : cut c = true) (cs : List Char) :
    pieces cut (c :: cs) = [] :: pieces cut cs := by
  simp [pieces, h]

theorem pieces_cons {c : Char} (h : cut c = false) {cs w : List Char} {ws : List (List Char)}
    (hw : pieces cut cs = w :: ws) : pieces cut (c :: cs) = (c :: w) :: ws := by
  simp [pieces, h, hw]

/-- A cut between two texts separates their pieces. -/
theorem pieces_append (xs : List Char) {c : Char} (h : cut c = true) (ys : List Char) :
    pieces cut (xs ++ c :: ys) = pieces cut xs ++ pieces cut ys := by
  induction xs with
  | nil => rw [List.nil_append, pieces_cons_cut h]; rfl
  | cons x xs ih =>
    obtain ⟨w, ws, hw⟩ := List.exists_cons_of_ne_nil (pieces_ne_nil cut xs)
    cases hx : cut x with
    | true => rw [List.cons_append, pieces_cons_cut hx, pieces_cons_cut hx, ih]; rfl
    | false =>
      rw [hw] at ih
      rw [List.cons_append, pieces_cons hx hw, pieces_cons hx ih]
      rfl

/-- A text without cuts in front belongs to the first piece. -/
theorem pieces_prepend {xs : List Char} (h : xs.all (!cut ·) = true) {ys w : List Char} {ws : List (List Char)}
    (hw : pieces cut ys = w :: ws) : pieces cut (xs ++ ys) = (xs ++ w) :: ws := by
  induction xs with
  | nil => exact hw
  | cons x xs ih =>
    rw [List.all_cons, Bool.and_eq_true_iff, Bool.not_eq_true'] at h
    exact pieces_cons h.1 (ih h.2)

theorem pieces_of_no_cut {xs : List Char} (h : xs.all (!cut ·) = true) : pieces cut xs = [xs] := by
  have hp : pieces cut (xs ++ []) = [xs ++ []] := pieces_prepend h rfl
  rwa [List.append_nil] at hp

/-- The text ends with a cut, or is empty. -/
def EndsCut (cut : Char → Bool) (xs : List Char) : Prop := ∀ c ∈ xs.getLast?, cut c = true

/-- The text begins with a cut, or is empty. -/
def BeginsCut (cut : Char → Bool) (xs : List Char) : Prop := ∀ c ∈ xs.head?, cut c = true

theorem EndsCut.after {xs : List Char} (h : EndsCut cut xs) (ys : List Char) {c : Char} (hc : cut c = true) :
    EndsCut cut (ys ++ c :: xs) := by
  intro x hx
  have hlast : (ys ++ c :: xs).getLast? = some (xs.getLast?.getD c) := by simp [List.getLast?_cons]
  rw [hlast, Option.mem_some_iff] at hx
  cases hl : xs.getLast? with
  | none => rw [hl] at hx; exact hx ▸ hc
  | some y => rw [hl] at hx; exact hx ▸ h y hl

theorem BeginsCut.before {xs : List Char} (h : BeginsCut cut xs) (ys : List Char) {c : Char} (hc : cut c = true) :
    BeginsCut cut (xs ++ c :: ys) := by
  intro x hx
  cases xs with
  | nil => simp at hx; exact hx ▸ hc
  | cons y xs => exact h x hx

/-- A piece stands between cuts. By induction on the length: any cut parts the text in two
    shorter ones, one of which has the piece. -/
theorem stands_of_mem_pieces {w cs : List Char} (h : w ∈ pieces cut cs) :
    ∃ before after, cs = before ++ (w ++ after) ∧ EndsCut cut before ∧ BeginsCut cut after := by
  by_cases hall : cs.all (!cut ·) = true
  · rw [pieces_of_no_cut hall, List.mem_singleton] at h
    subst h
    exact ⟨[], [], by simp, by simp [EndsCut], by simp [BeginsCut]⟩
  · obtain ⟨c, hm, hc⟩ : ∃ c ∈ cs, cut c = true := by simpa using hall
    obtain ⟨xs, ys, rfl⟩ := List.append_of_mem hm
    rw [pieces_append xs hc, List.mem_append] at h
    rcases h with h | h
    · obtain ⟨before, after, rfl, hb, ha⟩ := stands_of_mem_pieces h
      exact ⟨before, after ++ c :: ys, by simp, hb, ha.before ys hc⟩
    · obtain ⟨before, after, rfl, hb, ha⟩ := stands_of_mem_pieces h
      exact ⟨xs ++ c :: before, after, by simp, hb.after xs hc, ha⟩
termination_by cs.length

theorem mem_pieces_of_begins {w after : List Char} (hw : w.all (!cut ·) = true) (ha : BeginsCut cut after) :
    w ∈ pieces cut (w ++ after) := by
  cases after with
  | nil => rw [List.append_nil, pieces_of_no_cut hw]; exact List.mem_singleton_self w
  | cons c after =>
    rw [pieces_append w (ha c rfl), pieces_of_no_cut hw]
    exact List.mem_append_left _ (List.mem_singleton_self w)

/-- A text without cuts is a piece exactly if it stands between cuts. -/
theorem mem_pieces_iff {w cs : List Char} (hw : w.all (!cut ·) = true) : w ∈ pieces cut cs ↔
    ∃ before after, cs = before ++ (w ++ after) ∧ EndsCut cut before ∧ BeginsCut cut after := by
  constructor
  · exact stands_of_mem_pieces
  · rintro ⟨before, after, rfl, hb, ha⟩
    rcases List.eq_nil_or_concat before with rfl | ⟨xs, c, rfl⟩
    · exact mem_pieces_of_begins hw ha
    · have hc : cut c = true := hb c (by simp)
      rw [List.concat_eq_append, List.append_assoc, List.singleton_append, pieces_append xs hc]
      exact List.mem_append_right _ (mem_pieces_of_begins hw ha)

end EntityQuery.Text
