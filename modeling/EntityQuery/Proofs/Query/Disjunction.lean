/-
  EntityQuery.Proofs.Query.Disjunction — which words OR of a condition are seen, and what
  becomes of the condition.

  Next to others a condition is put in parentheses if it has a disjunction. To find one the
  scan keeps the characters outside literals and parentheses, puts them one after another, and
  looks for OR among the words between blanks. What it leaves out, it leaves out without a
  trace: a literal, or parentheses with all that is in them, separates nothing.

  `ShowsOr` says of a template itself when that finds an OR: the two letters stand at the top
  level, next to each other as far as characters are kept, and the nearest character kept on
  either side is a blank, or there is none.
  - `topLevel_eq_append_cons_iff`: a character kept comes from a place outside literals and
    parentheses, and what is kept before and after it comes from the text before and after.
  - `hasTopLevelOr_iff`: an OR is found exactly if the text shows one.
  - `shown_or_grouped`: after any calls, a condition among others is in parentheses exactly if
    its template shows an OR.

  So an OR is missed that touches a character of another kind, although that character ends a
  word of SQL as well as a blank does: `or_after_marker_missed` is one after a marker.
-/
import EntityQuery.Proofs.Query.Grouping
import EntityQuery.Proofs.Query.Writing

namespace EntityQuery.Query

open Schema Text

/-! ## Depths of any text -/

/-- The depth of parentheses after a text, one that closes nothing being passed over. -/
def levelFrom : Mode → Nat → List Char → Nat
  | _, depth, [] => depth
  | m, depth, c :: cs => levelFrom (m.next c) ((depthStep m depth c).getD 0) cs

theorem topLevelFrom_cons_level (m : Mode) (depth : Nat) (c : Char) (cs : List Char) :
    topLevelFrom m depth (c :: cs) =
      shownAt m depth c ++ topLevelFrom (m.next c) ((depthStep m depth c).getD 0) cs := by
  cases h : depthStep m depth c with
  | some d => exact topLevelFrom_cons h cs
  | none =>
    -- Only a closing parenthesis outside all others has no depth after it.
    have hclose : m.shows c = true ∧ c = ')' ∧ depth = 0 := by
      unfold depthStep at h
      split at h
      · cases h
      · split at h
        · rename_i hc
          rw [Bool.and_eq_true_iff, decide_eq_true_eq] at hc
          split at h
          · rename_i hd; exact ⟨hc.1, hc.2, hd⟩
          · cases h
        · cases h
    obtain ⟨hs, rfl, rfl⟩ := hclose
    simp [topLevelFrom, shownAt, hs]

theorem topLevelFrom_append_level (m : Mode) (depth : Nat) (xs ys : List Char) :
    topLevelFrom m depth (xs ++ ys) =
      topLevelFrom m depth xs ++ topLevelFrom (m.after xs) (levelFrom m depth xs) ys := by
  induction xs generalizing m depth with
  | nil => rfl
  | cons c cs ih =>
    rw [List.cons_append, topLevelFrom_cons_level, topLevelFrom_cons_level, ih, Mode.after_cons, levelFrom,
      List.append_assoc]

/-! ## Characters that are kept -/

/-- After the text the scanner is outside literals and parentheses. -/
structure AtTop (cs : List Char) : Prop where
  plain : Mode.plain.after cs = .plain
  level : levelFrom .plain 0 cs = 0

instance (cs : List Char) : Decidable (AtTop cs) :=
  decidable_of_iff (Mode.plain.after cs = .plain ∧ levelFrom .plain 0 cs = 0)
    ⟨fun h => ⟨h.1, h.2⟩, fun h => ⟨h.plain, h.level⟩⟩

theorem AtTop.topLevel_append {xs : List Char} (h : AtTop xs) (ys : List Char) :
    topLevel (xs ++ ys) = topLevel xs ++ topLevel ys := by
  rw [topLevel, topLevelFrom_append_level, h.plain, h.level]
  rfl

theorem isFlat_iff {c : Char} : isFlat c = true ↔ isQuote c = false ∧ c ≠ '(' ∧ c ≠ ')' := by
  simp [isFlat, and_assoc]

theorem depthStep_flat {c : Char} (h : isFlat c = true) (depth : Nat) : depthStep .plain depth c = some depth := by
  obtain ⟨-, ho, hc⟩ := isFlat_iff.mp h
  simp [depthStep, ho, hc]

theorem topLevel_cons_flat {c : Char} (h : isFlat c = true) (cs : List Char) :
    topLevel (c :: cs) = c.toUpper :: topLevel cs := by
  obtain ⟨hq, ho, hc⟩ := isFlat_iff.mp h
  rw [topLevel, topLevelFrom_cons (depthStep_flat h 0), Mode.next_plain hq]
  simp [shownAt, Mode.shows, hq, ho, hc, topLevel]

/-- A character is kept only outside literals and parentheses. -/
theorem shownAt_cases (m : Mode) (depth : Nat) (c : Char) :
    shownAt m depth c = [] ∨ (m = .plain ∧ depth = 0 ∧ isFlat c = true ∧ shownAt m depth c = [c.toUpper]) := by
  unfold shownAt
  split
  · rename_i h
    simp only [Bool.and_eq_true_iff, decide_eq_true_eq] at h
    obtain ⟨⟨⟨hs, hd⟩, ho⟩, hc⟩ := h
    cases Mode.plain_of_shows hs
    have hq : isQuote c = false := by simpa [Mode.shows] using hs
    exact Or.inr ⟨rfl, hd, isFlat_iff.mpr ⟨hq, ho, hc⟩, rfl⟩
  · exact Or.inl rfl

/-- Where a character that is kept comes from. -/
theorem exists_place_of_topLevelFrom {cs us vs : List Char} {x : Char} {m : Mode} {depth : Nat}
    (h : topLevelFrom m depth cs = us ++ x :: vs) :
    ∃ before c after, cs = before ++ c :: after ∧ m.after before = .plain ∧ levelFrom m depth before = 0 ∧
      isFlat c = true ∧ c.toUpper = x ∧ topLevelFrom m depth before = us ∧ topLevel after = vs := by
  induction cs generalizing m depth us with
  | nil => simp [topLevelFrom] at h
  | cons c cs ih =>
    rw [topLevelFrom_cons_level] at h
    rcases shownAt_cases m depth c with hnone | ⟨rfl, rfl, hflat, hshown⟩
    · rw [hnone, List.nil_append] at h
      obtain ⟨before, d, after, rfl, hmode, hlevel, hflat, hx, hus, hvs⟩ := ih h
      refine ⟨c :: before, d, after, rfl, hmode, hlevel, hflat, hx, ?_, hvs⟩
      rw [topLevelFrom_cons_level, hnone, hus]
      rfl
    · have hnext : Mode.plain.next c = .plain := Mode.next_plain (isFlat_iff.mp hflat).1
      rw [hshown, hnext, depthStep_flat hflat] at h
      cases us with
      | nil =>
        obtain ⟨hx, hvs⟩ := List.cons.inj h
        exact ⟨[], c, cs, rfl, rfl, rfl, hflat, hx, rfl, hvs⟩
      | cons u us =>
        obtain ⟨hu, hrest⟩ := List.cons.inj h
        obtain ⟨before, d, after, rfl, hmode, hlevel, hd, hx, hus, hvs⟩ := ih hrest
        refine ⟨c :: before, d, after, rfl, ?_, ?_, hd, hx, ?_, hvs⟩
        · rw [Mode.after_cons, hnext]
          exact hmode
        · rw [levelFrom, hnext, depthStep_flat hflat]
          exact hlevel
        · rw [topLevelFrom_cons_level, hshown, hnext, depthStep_flat hflat]
          show c.toUpper :: topLevelFrom .plain 0 before = u :: us
          rw [← hu, ← hus]
          rfl

theorem topLevel_eq_append_cons_iff {cs us vs : List Char} {x : Char} : topLevel cs = us ++ x :: vs ↔
    ∃ before c after, cs = before ++ c :: after ∧ AtTop before ∧ isFlat c = true ∧ c.toUpper = x ∧
      topLevel before = us ∧ topLevel after = vs := by
  constructor
  · intro h
    obtain ⟨before, c, after, hcs, hmode, hlevel, hflat, hx, hus, hvs⟩ := exists_place_of_topLevelFrom h
    exact ⟨before, c, after, hcs, ⟨hmode, hlevel⟩, hflat, hx, hus, hvs⟩
  · rintro ⟨before, c, after, rfl, htop, hflat, rfl, rfl, rfl⟩
    rw [htop.topLevel_append, topLevel_cons_flat hflat]

/-! ## Words that show -/

/-- The letters `o` and `r` of a text spell OR at the top level: nothing between them is kept,
    and the nearest characters kept on both sides are blanks, as far as there are any. -/
structure OrAt (before : List Char) (o : Char) (between : List Char) (r : Char) (after : List Char) : Prop where
  letters : o.toUpper = 'O' ∧ r.toUpper = 'R'
  top : AtTop before ∧ AtTop between
  adjacent : topLevel between = []
  left : EndsCut isBlank (topLevel before)
  right : BeginsCut isBlank (topLevel after)

/-- The text shows a word OR at the top level. -/
def ShowsOr (cs : List Char) : Prop :=
  ∃ before o between r after, cs = before ++ o :: (between ++ r :: after) ∧ OrAt before o between r after

theorem isFlat_of_letter {c : Char} (h : c.toUpper = 'O' ∨ c.toUpper = 'R') : isFlat c = true := by
  have hne : ∀ d : Char, d.toUpper ≠ 'O' → d.toUpper ≠ 'R' → c ≠ d := by
    rintro d ho hr rfl
    rcases h with h | h
    · exact ho h
    · exact hr h
  have hq : isQuote c = false := by
    simp only [isQuote, Bool.or_eq_false_iff, decide_eq_false_iff_not]
    exact ⟨⟨hne _ (by decide) (by decide), hne _ (by decide) (by decide)⟩, hne _ (by decide) (by decide)⟩
  exact isFlat_iff.mpr ⟨hq, hne _ (by decide) (by decide), hne _ (by decide) (by decide)⟩

/-- An OR is found exactly if the text shows one. -/
theorem hasTopLevelOr_iff (cs : List Char) : hasTopLevelOr cs = true ↔ ShowsOr cs := by
  rw [hasTopLevelOr, List.contains_iff_mem, words, mem_pieces_iff (by decide)]
  constructor
  · rintro ⟨us, vs, h, hus, hvs⟩
    obtain ⟨before, o, rest, rfl, hbefore, -, ho, rfl, hrest⟩ := topLevel_eq_append_cons_iff.mp h
    have hfirst : topLevel rest = [] ++ 'R' :: vs := hrest
    obtain ⟨between, r, after, rfl, hbetween, -, hr, hnone, rfl⟩ := topLevel_eq_append_cons_iff.mp hfirst
    exact ⟨before, o, between, r, after, rfl, ⟨ho, hr⟩, ⟨hbefore, hbetween⟩, hnone, hus, hvs⟩
  · rintro ⟨before, o, between, r, after, rfl, h⟩
    have hrest : topLevel (between ++ r :: after) = [] ++ 'R' :: topLevel after :=
      topLevel_eq_append_cons_iff.mpr ⟨between, r, after, rfl, h.top.2, isFlat_of_letter (Or.inr h.letters.2),
        h.letters.2, h.adjacent, rfl⟩
    refine ⟨topLevel before, topLevel after, ?_, h.left, h.right⟩
    exact topLevel_eq_append_cons_iff.mpr
      ⟨before, o, _, rfl, h.top.1, isFlat_of_letter (Or.inl h.letters.1), h.letters.1, rfl, hrest⟩

theorem Predicate.hasDisjunction_iff (p : Predicate) : p.hasDisjunction = true ↔ ShowsOr p.template :=
  hasTopLevelOr_iff p.template

/-! ## Statements -/

theorem joined_middle (sep : List Char) (ts : List (List Char)) (t : List Char) (us : List (List Char)) :
    joined sep (ts ++ t :: us) = ts.flatMap (· ++ sep) ++ t ++ us.flatMap (sep ++ ·) := by
  induction ts with
  | nil =>
    cases us with
    | nil => simp [joined]
    | cons u us =>
      rw [← separator_joined sep (List.cons_ne_nil u us)]
      simp [joined]
  | cons s ts ih =>
    obtain ⟨v, vs, hv⟩ := List.exists_cons_of_ne_nil (show ts ++ t :: us ≠ [] by simp)
    have hstep : joined sep (s :: (ts ++ t :: us)) = s ++ sep ++ joined sep (ts ++ t :: us) := by
      rw [hv]
      rfl
    rw [List.cons_append, hstep, ih, List.flatMap_cons]
    simp only [List.append_assoc]

/-- The text of conditions, at one of them. -/
theorem whereText_middle (settings : Settings) {earlier later : List Predicate} (p : Predicate)
    (hmany : earlier ≠ [] ∨ later ≠ []) :
    let bound := (earlier.flatMap (·.args)).length
    whereText settings (earlier ++ p :: later) =
      (conditions settings true 0 earlier).flatMap (· ++ " AND ".toList) ++ p.renderGrouped settings true bound ++
        (conditions settings true (bound + p.args.length) later).flatMap (" AND ".toList ++ ·) := by
  intro bound
  have hlen : 1 < (earlier ++ p :: later).length := by
    rcases hmany with h | h
    · have := List.length_pos_iff.mpr h
      simp only [List.length_append, List.length_cons]
      omega
    · have := List.length_pos_iff.mpr h
      simp only [List.length_append, List.length_cons]
      omega
  rw [whereText, decide_eq_true hlen, conditions_append, conditions, joined_middle, Nat.zero_add]

/-- An OR of a condition is found exactly if its template shows one. After any calls that leave
    a condition next to others, the query compiles, and the condition is in parentheses
    exactly if its template shows an OR. -/
theorem shown_or_grouped {decl : Declaration} {d : Descriptor} (hd : decl.describe = .ok d) (calls : List Call)
    (settings : Settings) {earlier later : List Predicate} {p : Predicate}
    (hs : ((State.ofEntity d).run calls).predicates = earlier ++ p :: later) (hmany : earlier ≠ [] ∨ later ≠ []) :
    let s := (State.ofEntity d).run calls
    let bound := (earlier.flatMap (·.args)).length
    let text := p.render settings bound
    (p.hasDisjunction = true ↔ ShowsOr p.template) ∧
    ∃ statement, s.compile settings = .ok statement ∧
      let left := State.selectClause settings d.table statement.columns ++ " WHERE ".toList ++
        (conditions settings true 0 earlier).flatMap (· ++ " AND ".toList)
      let right := (conditions settings true (bound + p.args.length) later).flatMap (" AND ".toList ++ ·) ++
        (s.orderClause settings ++ s.limitClause ++ s.offsetClause)
      (ShowsOr p.template → statement.sql.toList = left ++ ('(' :: text ++ [')']) ++ right) ∧
      (¬ ShowsOr p.template → statement.sql.toList = left ++ text ++ right) := by
  intro s bound text
  have hdd := describe_describes hd
  have hfits : s.Fits d := (State.fits_ofEntity d).run hdd calls
  have hwhere : s.whereClause settings = " WHERE ".toList ++ whereText settings (earlier ++ p :: later) := by
    have hne : s.predicates.isEmpty = false := by rw [hs]; simp
    rw [State.whereClause, hne, hs]
    rfl
  have hsql : s.sqlText settings d.table (s.resultColumns d) =
      State.selectClause settings d.table (s.resultColumns d) ++ " WHERE ".toList ++
        (conditions settings true 0 earlier).flatMap (· ++ " AND ".toList) ++ p.renderGrouped settings true bound ++
        ((conditions settings true (bound + p.args.length) later).flatMap (" AND ".toList ++ ·) ++
          (s.orderClause settings ++ s.limitClause ++ s.offsetClause)) := by
    rw [State.sqlText, hwhere, whereText_middle settings p hmany]
    simp only [List.append_assoc]
    rfl
  refine ⟨p.hasDisjunction_iff, _, hfits.compile hdd settings, fun hor => ?_, fun hor => ?_⟩
  · rw [String.toList_ofList, hsql, Predicate.renderGrouped, p.hasDisjunction_iff.mpr hor]
    rfl
  · have hnone : p.hasDisjunction = false := by
      rw [← Bool.not_eq_true, p.hasDisjunction_iff]
      exact hor
    rw [String.toList_ofList, hsql, Predicate.renderGrouped, hnone]
    rfl

open Samples

/-- An OR between two pairs of parentheses, of which nothing is kept, and a list. -/
def parenthesesCalls : List Call := [.filter "(id = ?)OR(name = 'x OR y')" [.int (some 1)], .filterIn "email" []]

theorem shown_or_grouped_user :
    let s := (State.ofEntity userDescriptor).run parenthesesCalls
    let p := Predicate.fragment "(id = ?)OR(name = 'x OR y')" [.int (some 1)]
    userEntity.expansion.declaration.describe = .ok userDescriptor ∧
    s.predicates = [] ++ p :: [.inList "email" []] ∧ ShowsOr p.template ∧
    ∃ statement, s.compile ⟨.dollar, true⟩ = .ok statement ∧ statement.sql.toList =
      ("SELECT \x22id\x22, \x22name\x22, \x22email\x22 FROM \x22users\x22 WHERE " ++
        "((id = $1)OR(name = 'x OR y')) AND \x22email\x22 IN (NULL)").toList := by
  intro s p
  have hd : userEntity.expansion.declaration.describe = .ok userDescriptor := rfl
  have hs : s.predicates = [] ++ p :: [.inList "email" []] := by decide
  obtain ⟨hiff, statement, hc, hgrouped, -⟩ :=
    shown_or_grouped hd parenthesesCalls ⟨.dollar, true⟩ hs (Or.inr (List.cons_ne_nil _ _))
  have hor : ShowsOr p.template := hiff.mp (by decide)
  have hcolumns : (s.compile ⟨.dollar, true⟩).map (·.columns) = .ok ["id", "name", "email"] := rfl
  rw [hc] at hcolumns
  refine ⟨hd, hs, hor, statement, hc, ?_⟩
  rw [hgrouped hor, show statement.columns = ["id", "name", "email"] from Except.ok.inj hcolumns]
  decide

/-- The character is of ASCII and part of no word. -/
def isDelimiter (c : Char) : Bool := c.toNat < 128 && !c.isAlphanum && c ≠ '_' && c ≠ '$'

/-- The letters `o` and `r` stand in a text as the word OR of SQL: at the top level, and between
    characters that are part of no word, as far as there are any. -/
structure WordOrAt (before : List Char) (o r : Char) (after : List Char) : Prop where
  letters : o.toUpper = 'O' ∧ r.toUpper = 'R'
  top : AtTop before
  left : ∀ c ∈ before.getLast?, isDelimiter c = true
  right : ∀ c ∈ after.head?, isDelimiter c = true

/-- A marker before the word OR hides it, so that the condition after the next AND binds to its
    second half only. -/
theorem or_after_marker_missed :
    let args : List Value := [.int (some 1), .string (some "a")]
    let s := (State.ofEntity userDescriptor).run [.filter "id = ?OR name = ?" args, .filter "email IS NULL" []]
    let p := Predicate.fragment "id = ?OR name = ?" args
    userEntity.expansion.declaration.describe = .ok userDescriptor ∧
    s.predicates = [p, .fragment "email IS NULL" []] ∧
    p.template = "id = ?".toList ++ 'O' :: 'R' :: " name = ?".toList ∧
    WordOrAt "id = ?".toList 'O' 'R' " name = ?".toList ∧ p.hasDisjunction = false ∧
    ∃ statement, s.compile {} = .ok statement ∧ statement.values = args ∧ statement.sql.toList =
      "SELECT id, name, email FROM users WHERE id = ?OR name = ? AND email IS NULL".toList := by
  intro args s p
  have hd : userEntity.expansion.declaration.describe = .ok userDescriptor := rfl
  have hdd := describe_describes hd
  have hfits : s.Fits userDescriptor := (State.fits_ofEntity userDescriptor).run hdd _
  have hleft : ∀ c ∈ "id = ?".toList.getLast?, isDelimiter c = true := by
    rw [show "id = ?".toList.getLast? = some '?' by decide]
    rintro c ⟨⟩
    decide
  have hright : ∀ c ∈ " name = ?".toList.head?, isDelimiter c = true := by
    rw [show " name = ?".toList.head? = some ' ' by decide]
    rintro c ⟨⟩
    decide
  refine ⟨hd, by decide, by decide, ⟨by decide, by decide, hleft, hright⟩, by decide, _, hfits.compile hdd {}, ?_, ?_⟩
  · decide
  · rw [String.toList_ofList]
    decide

end EntityQuery.Query
