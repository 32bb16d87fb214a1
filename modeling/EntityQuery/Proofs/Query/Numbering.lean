/-
  EntityQuery.Proofs.Query.Numbering — the two styles of markers side by side.

  Under the question style a template is copied; under the dollar style it is cut at its
  markers and put together again around running numbers. `Renumbered` relates two texts of
  which the second has numbers where the first has question marks at given byte offsets, and
  is the same everywhere else. It holds of one template, cut or not (`renumbered_markers`),
  it composes along a text (`Renumbered.append`), and so it holds of whole statements.

  `State.stands` says at which byte of a whole text each condition begins, and `State.places`
  are the byte offsets of the markers: those the scanner finds in a template, moved to where
  the template stands, and every question mark of a list after its column. A question mark
  in a name or in a literal is no place.

  `dollar_numbers_places`: after any calls, both styles give the same arguments and the same
  columns, the conditions stand where they are said to, there is one place for every
  argument, in order, each holding a question mark, and the dollar text is the question
  text with the `k`-th place replaced by `$k`.
-/
import EntityQuery.Proofs.Query.Run
import EntityQuery.Proofs.Text.Slice

namespace EntityQuery.Query

open Schema Text

/-! ## Texts with numbered places -/

/-- The text from byte `offset` on, with what stands at the `k`-th of some places replaced
    by `$k` and everything else as it is. -/
def numberAt (places : List Nat) : Nat → List Char → List Char
  | _, [] => []
  | offset, c :: cs =>
    (match places.idxOf? offset with
      | some k => '$' :: decimal (k + 1)
      | none => [c]) ++ numberAt places (offset + c.utf8Size) cs

theorem idxOf?_append_self {l r : List Nat} {a : Nat} (h : a ∉ l) : (l ++ a :: r).idxOf? a = some l.length := by
  induction l with
  | nil => simp [List.idxOf?_cons]
  | cons b l ih =>
    rw [List.mem_cons, not_or] at h
    have hne : (b == a) = false := by simpa using Ne.symm h.1
    simp [List.idxOf?_cons, hne, ih h.2]

/-- The second text is the first one, which starts at byte `offset`, with numbers after `k`
    for the question marks at some places. -/
inductive Renumbered : Nat → Nat → List Char → List Nat → List Char → Prop
  | done {offset k : Nat} : Renumbered offset k [] [] []
  | copy {offset k : Nat} {cs ds : List Char} {places : List Nat} (c : Char) :
      Renumbered (offset + c.utf8Size) k cs places ds → Renumbered offset k (c :: cs) places (c :: ds)
  | mark {offset k : Nat} {cs ds : List Char} {places : List Nat} :
      Renumbered (offset + 1) (k + 1) cs places ds →
      Renumbered offset k ('?' :: cs) (offset :: places) ('$' :: decimal (k + 1) ++ ds)

namespace Renumbered

variable {offset k : Nat} {xs ys ds es : List Char} {ps qs : List Nat}

theorem refl (offset k : Nat) (cs : List Char) : Renumbered offset k cs [] cs := by
  induction cs generalizing offset with
  | nil => exact .done
  | cons c cs ih => exact .copy c (ih _)

theorem append (h : Renumbered offset k xs ps ds)
    (h' : Renumbered (offset + byteSize xs) (k + ps.length) ys qs es) :
    Renumbered offset k (xs ++ ys) (ps ++ qs) (ds ++ es) := by
  induction h with
  | done => simpa using h'
  | copy c _ ih => exact .copy c (ih (by simpa [Nat.add_assoc] using h'))
  | @mark offset k cs ds places _ ih =>
    have hq : '?'.utf8Size = 1 := rfl
    rw [List.cons_append, List.cons_append, List.append_assoc]
    refine .mark (ih ?_)
    simpa [hq, Nat.add_assoc, Nat.add_comm 1] using h'

theorem after (xs : List Char) (h : Renumbered (offset + byteSize xs) k ys qs es) :
    Renumbered offset k (xs ++ ys) qs (xs ++ es) :=
  (refl offset k xs).append h

theorem before (ys : List Char) (h : Renumbered offset k xs ps ds) : Renumbered offset k (xs ++ ys) ps (ds ++ ys) := by
  simpa using h.append (refl _ _ ys)

theorem shift (n : Nat) (h : Renumbered offset k xs ps ds) :
    Renumbered (n + offset) k xs (ps.map (n + ·)) ds := by
  induction h with
  | done => exact .done
  | copy c _ ih => exact .copy c (by simpa [Nat.add_assoc] using ih)
  | mark _ ih => exact .mark (by simpa [Nat.add_assoc] using ih)

theorem le_of_mem (h : Renumbered offset k xs ps ds) : ∀ p ∈ ps, offset ≤ p := by
  induction h with
  | done => simp
  | copy c _ ih => intro p hp; have := ih p hp; omega
  | mark _ ih =>
    intro p hp
    rcases List.mem_cons.mp hp with rfl | hp
    · omega
    · have := ih p hp; omega

theorem increasing (h : Renumbered offset k xs ps ds) : ps.Pairwise (· < ·) := by
  induction h with
  | done => simp
  | copy c _ ih => exact ih
  | mark h ih => exact List.pairwise_cons.mpr ⟨fun p hp => by have := h.le_of_mem p hp; omega, ih⟩

/-- Every place holds a question mark. -/
theorem question_at (h : Renumbered offset k xs ps ds) :
    ∀ p ∈ ps, ∃ before after, xs = before ++ '?' :: after ∧ offset + byteSize before = p := by
  induction h with
  | done => simp
  | copy c _ ih =>
    intro p hp
    obtain ⟨before, after, rfl, hb⟩ := ih p hp
    exact ⟨c :: before, after, rfl, by rw [byteSize_cons]; omega⟩
  | mark _ ih =>
    intro p hp
    rcases List.mem_cons.mp hp with rfl | hp
    · exact ⟨[], _, rfl, by simp⟩
    · obtain ⟨before, after, rfl, hb⟩ := ih p hp
      have hq : '?'.utf8Size = 1 := rfl
      exact ⟨'?' :: before, after, rfl, by rw [byteSize_cons]; omega⟩

theorem numberAt_eq (h : Renumbered offset k xs ps ds) :
    ∀ earlier : List Nat, earlier.length = k → (∀ p ∈ earlier, p < offset) →
      numberAt (earlier ++ ps) offset xs = ds := by
  induction h with
  | done => intros; rfl
  | @copy offset k cs ds places c h ih =>
    intro earlier hk hlt
    have hc := c.utf8Size_pos
    have hnone : (earlier ++ places).idxOf? offset = none := by
      rw [List.idxOf?_eq_none_iff]
      intro hm
      rcases List.mem_append.mp hm with hm | hm
      · have := hlt _ hm; omega
      · have := h.le_of_mem _ hm; omega
    rw [numberAt, hnone, ih earlier hk fun p hp => by have := hlt p hp; omega]
    rfl
  | @mark offset k cs ds places h ih =>
    intro earlier hk hlt
    have hsome : (earlier ++ offset :: places).idxOf? offset = some k := by
      rw [← hk]
      exact idxOf?_append_self fun hm => by have := hlt _ hm; omega
    have hq : '?'.utf8Size = 1 := rfl
    rw [numberAt, hsome, hq]
    have := ih (earlier ++ [offset]) (by simp [hk]) (by
      intro p hp
      rcases List.mem_append.mp hp with hp | hp
      · have := hlt p hp; omega
      · have := List.mem_singleton.mp hp; omega)
    rw [List.append_assoc] at this
    rw [show earlier ++ offset :: places = earlier ++ ([offset] ++ places) from rfl, this]

end Renumbered

/-! ## One text, cut at its markers -/

/-- The text with its markers numbered in one pass, `k` numbers having been used before. -/
def numberedFrom : Mode → Nat → List Char → List Char
  | _, _, [] => []
  | m, k, c :: cs =>
    if m.shows c && c = '?' then '$' :: decimal (k + 1) ++ numberedFrom (m.next c) (k + 1) cs
    else c :: numberedFrom (m.next c) k cs

theorem cutsFrom_ne_nil (start stop : Nat) (ms : List Nat) : cutsFrom start stop ms ≠ [] := by
  cases ms <;> simp [cutsFrom]

/-- Cutting a text and putting it together again is one pass over it: `piece` is what has
    been read since the last marker, and `pre` what stands before that. -/
theorem numbered_cutsFrom (m : Mode) (cs : List Char) :
    ∀ (pre piece : List Char) (k : Nat),
      numbered k ((cutsFrom (byteSize pre) (byteSize (pre ++ piece ++ cs))
        (markersFrom m (byteSize (pre ++ piece)) cs)).map (slice (pre ++ piece ++ cs))) =
      piece ++ numberedFrom m k cs := by
  induction cs generalizing m with
  | nil =>
    intro pre piece k
    simpa [markersFrom, cutsFrom, numbered, numberedFrom] using slice_middle pre piece []
  | cons c cs ih =>
    intro pre piece k
    have hsize : byteSize (pre ++ piece) + c.utf8Size = byteSize (pre ++ (piece ++ [c])) := by simp; omega
    by_cases hc : (m.shows c && c = '?') = true
    · -- A marker ends the piece and starts the next one after its single byte.
      have hq : c = '?' := by simp at hc; exact hc.2
      have hpiece : slice (pre ++ piece ++ c :: cs) (byteSize pre, byteSize (pre ++ piece)) = piece := by
        rw [byteSize_append]; exact slice_middle pre piece (c :: cs)
      have hrest := ih (m.next c) (pre ++ (piece ++ [c])) [] (k + 1)
      have htext : pre ++ (piece ++ [c]) ++ [] ++ cs = pre ++ piece ++ c :: cs := by simp
      rw [htext, List.append_nil, ← hsize] at hrest
      simp only [markersFrom, numberedFrom, hc, if_true, cutsFrom, List.map_cons, hpiece]
      have hone : c.utf8Size = 1 := by rw [hq]; rfl
      rw [hone] at hrest ⊢
      rcases hl : (cutsFrom (byteSize (pre ++ piece) + 1) (byteSize (pre ++ piece ++ c :: cs))
        (markersFrom (m.next c) (byteSize (pre ++ piece) + 1) cs)).map (slice (pre ++ piece ++ c :: cs))
        with _ | ⟨t, ts⟩
      · exact absurd (List.map_eq_nil_iff.mp hl) (cutsFrom_ne_nil _ _ _)
      · rw [hl] at hrest
        rw [numbered, hrest]
        · simp
        · simp
    · have hrest := ih (m.next c) pre (piece ++ [c]) k
      have htext : pre ++ (piece ++ [c]) ++ cs = pre ++ piece ++ c :: cs := by simp
      rw [htext, ← hsize] at hrest
      simp only [markersFrom, numberedFrom, hc, Bool.false_eq_true, if_false]
      rw [hrest]
      simp

theorem renderMarkers_dollar (k : Nat) (cs : List Char) :
    Predicate.renderMarkers .dollar k cs = numberedFrom .plain k cs := by
  simpa [Predicate.renderMarkers, cuts, markers] using numbered_cutsFrom .plain cs [] [] k

theorem renumbered_numberedFrom (m : Mode) (offset k : Nat) (cs : List Char) :
    Renumbered offset k cs (markersFrom m offset cs) (numberedFrom m k cs) := by
  induction cs generalizing m offset k with
  | nil => exact .done
  | cons c cs ih =>
    by_cases hc : (m.shows c && c = '?') = true
    · simp only [markersFrom, numberedFrom, hc, if_true]
      have hq : c = '?' := by simp at hc; exact hc.2
      subst hq
      exact .mark (ih _ _ _)
    · simp only [markersFrom, numberedFrom, hc, Bool.false_eq_true, if_false]
      exact .copy c (ih _ _ _)

/-- A text under the dollar style is that text with its markers numbered. -/
theorem renumbered_markers (offset k : Nat) (cs : List Char) :
    Renumbered offset k cs (markersFrom .plain offset cs) (Predicate.renderMarkers .dollar k cs) := by
  rw [renderMarkers_dollar]
  exact renumbered_numberedFrom .plain offset k cs

/-! ## The list after a column -/

/-- The byte offsets of a character in a text that starts at byte `offset`. -/
def offsetsOf (c : Char) : Nat → List Char → List Nat
  | _, [] => []
  | offset, d :: ds =>
    if d = c then offset :: offsetsOf c (offset + d.utf8Size) ds else offsetsOf c (offset + d.utf8Size) ds

theorem length_offsetsOf (c : Char) (offset : Nat) (cs : List Char) : (offsetsOf c offset cs).length = cs.count c := by
  induction cs generalizing offset with
  | nil => rfl
  | cons d cs ih =>
    by_cases h : d = c
    · simp [offsetsOf, h, ih]
    · simp [offsetsOf, h, ih]

/-- Without a quote every question mark is seen. -/
theorem markersFrom_unquoted {cs : List Char} (h : ∀ c ∈ cs, isQuote c = false) (offset : Nat) :
    markersFrom .plain offset cs = offsetsOf '?' offset cs := by
  induction cs generalizing offset with
  | nil => rfl
  | cons c cs ih =>
    have hc := h c List.mem_cons_self
    have hn : Mode.plain.next c = .plain := by simp [Mode.next, hc]
    have hs : Mode.plain.shows c = true := by simp [Mode.shows, hc]
    rw [markersFrom, offsetsOf, hn, hs, ih fun d hd => h d (List.mem_cons_of_mem c hd)]
    by_cases e : c = '?' <;> simp [e]

theorem mem_joined {sep : List Char} {c : Char} {ts : List (List Char)} (h : c ∈ joined sep ts) :
    c ∈ sep ∨ ∃ t ∈ ts, c ∈ t := by
  fun_induction joined sep ts with
  | case1 => cases h
  | case2 t => exact Or.inr ⟨t, by simp, h⟩
  | case3 t ts hne ih =>
    rcases List.mem_append.mp h with h | h
    · rcases List.mem_append.mp h with h | h
      · exact Or.inr ⟨t, by simp, h⟩
      · exact Or.inl h
    · rcases ih h with h | ⟨t', ht', h⟩
      · exact Or.inl h
      · exact Or.inr ⟨t', List.mem_cons_of_mem t ht', h⟩

theorem listBody_eq (n : Nat) : Predicate.listBody n = " IN (".toList ++
    (if n = 0 then "NULL".toList else joined ", ".toList (List.replicate n ['?'])) ++ [')'] := rfl

theorem listBody_unquoted (n : Nat) : ∀ c ∈ Predicate.listBody n, isQuote c = false := by
  have open_ : ∀ c ∈ " IN (".toList, isQuote c = false := by simp [isQuote]
  have null : ∀ c ∈ "NULL".toList, isQuote c = false := by simp [isQuote]
  have comma : ∀ c ∈ ", ".toList, isQuote c = false := by simp [isQuote]
  intro c hc
  rw [listBody_eq, List.mem_append, List.mem_append, List.mem_singleton] at hc
  rcases hc with (hc | hc) | rfl
  · exact open_ c hc
  · split at hc
    · exact null c hc
    · rcases mem_joined hc with hc | ⟨t, ht, hc⟩
      · exact comma c hc
      · rw [(List.mem_replicate.mp ht).2, List.mem_singleton] at hc
        subst hc; decide
  · decide

theorem count_joined_marks (n : Nat) : (joined ", ".toList (List.replicate n ['?'])).count '?' = n := by
  induction n with
  | zero => rfl
  | succ n ih =>
    cases n with
    | zero => rfl
    | succ n =>
      rw [List.replicate_succ, List.replicate_succ, joined, ← List.replicate_succ, List.count_append,
        List.count_append, ih]
      · have : ['?'].count '?' + ", ".toList.count '?' = 1 := by decide
        omega
      · simp

/-- A list has as many question marks as values. -/
theorem count_listBody (n : Nat) : (Predicate.listBody n).count '?' = n := by
  have h1 : " IN (".toList.count '?' = 0 := by decide
  have h2 : "NULL".toList.count '?' = 0 := by decide
  rw [listBody_eq, List.count_append, List.count_append, h1]
  split
  · rename_i h; subst h
    rw [h2]; decide
  · rw [count_joined_marks]; simp

/-! ## Conditions -/

namespace Predicate

theorem body_fragment (template : String) (args : List Value) : (fragment template args).body = template.toList :=
  slice_all template.toList

theorem body_inList (column : String) (values : List Value) : (inList column values).body = listBody values.length :=
  slice_end column.toList (listBody values.length)

/-- The byte offsets of the markers of a condition in its text under the question style:
    those that the scanner finds in a template, and every question mark of a list. -/
def places (settings : Settings) : Predicate → List Nat
  | .fragment template _ => markers template.toList
  | .inList column values => offsetsOf '?' (byteSize (identifier settings column)) (listBody values.length)

theorem length_places {p : Predicate} (h : p.Counted) (settings : Settings) :
    (p.places settings).length = p.args.length := by
  cases p with
  | fragment template args => exact h
  | inList column values => rw [places, length_offsetsOf, count_listBody]; rfl

variable (quote : Bool)

theorem renumbered_render (p : Predicate) (j k : Nat) :
    Renumbered 0 k (p.render ⟨.question, quote⟩ j) (p.places ⟨.question, quote⟩) (p.render ⟨.dollar, quote⟩ k) := by
  cases p with
  | fragment template args =>
    simp only [render, body_fragment]
    exact renumbered_markers 0 k template.toList
  | inList column values =>
    simp only [render, body_inList, places]
    have hbody := renumbered_markers (byteSize (identifier ⟨.question, quote⟩ column)) k (listBody values.length)
    rw [markersFrom_unquoted (listBody_unquoted _)] at hbody
    refine Renumbered.after (identifier ⟨.question, quote⟩ column) ?_
    rw [Nat.zero_add]
    exact hbody

/-- Where a condition itself begins that is put at byte `offset`, in parentheses if it has to
    be. -/
def start (many : Bool) (offset : Nat) (p : Predicate) : Nat := if many && p.hasDisjunction then offset + 1 else offset

theorem renumbered_grouped (many : Bool) (offset j k : Nat) (p : Predicate) :
    Renumbered offset k (p.renderGrouped ⟨.question, quote⟩ many j)
      ((p.places ⟨.question, quote⟩).map (p.start many offset + ·)) (p.renderGrouped ⟨.dollar, quote⟩ many k) := by
  unfold renderGrouped start
  split
  · have inner := (renumbered_render quote p j k).shift (offset + 1)
    exact .copy '(' (inner.before [')'])
  · exact (renumbered_render quote p j k).shift offset

/-- A condition in its parentheses, if it has any. -/
theorem renderGrouped_split (settings : Settings) (many : Bool) (offset k : Nat) (p : Predicate) :
    ∃ before after, p.renderGrouped settings many k = before ++ p.render settings k ++ after ∧
      offset + byteSize before = p.start many offset := by
  unfold renderGrouped start
  split
  · exact ⟨['('], [')'], rfl, rfl⟩
  · exact ⟨[], [], by simp, by simp⟩

end Predicate

/-- The conditions that stand one after another from byte `offset` on, each with the byte at
    which it begins. -/
def standsFrom (settings : Settings) (many : Bool) : Nat → List Predicate → List (Nat × Predicate)
  | _, [] => []
  | offset, p :: ps =>
    (p.start many offset, p) ::
      standsFrom settings many (offset + byteSize (p.renderGrouped settings many 0) + byteSize " AND ".toList) ps

/-- The markers of conditions where these stand. -/
def placesOf (settings : Settings) (stands : List (Nat × Predicate)) : List Nat :=
  stands.flatMap fun x => (x.2.places settings).map (x.1 + ·)

theorem standsFrom_predicates (settings : Settings) (many : Bool) (ps : List Predicate) :
    ∀ offset, (standsFrom settings many offset ps).map (·.2) = ps := by
  induction ps with
  | nil => intro offset; rfl
  | cons p ps ih => intro offset; rw [standsFrom, List.map_cons, ih]

theorem length_placesOf (settings : Settings) {stands : List (Nat × Predicate)} (h : ∀ x ∈ stands, x.2.Counted) :
    (placesOf settings stands).length = ((stands.map (·.2)).flatMap (·.args)).length := by
  induction stands with
  | nil => rfl
  | cons x stands ih =>
    rw [List.forall_mem_cons] at h
    have hx := Predicate.length_places h.1 settings
    have hrest := ih h.2
    simp only [placesOf, List.flatMap_cons, List.map_cons, List.length_append, List.length_map] at hrest ⊢
    omega

/-- A condition stands where it is said to. -/
theorem conditions_split (quote many : Bool) (ps : List Predicate) :
    ∀ (offset k : Nat), ∀ x ∈ standsFrom ⟨.question, quote⟩ many offset ps,
      ∃ before after, joined " AND ".toList (conditions ⟨.question, quote⟩ many k ps) =
        before ++ x.2.render ⟨.question, quote⟩ 0 ++ after ∧ offset + byteSize before = x.1 := by
  induction ps with
  | nil => intro offset k x hx; cases hx
  | cons p ps ih =>
    intro offset k x hx
    obtain ⟨l, r, hsplit, hl⟩ := p.renderGrouped_split ⟨.question, quote⟩ many offset k
    cases ps with
    | nil =>
      cases List.mem_singleton.mp hx
      exact ⟨l, r, hsplit, hl⟩
    | cons p' ps =>
      have htext : joined " AND ".toList (conditions ⟨.question, quote⟩ many k (p :: p' :: ps)) =
          p.renderGrouped ⟨.question, quote⟩ many k ++ " AND ".toList ++
            joined " AND ".toList (conditions ⟨.question, quote⟩ many (k + p.args.length) (p' :: ps)) := rfl
      rw [htext]
      rcases List.mem_cons.mp hx with rfl | hx
      · refine ⟨l, r ++ (" AND ".toList ++ joined " AND ".toList
          (conditions ⟨.question, quote⟩ many (k + p.args.length) (p' :: ps))), ?_, hl⟩
        rw [hsplit]
        simp only [List.append_assoc]
        rfl
      · obtain ⟨before, after, hb, hx⟩ := ih _ (k + p.args.length) x hx
        refine ⟨p.renderGrouped ⟨.question, quote⟩ many k ++ " AND ".toList ++ before, after, ?_, ?_⟩
        · rw [hb]
          simp only [List.append_assoc]
        · have hsame : p.renderGrouped ⟨.question, quote⟩ many k = p.renderGrouped ⟨.question, quote⟩ many 0 := rfl
          rw [byteSize_append, byteSize_append, hsame, ← hx]
          omega

theorem renumbered_conditions (quote many : Bool) {ps : List Predicate} (h : ∀ p ∈ ps, p.Counted) :
    ∀ offset j k, Renumbered offset k (joined " AND ".toList (conditions ⟨.question, quote⟩ many j ps))
      (placesOf ⟨.question, quote⟩ (standsFrom ⟨.question, quote⟩ many offset ps))
      (joined " AND ".toList (conditions ⟨.dollar, quote⟩ many k ps)) := by
  induction ps with
  | nil => intro offset j k; exact .done
  | cons p ps ih =>
    intro offset j k
    rw [List.forall_mem_cons] at h
    have first := p.renumbered_grouped quote many offset j k
    have hcount : ((p.places ⟨.question, quote⟩).map (p.start many offset + ·)).length = p.args.length := by
      rw [List.length_map, p.length_places h.1]
    rw [standsFrom, placesOf, List.flatMap_cons]
    cases ps with
    | nil => simpa [conditions, joined, standsFrom] using first
    | cons p' ps =>
      have rest := ih h.2 (offset + byteSize (p.renderGrouped ⟨.question, quote⟩ many j) + byteSize " AND ".toList)
        (j + p.args.length) (k + p.args.length)
      refine (first.before " AND ".toList).append ?_
      rw [hcount, byteSize_append, ← Nat.add_assoc]
      exact rest

/-! ## Whole statements -/

/-- The conditions of a state in the text of its statement under the question style. -/
def State.stands (quote : Bool) (d : Descriptor) (s : State) : List (Nat × Predicate) :=
  standsFrom ⟨.question, quote⟩ (1 < s.predicates.length)
    (byteSize (selectClause ⟨.question, quote⟩ d.table (s.resultColumns d)) + byteSize " WHERE ".toList) s.predicates

/-- The byte offsets of the markers in that text. -/
def State.places (quote : Bool) (d : Descriptor) (s : State) : List Nat :=
  placesOf ⟨.question, quote⟩ (s.stands quote d)

theorem sqlText_split (quote : Bool) (d : Descriptor) (s : State) : ∀ x ∈ s.stands quote d,
    ∃ before after, s.sqlText ⟨.question, quote⟩ d.table (s.resultColumns d) =
      before ++ x.2.render ⟨.question, quote⟩ 0 ++ after ∧ byteSize before = x.1 := by
  intro x hx
  have hne : s.predicates.isEmpty = false := by
    cases hp : s.predicates with
    | nil => simp [State.stands, hp, standsFrom] at hx
    | cons p ps => rfl
  obtain ⟨before, after, htext, hx⟩ := conditions_split quote _ s.predicates _ 0 x hx
  refine ⟨State.selectClause ⟨.question, quote⟩ d.table (s.resultColumns d) ++ " WHERE ".toList ++ before,
    after ++ s.orderClause ⟨.question, quote⟩ ++ s.limitClause ++ s.offsetClause, ?_, ?_⟩
  · simp only [State.sqlText, State.whereClause, whereText, hne, Bool.false_eq_true, if_false, htext, List.append_assoc]
  · rw [byteSize_append, byteSize_append, hx]

theorem renumbered_sqlText (quote : Bool) (d : Descriptor) {s : State} (h : ∀ p ∈ s.predicates, p.Counted) :
    Renumbered 0 0 (s.sqlText ⟨.question, quote⟩ d.table (s.resultColumns d)) (s.places quote d)
      (s.sqlText ⟨.dollar, quote⟩ d.table (s.resultColumns d)) := by
  have where_ : Renumbered (byteSize (State.selectClause ⟨.question, quote⟩ d.table (s.resultColumns d))) 0
      (s.whereClause ⟨.question, quote⟩) (s.places quote d) (s.whereClause ⟨.dollar, quote⟩) := by
    unfold State.whereClause State.places State.stands
    cases hp : s.predicates with
    | nil => exact .done
    | cons p ps =>
      rw [hp] at h
      exact Renumbered.after " WHERE ".toList (renumbered_conditions quote _ h _ 0 0)
  rw [← Nat.zero_add (byteSize _)] at where_
  exact (((Renumbered.after _ where_).before _).before s.limitClause).before s.offsetClause

/-- After any calls both styles give the same columns and the same arguments, those of the
    calls that were taken, in order. Every condition stands in the question text as it is, and
    the places are those of its markers there, one for every argument; each holds a question
    mark, and the dollar text has their numbers instead and is otherwise the same. -/
theorem dollar_numbers_places {decl : Declaration} {d : Descriptor} (hd : decl.describe = .ok d)
    (calls : List Call) (quote : Bool) :
    let s := (State.ofEntity d).run calls
    ∃ question dollar : Statement,
      s.compile ⟨.question, quote⟩ = .ok question ∧ s.compile ⟨.dollar, quote⟩ = .ok dollar ∧
      dollar.columns = question.columns ∧ dollar.values = question.values ∧
      question.values = s.predicates.flatMap (·.args) ∧
      question.values = ((State.ofEntity d).taken calls).flatMap (·.args) ∧
      (s.stands quote d).map (·.2) = s.predicates ∧
      (∀ x ∈ s.stands quote d, slice question.sql.toList (x.1, x.1 + byteSize (x.2.render ⟨.question, quote⟩ 0)) =
        x.2.render ⟨.question, quote⟩ 0) ∧
      (s.places quote d).length = question.values.length ∧ (s.places quote d).Pairwise (· < ·) ∧
      (∀ p ∈ s.places quote d, slice question.sql.toList (p, p + 1) = ['?']) ∧
      dollar.sql.toList = numberAt (s.places quote d) 0 question.sql.toList := by
  intro s
  have hdd := describe_describes hd
  have hs : s.Fits d := (State.fits_ofEntity d).run hdd calls
  have hr := renumbered_sqlText quote d hs.counted
  have hstands : (s.stands quote d).map (·.2) = s.predicates := standsFrom_predicates _ _ _ _
  refine ⟨_, _, hs.compile hdd _, hs.compile hdd _, rfl, rfl, rfl, ?_, hstands, ?_, ?_, hr.increasing, ?_, ?_⟩
  · exact State.run_args (State.ofEntity d) calls
  · intro x hx
    obtain ⟨before, after, htext, hb⟩ := sqlText_split quote d s x hx
    rw [String.toList_ofList, htext, ← hb]
    exact slice_middle before _ after
  · rw [State.places, length_placesOf, hstands]
    intro x hx
    exact hs.counted x.2 (by rw [← hstands]; exact List.mem_map.mpr ⟨x, hx, rfl⟩)
  · intro p hp
    obtain ⟨before, after, htext, rfl⟩ := hr.question_at p hp
    have hq : '?'.utf8Size = 1 := rfl
    rw [String.toList_ofList, htext, Nat.zero_add]
    simpa [hq] using slice_middle before ['?'] after
  · rw [String.toList_ofList, String.toList_ofList]
    exact (hr.numberAt_eq [] rfl (by simp)).symm

def oddDeclaration : Declaration := ⟨"Odd", some "odd", [⟨"mark", .text, some "q?", false, false⟩]⟩

def oddDescriptor : Descriptor := ⟨"Odd", "odd", [⟨0, "mark", "q?", .text, false, false⟩], none, [("q?", 0)]⟩

/-- Question marks in a literal and in a column, an empty list, and two calls that are
    refused. -/
def oddCalls : List Call := [.filter "a = '?' OR b = ?" [.int (some 1)], .orderBy "gone" .asc, .filter "c = ?" [],
  .filterIn "q?" [.bool (some true), .bool none], .filterIn "q?" []]

theorem dollar_numbers_places_odd :
    oddDeclaration.describe = .ok oddDescriptor ∧
    let s := (State.ofEntity oddDescriptor).run oddCalls
    s.places true oddDescriptor = [45, 61, 64] ∧
    ∃ question dollar : Statement,
      s.compile ⟨.question, true⟩ = .ok question ∧ s.compile ⟨.dollar, true⟩ = .ok dollar ∧
      question.values = [.int (some 1), .bool (some true), .bool none] ∧
      dollar.sql.toList = numberAt [45, 61, 64] 0 question.sql.toList := by
  have hd : oddDeclaration.describe = .ok oddDescriptor := rfl
  have hplaces : ((State.ofEntity oddDescriptor).run oddCalls).places true oddDescriptor = [45, 61, 64] := by decide
  obtain ⟨question, dollar, hq, hdollar, -, -, hargs, -, -, -, -, -, -, htext⟩ := dollar_numbers_places hd oddCalls true
  refine ⟨hd, hplaces, question, dollar, hq, hdollar, ?_, ?_⟩
  · rw [hargs]; decide
  · rw [hplaces] at htext
    exact htext

end EntityQuery.Query
