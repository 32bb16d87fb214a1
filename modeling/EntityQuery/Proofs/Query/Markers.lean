/-
  EntityQuery.Proofs.Query.Markers — what the scanner sees of a whole statement.

  Markers are counted condition by condition, when each is made; whoever runs the statement
  sees the joined text. `Marks` says of a text that the scanner is outside literals after it
  and has seen the markers at some byte offsets. It composes along a text (`Marks.append`),
  so it holds of a whole statement under the question style, the markers being the
  `State.places`: each in the text of its condition, at the rank of its argument.

  Two things could spoil that. Free text may end inside a literal, and a name may hold a
  quote or a question mark that is taken for one of the statement. `Unobtrusive` says of a
  name that it does not: between double quotes it has no backslash, bare it has no quote and
  no question mark.

  Under the dollar style nothing is left to compose: a text whose markers have been numbered,
  all of them, has none (`unmarked_of_renumbered`).

  `scan_finds_places`: after any calls, if the free texts end outside literals and the names
  are unobtrusive, then a scan of the statement finds the markers of its arguments and no
  others, and under the dollar style none.
-/
import EntityQuery.Proofs.Query.Numbering
import EntityQuery.Proofs.Query.Scanning

namespace EntityQuery.Query

open Schema Text

/-! ## Texts and their markers -/

/-- After the text, which starts at byte `offset`, the scanner is outside literals, and it
    has seen the markers. -/
structure Marks (offset : Nat) (cs : List Char) (ms : List Nat) : Prop where
  closed : Mode.plain.after cs = .plain
  seen : markersFrom .plain offset cs = ms

/-- Wherever the text starts, the scanner sees no marker in it. -/
def Unmarked (cs : List Char) : Prop := ∀ offset, Marks offset cs []

namespace Marks

variable {offset : Nat} {xs ys : List Char} {ms ns : List Nat}

theorem append (h : Marks offset xs ms) (h' : Marks (offset + byteSize xs) ys ns) :
    Marks offset (xs ++ ys) (ms ++ ns) := by
  constructor
  · rw [Mode.after_append, h.closed, h'.closed]
  · rw [markersFrom_append, h.closed, h.seen, h'.seen]

theorem before (h : Marks offset xs ms) (hy : Unmarked ys) : Marks offset (xs ++ ys) ms := by
  simpa using h.append (hy _)

end Marks

namespace Unmarked

variable {xs ys : List Char}

theorem nil : Unmarked [] := fun _ => ⟨rfl, rfl⟩

theorem append (hx : Unmarked xs) (hy : Unmarked ys) : Unmarked (xs ++ ys) := fun offset => (hx offset).before hy

theorem marks {offset : Nat} {ms : List Nat} (hx : Unmarked xs) (h : Marks (offset + byteSize xs) ys ms) :
    Marks offset (xs ++ ys) ms := by
  simpa using (hx offset).append h

theorem joined {sep : List Char} (hs : Unmarked sep) {ts : List (List Char)} (h : ∀ t ∈ ts, Unmarked t) :
    Unmarked (joined sep ts) := by
  fun_induction Text.joined sep ts with
  | case1 => exact nil
  | case2 t => exact h t List.mem_cons_self
  | case3 t ts _ ih =>
    rw [List.forall_mem_cons] at h
    exact (h.1.append hs).append (ih h.2)

end Unmarked

theorem offsetsOf_eq_nil {c : Char} {cs : List Char} (h : c ∉ cs) (offset : Nat) : offsetsOf c offset cs = [] := by
  rw [← List.length_eq_zero_iff, length_offsetsOf]
  exact List.count_eq_zero.mpr h

theorem unmarked_of_bland {cs : List Char} (h : cs.all isBland = true) : Unmarked cs := by
  rw [List.all_eq_true] at h
  have hq : ∀ c ∈ cs, isQuote c = false := fun c hc => by simpa using (Bool.and_eq_true_iff.mp (h c hc)).1
  have hm : '?' ∉ cs := fun hc => absurd (h _ hc) (by decide)
  intro offset
  exact ⟨after_unquoted hq, by rw [markersFrom_unquoted hq, offsetsOf_eq_nil hm]⟩

theorem unmarked_decimal (n : Nat) : Unmarked (decimal n) := unmarked_of_bland (all_decimal (by decide) n)

theorem markersFrom_shift (m : Mode) (n offset : Nat) (cs : List Char) :
    markersFrom m (n + offset) cs = (markersFrom m offset cs).map (n + ·) := by
  induction cs generalizing m offset with
  | nil => rfl
  | cons c cs ih =>
    rw [markersFrom, markersFrom, Nat.add_assoc, ih]
    split
    · rfl
    · rfl

/-- When every marker of a text has been replaced by a number, there is none left. -/
theorem unmarked_of_renumbered {offset k : Nat} {xs ds : List Char} {ps : List Nat} (h : Renumbered offset k xs ps ds) :
    ∀ m, ps = markersFrom m offset xs → ∀ offset', markersFrom m offset' ds = [] := by
  have hlow : ∀ m offset cs, ∀ p ∈ markersFrom m offset cs, offset ≤ p := fun m offset cs =>
    (renumbered_numberedFrom m offset 0 cs).le_of_mem
  induction h with
  | done => intros; rfl
  | @copy offset k cs ds places c h ih =>
    intro m hp offset'
    have hc : ¬ (m.shows c && c = '?') = true := by
      -- A marker that was copied would be a place, but the places come after it.
      intro hc
      rw [markersFrom, if_pos hc] at hp
      have := h.le_of_mem offset (by rw [hp]; exact List.mem_cons_self)
      have := c.utf8Size_pos
      omega
    rw [markersFrom, if_neg hc] at hp ⊢
    exact ih _ hp _
  | @mark offset k cs ds places h ih =>
    intro m hp offset'
    rw [markersFrom] at hp
    split at hp
    · rename_i hs
      rw [Bool.and_eq_true_iff] at hs
      cases Mode.plain_of_shows hs.1
      have hnumber : Unmarked ('$' :: decimal (k + 1)) :=
        Unmarked.append (unmarked_of_bland (by decide) : Unmarked ['$']) (unmarked_decimal _)
      rw [markersFrom_append, (hnumber 0).closed, (hnumber offset').seen]
      exact ih .plain (List.cons.inj hp).2 _
    · have := hlow _ _ _ offset (by rw [← hp]; exact List.mem_cons_self)
      have hq : '?'.utf8Size = 1 := rfl
      omega

/-! ## Names -/

/-- The scanner passes over the name as it is rendered. -/
def Unobtrusive (quote : Bool) (name : String) : Prop :=
  if quote then '\\' ∉ name.toList else name.toList.all isBland = true

instance (quote : Bool) (name : String) : Decidable (Unobtrusive quote name) :=
  inferInstanceAs (Decidable (if quote then '\\' ∉ name.toList else name.toList.all isBland = true))

theorem unmarked_identifier {quote : Bool} {name : String} (h : Unobtrusive quote name) (style : PlaceholderStyle) :
    Unmarked (identifier ⟨style, quote⟩ name) := by
  cases quote with
  | false => exact unmarked_of_bland h
  | true =>
    have hclosed : Mode.plain.after (identifier ⟨style, true⟩ name) = .plain := by
      rw [identifier_quoted]
      exact after_doubled h
    exact fun offset => ⟨hclosed, markersFrom_hidden (hidden_identifier hclosed) offset⟩

/-! ## Conditions -/

namespace Predicate

/-- Free text ends outside literals. -/
def Closed : Predicate → Prop
  | .fragment template _ => Mode.plain.after template.toList = .plain
  | .inList _ _ => True

instance (p : Predicate) : Decidable p.Closed :=
  match p with
  | .fragment template _ => inferInstanceAs (Decidable (Mode.plain.after template.toList = .plain))
  | .inList _ _ => inferInstanceAs (Decidable True)

variable {quote : Bool} {p : Predicate}

/-- The scanner sees the markers of a condition, wherever it stands. -/
theorem marks_render (hp : p.Closed) (hn : ∀ c, p.column? = some c → Unobtrusive quote c) (offset k : Nat) :
    Marks offset (p.render ⟨.question, quote⟩ k) ((p.places ⟨.question, quote⟩).map (offset + ·)) := by
  cases p with
  | fragment template args =>
    simp only [render, body_fragment]
    exact ⟨hp, markersFrom_shift .plain offset 0 template.toList⟩
  | inList column values =>
    simp only [render, body_inList]
    refine (unmarked_identifier (hn column rfl) .question).marks ⟨after_unquoted (listBody_unquoted _), ?_⟩
    rw [places, ← markersFrom_unquoted (listBody_unquoted _), ← markersFrom_shift]
    rfl

theorem markers_render (hp : p.Closed) (hn : ∀ c, p.column? = some c → Unobtrusive quote c) :
    markers (p.render ⟨.question, quote⟩ 0) = p.places ⟨.question, quote⟩ := by
  rw [markers, (marks_render hp hn 0 0).seen]
  simp

theorem marks_grouped (hp : p.Closed) (hn : ∀ c, p.column? = some c → Unobtrusive quote c) (many : Bool)
    (offset k : Nat) :
    Marks offset (p.renderGrouped ⟨.question, quote⟩ many k)
      ((p.places ⟨.question, quote⟩).map (p.start many offset + ·)) := by
  unfold renderGrouped start
  split
  · have inner := (marks_render hp hn (offset + 1) k).before (unmarked_of_bland (by decide) : Unmarked [')'])
    exact (unmarked_of_bland (by decide) : Unmarked ['(']).marks inner
  · exact marks_render hp hn offset k

end Predicate

theorem marks_conditions {quote : Bool} (many : Bool) {ps : List Predicate} (hp : ∀ p ∈ ps, p.Closed)
    (hn : ∀ p ∈ ps, ∀ c, p.column? = some c → Unobtrusive quote c) :
    ∀ offset k, Marks offset (joined " AND ".toList (conditions ⟨.question, quote⟩ many k ps))
      (placesOf ⟨.question, quote⟩ (standsFrom ⟨.question, quote⟩ many offset ps)) := by
  induction ps with
  | nil => intro offset k; exact ⟨rfl, rfl⟩
  | cons p ps ih =>
    intro offset k
    rw [List.forall_mem_cons] at hp hn
    have first := Predicate.marks_grouped hp.1 hn.1 many offset k
    rw [standsFrom, placesOf, List.flatMap_cons]
    cases ps with
    | nil => simpa [conditions, joined, standsFrom] using first
    | cons p' ps =>
      have rest := ih hp.2 hn.2 (offset + byteSize (p.renderGrouped ⟨.question, quote⟩ many k) +
        byteSize " AND ".toList) (k + p.args.length)
      refine (first.before (unmarked_of_bland (by decide) : Unmarked " AND ".toList)).append ?_
      rw [byteSize_append, ← Nat.add_assoc]
      exact rest

/-! ## Whole statements -/

namespace State

/-- The names that the text of a statement is made of. -/
def names (d : Descriptor) (s : State) : List String :=
  d.table :: (s.resultColumns d ++ s.predicates.filterMap (·.column?) ++ s.order.map (·.1))

variable {d : Descriptor} {s : State} {quote : Bool}

theorem unobtrusive_column (h : ∀ name ∈ s.names d, Unobtrusive quote name) :
    ∀ p ∈ s.predicates, ∀ c, p.column? = some c → Unobtrusive quote c := by
  intro p hp c hc
  have hm : c ∈ s.predicates.filterMap (·.column?) := List.mem_filterMap.mpr ⟨p, hp, hc⟩
  exact h c (by simp [names, hm])

theorem unmarked_selectClause (h : ∀ name ∈ s.names d, Unobtrusive quote name) (style : PlaceholderStyle) :
    Unmarked (selectClause ⟨style, quote⟩ d.table (s.resultColumns d)) := by
  have columns : ∀ t ∈ (s.resultColumns d).map (identifier ⟨style, quote⟩), Unmarked t := by
    intro t ht
    obtain ⟨c, hc, rfl⟩ := List.mem_map.mp ht
    exact unmarked_identifier (h c (by simp [names, hc])) style
  have table := unmarked_identifier (h d.table List.mem_cons_self) style
  exact (((unmarked_of_bland (by decide)).append (.joined (unmarked_of_bland (by decide)) columns)).append
    (unmarked_of_bland (by decide))).append table

theorem unmarked_orderClause (h : ∀ name ∈ s.names d, Unobtrusive quote name) (style : PlaceholderStyle) :
    Unmarked (s.orderClause ⟨style, quote⟩) := by
  have terms : ∀ t ∈ s.order.map (orderTerm ⟨style, quote⟩), Unmarked t := by
    intro t ht
    obtain ⟨⟨c, direction⟩, hc, rfl⟩ := List.mem_map.mp ht
    have hname : c ∈ s.names d := by
      simp only [names, List.mem_cons, List.mem_append, List.mem_map]
      exact Or.inr (Or.inr ⟨_, hc, rfl⟩)
    have hdirection : Unmarked (' ' :: direction.sql) := unmarked_of_bland (by cases direction <;> decide)
    exact (unmarked_identifier (h c hname) style).append hdirection
  unfold orderClause
  split
  · exact .nil
  · exact (unmarked_of_bland (by decide)).append (.joined (unmarked_of_bland (by decide)) terms)

theorem unmarked_limitClause (s : State) : Unmarked s.limitClause := by
  unfold limitClause
  split
  · exact .nil
  · exact (unmarked_of_bland (by decide)).append (unmarked_decimal _)

theorem unmarked_offsetClause (s : State) : Unmarked s.offsetClause := by
  unfold offsetClause
  split
  · exact .nil
  · exact (unmarked_of_bland (by decide)).append (unmarked_decimal _)

/-- The scanner sees the places of a statement. -/
theorem marks_sqlText (hp : ∀ p ∈ s.predicates, p.Closed) (hn : ∀ name ∈ s.names d, Unobtrusive quote name) :
    Marks 0 (s.sqlText ⟨.question, quote⟩ d.table (s.resultColumns d)) (s.places quote d) := by
  have hcolumns := unobtrusive_column hn
  have where_ : Marks (byteSize (selectClause ⟨.question, quote⟩ d.table (s.resultColumns d)))
      (s.whereClause ⟨.question, quote⟩) (s.places quote d) := by
    unfold whereClause places stands
    cases hps : s.predicates with
    | nil => exact ⟨rfl, rfl⟩
    | cons p ps =>
      rw [hps] at hp hcolumns
      exact (unmarked_of_bland (by decide) : Unmarked " WHERE ".toList).marks (marks_conditions _ hp hcolumns _ 0)
  rw [← Nat.zero_add (byteSize _)] at where_
  have select := (unmarked_selectClause hn .question).marks where_
  exact ((select.before (unmarked_orderClause hn .question)).before s.unmarked_limitClause).before
    s.unmarked_offsetClause

end State

theorem getElem?_middle {α : Type} {xs ys zs : List α} {j : Nat} (h : j < ys.length) :
    (xs ++ (ys ++ zs))[xs.length + j]? = ys[j]? := by
  rw [List.getElem?_append_right (Nat.le_add_right _ _), Nat.add_sub_cancel_left, List.getElem?_append_left h]

/-- After any calls that leave free text which ends outside literals, and with names that the
    scanner passes over, the scanner finds one marker in the question text for every argument:
    for that of rank `j` of a condition the marker of rank `j` in the text of that condition.
    In the dollar text it finds none. -/
theorem scan_finds_places {decl : Declaration} {d : Descriptor} (hd : decl.describe = .ok d) (calls : List Call)
    (quote : Bool) (hp : ∀ p ∈ ((State.ofEntity d).run calls).predicates, p.Closed)
    (hn : ∀ name ∈ ((State.ofEntity d).run calls).names d, Unobtrusive quote name) :
    let s := (State.ofEntity d).run calls
    ∃ question dollar : Statement,
      s.compile ⟨.question, quote⟩ = .ok question ∧ s.compile ⟨.dollar, quote⟩ = .ok dollar ∧
      (markers question.sql.toList).length = question.values.length ∧
      (∀ before p after, s.predicates = before ++ p :: after →
        let earlier := (before.flatMap (·.args)).length
        let text := p.render ⟨.question, quote⟩ 0
        ∃ start, slice question.sql.toList (start, start + byteSize text) = text ∧
          (markers text).length = p.args.length ∧
          ∀ j < p.args.length, question.values[earlier + j]? = p.args[j]? ∧
            (markers question.sql.toList)[earlier + j]? = (markers text)[j]?.map (start + ·)) ∧
      markers dollar.sql.toList = [] := by
  intro s
  have hdd := describe_describes hd
  have hs : s.Fits d := (State.fits_ofEntity d).run hdd calls
  have hseen : markers (s.sqlText ⟨.question, quote⟩ d.table (s.resultColumns d)) = s.places quote d :=
    (State.marks_sqlText hp hn).seen
  have hstands : (s.stands quote d).map (·.2) = s.predicates := standsFrom_predicates _ _ _ _
  have hcounted : ∀ x ∈ s.stands quote d, x.2.Counted := fun x hx =>
    hs.counted x.2 (by rw [← hstands]; exact List.mem_map.mpr ⟨x, hx, rfl⟩)
  refine ⟨_, _, hs.compile hdd _, hs.compile hdd _, ?_, fun before p after hsplit => ?_, ?_⟩
  · rw [String.toList_ofList, hseen, State.places, length_placesOf _ hcounted, hstands]
  · obtain ⟨l, r, hl, hbefore, hr⟩ := List.map_eq_append_iff.mp (hstands.trans hsplit)
    obtain ⟨x, r, rfl, rfl, -⟩ := List.map_eq_cons_iff.mp hr
    have hx : x ∈ s.stands quote d := by rw [hl]; simp
    have hmem : x.2 ∈ s.predicates := by rw [hsplit]; simp
    obtain ⟨pre, post, htext, hpre⟩ := sqlText_split quote d s x hx
    have hplaces := Predicate.markers_render (hp x.2 hmem) (State.unobtrusive_column hn x.2 hmem)
    have hlen : (x.2.places ⟨.question, quote⟩).length = x.2.args.length :=
      Predicate.length_places (hs.counted x.2 hmem) _
    refine ⟨x.1, ?_, by rw [hplaces, hlen], fun j hj => ⟨?_, ?_⟩⟩
    · rw [String.toList_ofList, htext, ← hpre]
      exact slice_middle pre _ post
    · rw [hsplit, List.flatMap_append, List.flatMap_cons]
      exact getElem?_middle hj
    · have hearlier : (before.flatMap (·.args)).length = (placesOf ⟨.question, quote⟩ l).length := by
        rw [length_placesOf _ fun y hy => hcounted y (by rw [hl]; exact List.mem_append_left _ hy), hbefore]
      rw [String.toList_ofList, hseen, State.places, hl, hearlier, hplaces, placesOf, placesOf, List.flatMap_append,
        List.flatMap_cons, getElem?_middle (by simpa [hlen] using hj), List.getElem?_map]
  · rw [String.toList_ofList]
    exact unmarked_of_renumbered (renumbered_sqlText quote d hs.counted) .plain hseen.symm 0

theorem scan_finds_places_odd :
    let s := (State.ofEntity oddDescriptor).run oddCalls
    oddDeclaration.describe = .ok oddDescriptor ∧ (∀ p ∈ s.predicates, p.Closed) ∧
    (∀ name ∈ s.names oddDescriptor, Unobtrusive true name) ∧
    s.predicates = [.fragment "a = '?' OR b = ?" [.int (some 1)], .inList "q?" [.bool (some true), .bool none],
      .inList "q?" []] ∧
    ∃ question dollar : Statement,
      s.compile ⟨.question, true⟩ = .ok question ∧ s.compile ⟨.dollar, true⟩ = .ok dollar ∧
      (markers question.sql.toList).length = question.values.length ∧ question.values[2]? = some (.bool none) ∧
      (∃ start, (markers question.sql.toList)[2]? = some (start + 12)) ∧ markers dollar.sql.toList = [] := by
  intro s
  have hd : oddDeclaration.describe = .ok oddDescriptor := rfl
  have hp : ∀ p ∈ s.predicates, p.Closed := by decide
  have hn : ∀ name ∈ s.names oddDescriptor, Unobtrusive true name := by decide
  have hs : s.predicates = [.fragment "a = '?' OR b = ?" [.int (some 1)],
    .inList "q?" [.bool (some true), .bool none], .inList "q?" []] := by decide
  obtain ⟨question, dollar, hq, hdollar, hlen, hplaces, hnone⟩ := scan_finds_places hd oddCalls true hp hn
  obtain ⟨start, -, -, hplaces⟩ := hplaces [_] _ [_] hs
  obtain ⟨hvalue, hmarker⟩ := hplaces 1 (by decide)
  exact ⟨hd, hp, hn, hs, question, dollar, hq, hdollar, hlen, hvalue, ⟨start, hmarker⟩, hnone⟩

end EntityQuery.Query
