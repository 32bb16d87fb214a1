/-
  EntityQuery.Proofs.Query.Grouping — conditions that are joined by AND stay whole.

  A condition with a word OR at its top level is put in parentheses next to others. It is
  judged by its template; what is put into the statement is the rendered text, with its
  markers numbered, the column of a list between quotes, and neighbours on both sides.

  A text is `Settled` if the scanner, outside literals and parentheses before it, is so again
  after it, and no parenthesis in it closes one before it. What such texts show at the top
  level adds up along a text, and between parentheses they show nothing. Numbers in place of
  markers keep a text settled, and the words that it shows stay apart one by one
  (`Numbers.forall_words`), so that no OR comes about that was not there (`Numbers.or_mem`). A
  quoted column shows nothing at all, and a bare one is judged as it stands.

  `joined_conditions_show_no_or`: after any calls that leave two conditions or more, all of
  them settled, the text after WHERE shows no word OR at the top level, and every AND between
  two conditions stands at the top level outside literals.
-/
import EntityQuery.Proofs.Query.Markers
import EntityQuery.Proofs.Text.Pieces
import Mathlib.Data.List.Forall2

namespace EntityQuery.Query

open Schema Text

/-! ## Settled texts -/

/-- Before and after the text the scanner is outside literals and parentheses, and no
    parenthesis in the text closes one before it. -/
structure Settled (cs : List Char) : Prop where
  closed : Mode.plain.after cs = .plain
  nested : depthFrom .plain 0 cs = some 0

instance (cs : List Char) : Decidable (Settled cs) :=
  decidable_of_iff (Mode.plain.after cs = .plain ∧ depthFrom .plain 0 cs = some 0)
    ⟨fun h => ⟨h.1, h.2⟩, fun h => ⟨h.closed, h.nested⟩⟩

namespace Settled

variable {xs ys : List Char}

theorem append (hx : Settled xs) (hy : Settled ys) : Settled (xs ++ ys) := by
  constructor
  · rw [Mode.after_append, hx.closed, hy.closed]
  · rw [depthFrom_append, hx.nested, hx.closed]
    exact hy.nested

theorem topLevel_append (hx : Settled xs) (ys : List Char) : topLevel (xs ++ ys) = topLevel xs ++ topLevel ys := by
  rw [topLevel, topLevelFrom_append hx.nested, hx.closed]
  rfl

/-- In parentheses a settled text is settled and shows nothing at the top level. -/
theorem parenthesized (hx : Settled xs) : Settled ('(' :: xs ++ [')']) ∧ topLevel ('(' :: xs ++ [')']) = [] := by
  obtain ⟨hdepth, htop⟩ := topLevelFrom_deeper hx.nested
  have hclosed : Mode.plain.after ('(' :: xs) = .plain := by
    rw [Mode.after_cons, Mode.next_plain (by decide), hx.closed]
  have hopen : depthFrom .plain 0 ('(' :: xs) = some 1 := hdepth
  refine ⟨⟨?_, ?_⟩, ?_⟩
  · rw [Mode.after_append, hclosed]
    rfl
  · rw [depthFrom_append, hopen, hclosed]
    rfl
  · have hshown : topLevelFrom .plain 0 ('(' :: xs) = [] := htop
    rw [topLevel, topLevelFrom_append hopen, hclosed, hshown]
    rfl

end Settled

/-! ## Numbers in place of markers -/

/-- The second text is the first one with numbers after dollar signs in the place of some
    question marks. -/
inductive Numbers : List Char → List Char → Prop
  | done : Numbers [] []
  | copy {xs ys : List Char} (c : Char) : Numbers xs ys → Numbers (c :: xs) (c :: ys)
  | mark {xs ys : List Char} (n : Nat) : Numbers xs ys → Numbers ('?' :: xs) ('$' :: decimal n ++ ys)

/-- What holds of the dollar sign and of the digits holds of every character of a numbered
    marker. -/
theorem all_dollar {f : Char → Bool} (hd : f '$' = true) (h : decimalDigits.all f = true) (n : Nat) :
    ('$' :: decimal n).all f = true := by
  rw [List.all_cons, hd, all_decimal h, Bool.and_self]

namespace Numbers

variable {xs ys : List Char}

theorem refl (cs : List Char) : Numbers cs cs := by
  induction cs with
  | nil => exact .done
  | cons c cs ih => exact .copy c ih

theorem after (cs : List Char) (h : Numbers xs ys) : Numbers (cs ++ xs) (cs ++ ys) := by
  induction cs with
  | nil => exact h
  | cons c cs ih => exact .copy c ih

theorem eq_of_not_mem (h : Numbers xs ys) (hd : '$' ∉ ys) : xs = ys := by
  induction h with
  | done => rfl
  | copy c _ ih =>
    rw [List.mem_cons, not_or] at hd
    rw [ih hd.2]
  | mark => exact absurd List.mem_cons_self hd

/-- Numbers replace markers word by word. -/
theorem forall_words (h : Numbers xs ys) : List.Forall₂ Numbers (words xs) (words ys) := by
  induction h with
  | done => exact .cons .done .nil
  | @copy xs ys c h ih =>
    cases hc : isBlank c with
    | true =>
      rw [words, pieces_cons_cut hc, pieces_cons_cut hc]
      exact .cons .done ih
    | false =>
      obtain ⟨w, ws, hw⟩ := List.exists_cons_of_ne_nil (pieces_ne_nil isBlank xs)
      obtain ⟨v, vs, hv⟩ := List.exists_cons_of_ne_nil (pieces_ne_nil isBlank ys)
      rw [words, hw, hv] at ih
      rw [words, pieces_cons hc hw, pieces_cons hc hv]
      cases ih with
      | cons hword hrest => exact .cons (.copy c hword) hrest
  | @mark xs ys n h ih =>
    obtain ⟨w, ws, hw⟩ := List.exists_cons_of_ne_nil (pieces_ne_nil isBlank xs)
    obtain ⟨v, vs, hv⟩ := List.exists_cons_of_ne_nil (pieces_ne_nil isBlank ys)
    have hdollar : ('$' :: decimal n).all (!isBlank ·) = true := all_dollar rfl (by decide) n
    rw [words, hw, hv] at ih
    rw [words, pieces_cons (by decide) hw, pieces_prepend hdollar hv]
    cases ih with
    | cons hword hrest => exact .cons (.mark n hword) hrest

/-- No word OR comes about by numbering. -/
theorem or_mem (h : Numbers xs ys) (hor : ['O', 'R'] ∈ words ys) : ['O', 'R'] ∈ words xs := by
  have hall := h.forall_words
  generalize words xs = ws at hall ⊢
  generalize words ys = vs at hall hor
  induction hall with
  | nil => cases hor
  | cons hword _ ih =>
    rcases List.mem_cons.mp hor with rfl | hor
    · rw [hword.eq_of_not_mem (by decide)]
      exact List.mem_cons_self
    · exact List.mem_cons_of_mem _ (ih hor)

end Numbers

/-- The character is neither a quote nor a parenthesis. -/
def isFlat (c : Char) : Bool := !isQuote c && c ≠ '(' && c ≠ ')'

theorem unquoted_of_flat {cs : List Char} (h : cs.all isFlat = true) : ∀ c ∈ cs, isQuote c = false := by
  intro c hc
  have hflat := List.all_eq_true.mp h c hc
  simp only [isFlat, Bool.and_eq_true_iff, Bool.not_eq_true'] at hflat
  exact hflat.1.1

/-- What a text without quotes and parentheses shows, at any depth. -/
theorem topLevelFrom_flat {cs : List Char} (h : cs.all isFlat = true) (depth : Nat) :
    depthFrom .plain depth cs = some depth ∧
      topLevelFrom .plain depth cs = if depth = 0 then cs.map Char.toUpper else [] := by
  induction cs with
  | nil => simp [depthFrom, topLevelFrom]
  | cons c cs ih =>
    simp only [List.all_cons, isFlat, Bool.and_eq_true_iff, Bool.not_eq_true', decide_eq_true_eq] at h
    obtain ⟨⟨⟨hq, ho⟩, hc⟩, hrest⟩ := h
    obtain ⟨hdepth, htop⟩ := ih hrest
    have hstep : depthStep .plain depth c = some depth := by simp [depthStep, ho, hc]
    rw [depthFrom, topLevelFrom_cons hstep, hstep, Mode.next_plain hq, htop]
    refine ⟨hdepth, ?_⟩
    by_cases hd : depth = 0 <;> simp [shownAt, Mode.shows, hq, ho, hc, hd]

theorem dollar_flat (n : Nat) : ('$' :: decimal n).all isFlat = true := all_dollar rfl (by decide) n

theorem dollar_toUpper (n : Nat) : ('$' :: decimal n).map Char.toUpper = '$' :: decimal n := by
  have h : ('$' :: decimal n).all (fun c => c.toUpper == c) = true := all_dollar rfl (by decide) n
  rw [List.map_congr_left fun c hc => beq_iff_eq.mp (List.all_eq_true.mp h c hc), List.map_id']

/-- Numbering the markers of a text changes neither the mode nor the depth after it, and what
    it shows at the top level only by these numbers. -/
theorem numberedFrom_reads {cs : List Char} : ∀ {m : Mode} {depth depth' : Nat} (k : Nat),
    depthFrom m depth cs = some depth' →
      m.after (numberedFrom m k cs) = m.after cs ∧ depthFrom m depth (numberedFrom m k cs) = some depth' ∧
        Numbers (topLevelFrom m depth cs) (topLevelFrom m depth (numberedFrom m k cs)) := by
  induction cs with
  | nil => intro m depth depth' k h; exact ⟨rfl, h, .done⟩
  | cons c cs ih =>
    intro m depth depth' k h
    obtain ⟨d, hd, hrest⟩ := Option.bind_eq_some_iff.mp h
    rw [numberedFrom]
    split
    · rename_i hc
      rw [Bool.and_eq_true_iff, decide_eq_true_eq] at hc
      obtain ⟨hs, rfl⟩ := hc
      cases Mode.plain_of_shows hs
      have hsame : d = depth := by simpa [depthStep] using hd.symm
      have hnext : Mode.plain.next '?' = .plain := rfl
      subst hsame
      rw [hnext] at hrest
      obtain ⟨hmode, hdepth, htop⟩ := ih (k + 1) hrest
      rw [hnext]
      have hclosed := after_unquoted (unquoted_of_flat (dollar_flat (k + 1)))
      obtain ⟨hflat, hshown⟩ := topLevelFrom_flat (dollar_flat (k + 1)) d
      refine ⟨?_, ?_, ?_⟩
      · rw [Mode.after_append, hclosed]
        exact hmode
      · rw [depthFrom_append, hflat, hclosed]
        exact hdepth
      · rw [topLevelFrom_append hflat, hclosed, hshown, topLevelFrom_cons hd, hnext, dollar_toUpper]
        by_cases h0 : d = 0
        · rw [if_pos h0]
          simpa [shownAt, h0, Mode.shows, isQuote] using htop.mark (k + 1)
        · rw [if_neg h0]
          simpa [shownAt, h0] using htop
    · obtain ⟨hmode, hdepth, htop⟩ := ih k hrest
      refine ⟨hmode, ?_, ?_⟩
      · rw [depthFrom, hd]
        exact hdepth
      · rw [topLevelFrom_cons hd, topLevelFrom_cons hd]
        exact htop.after _

theorem Settled.renderMarkers {cs : List Char} (h : Settled cs) (style : PlaceholderStyle) (k : Nat) :
    Settled (Predicate.renderMarkers style k cs) ∧
      Numbers (topLevel cs) (topLevel (Predicate.renderMarkers style k cs)) := by
  cases style with
  | question => exact ⟨h, .refl _⟩
  | dollar =>
    rw [renderMarkers_dollar]
    obtain ⟨hmode, hdepth, htop⟩ := numberedFrom_reads k h.nested
    exact ⟨⟨hmode.trans h.closed, hdepth⟩, htop⟩

/-! ## Conditions -/

/-- The list after a column shows only its first word, its values being in parentheses. -/
theorem settled_listBody (n : Nat) : Settled (Predicate.listBody n) ∧ topLevel (Predicate.listBody n) = " IN ".toList := by
  have hflat : (if n = 0 then "NULL".toList else joined ", ".toList (List.replicate n ['?'])).all isFlat = true := by
    have hcomma : ", ".toList.all isFlat = true := by decide
    split
    · decide
    · rw [List.all_eq_true] at hcomma ⊢
      intro c hc
      rcases mem_joined hc with hc | ⟨t, ht, hc⟩
      · exact hcomma c hc
      · rw [(List.mem_replicate.mp ht).2, List.mem_singleton] at hc
        subst hc
        decide
  have hin : Settled " IN ".toList := by decide
  have hitems : Settled _ := ⟨after_unquoted (unquoted_of_flat hflat), (topLevelFrom_flat hflat 0).1⟩
  obtain ⟨hsettled, htop⟩ := hitems.parenthesized
  have hsplit : Predicate.listBody n = " IN ".toList ++ ('(' ::
      (if n = 0 then "NULL".toList else joined ", ".toList (List.replicate n ['?'])) ++ [')']) := by
    rw [listBody_eq]
    simp
  rw [hsplit]
  refine ⟨hin.append hsettled, ?_⟩
  rw [hin.topLevel_append, htop]
  decide

namespace Predicate

/-- What the caller has put into the condition is settled: free text as written, the column
    of a list as it is rendered. -/
def Settled (settings : Settings) : Predicate → Prop
  | .fragment template _ => Query.Settled template.toList
  | .inList column _ => Query.Settled (identifier settings column)

instance (settings : Settings) (p : Predicate) : Decidable (p.Settled settings) :=
  match p with
  | .fragment template _ => inferInstanceAs (Decidable (Query.Settled template.toList))
  | .inList column _ => inferInstanceAs (Decidable (Query.Settled (identifier settings column)))

variable {settings : Settings} {p : Predicate}

/-- A rendered condition is settled; if its template shows no OR, then it shows none either. -/
theorem settled_render (h : p.Settled settings) (k : Nat) :
    Query.Settled (p.render settings k) ∧
      (p.hasDisjunction = false → ['O', 'R'] ∉ words (topLevel (p.render settings k))) := by
  have hor : p.hasDisjunction = false → ['O', 'R'] ∉ words (topLevel p.template) := by
    simp [hasDisjunction, hasTopLevelOr]
  cases p with
  | fragment template args =>
    simp only [render, body_fragment]
    obtain ⟨hsettled, hnumbers⟩ := Settled.renderMarkers h settings.placeholder k
    exact ⟨hsettled, fun hd hm => hor hd (hnumbers.or_mem hm)⟩
  | inList column values =>
    obtain ⟨hbody, htop⟩ := settled_listBody values.length
    obtain ⟨hsettled, hnumbers⟩ := hbody.renderMarkers settings.placeholder k
    have hcolumn : Query.Settled (identifier settings column) := h
    simp only [render, body_inList, head, column?]
    refine ⟨hcolumn.append hsettled, fun hd hm => ?_⟩
    rw [hcolumn.topLevel_append] at hm
    have hraw := (hnumbers.after _).or_mem hm
    obtain ⟨style, quote⟩ := settings
    cases quote with
    | false =>
      -- Bare, the column with the list is the template, which has been judged.
      refine hor hd ?_
      have hbare : Query.Settled column.toList := hcolumn
      show _ ∈ words (topLevel (column.toList ++ listBody values.length))
      rw [hbare.topLevel_append]
      exact hraw
    | true =>
      -- Quoted, the column shows nothing, and the list shows no OR.
      have hhidden : topLevel (identifier ⟨style, true⟩ column) = [] :=
        (topLevelFrom_hidden (hidden_identifier hcolumn.closed) 0).2
      rw [hhidden, htop] at hraw
      exact absurd hraw (by decide)

/-- Next to others a condition shows no OR. -/
theorem settled_grouped (h : p.Settled settings) (k : Nat) :
    Query.Settled (p.renderGrouped settings true k) ∧
      ['O', 'R'] ∉ words (topLevel (p.renderGrouped settings true k)) := by
  obtain ⟨hsettled, hor⟩ := settled_render h k
  unfold renderGrouped
  cases hd : p.hasDisjunction with
  | true =>
    obtain ⟨hgrouped, htop⟩ := hsettled.parenthesized
    refine ⟨hgrouped, ?_⟩
    show _ ∉ words (topLevel ('(' :: p.render settings k ++ [')']))
    rw [htop]
    decide
  | false => exact ⟨hsettled, hor hd⟩

end Predicate

/-- Texts that show no OR show none when they are joined by AND. -/
theorem settled_joined {ts : List (List Char)} (h : ∀ t ∈ ts, Settled t ∧ ['O', 'R'] ∉ words (topLevel t)) :
    Settled (joined " AND ".toList ts) ∧ ['O', 'R'] ∉ words (topLevel (joined " AND ".toList ts)) := by
  fun_induction joined " AND ".toList ts with
  | case1 => decide
  | case2 t => exact h t List.mem_cons_self
  | case3 t ts _ ih =>
    rw [List.forall_mem_cons] at h
    obtain ⟨⟨ht, hort⟩, hts⟩ := h
    obtain ⟨hrest, horrest⟩ := ih hts
    have hand : Settled " AND ".toList := by decide
    have htop : topLevel (t ++ " AND ".toList ++ joined " AND ".toList ts) =
        topLevel t ++ ' ' :: ("AND".toList ++ ' ' :: topLevel (joined " AND ".toList ts)) := by
      rw [(ht.append hand).topLevel_append, ht.topLevel_append, List.append_assoc]
      rfl
    refine ⟨(ht.append hand).append hrest, ?_⟩
    rw [htop, words, pieces_append _ (by decide), pieces_append _ (by decide), List.mem_append, List.mem_append]
    rintro (hm | hm | hm)
    · exact hort hm
    · revert hm
      decide
    · exact horrest hm

theorem settled_conditions {settings : Settings} {ps : List Predicate} (h : ∀ p ∈ ps, p.Settled settings) :
    ∀ k, ∀ t ∈ conditions settings true k ps, Settled t ∧ ['O', 'R'] ∉ words (topLevel t) := by
  induction ps with
  | nil => intro k t ht; cases ht
  | cons p ps ih =>
    intro k t ht
    rw [List.forall_mem_cons] at h
    rcases List.mem_cons.mp ht with rfl | ht
    · exact Predicate.settled_grouped h.1 k
    · exact ih h.2 _ t ht

theorem conditions_append (settings : Settings) (many : Bool) (ps qs : List Predicate) :
    ∀ k, conditions settings many k (ps ++ qs) =
      conditions settings many k ps ++ conditions settings many (k + (ps.flatMap (·.args)).length) qs := by
  induction ps with
  | nil => intro k; rfl
  | cons p ps ih =>
    intro k
    rw [List.cons_append, conditions, ih, conditions, List.flatMap_cons, List.length_append, List.cons_append, Nat.add_assoc]

theorem conditions_ne_nil {settings : Settings} {many : Bool} {k : Nat} {ps : List Predicate} (h : ps ≠ []) :
    conditions settings many k ps ≠ [] := by
  cases ps with
  | nil => exact absurd rfl h
  | cons p ps => simp [conditions]

theorem joined_append (sep : List Char) {ts us : List (List Char)} (ht : ts ≠ []) (hu : us ≠ []) :
    joined sep (ts ++ us) = joined sep ts ++ sep ++ joined sep us := by
  induction ts with
  | nil => exact absurd rfl ht
  | cons t ts ih =>
    obtain ⟨u, us, rfl⟩ := List.exists_cons_of_ne_nil hu
    cases ts with
    | nil => rfl
    | cons t' ts =>
      show t ++ sep ++ joined sep (t' :: ts ++ u :: us) = t ++ sep ++ joined sep (t' :: ts) ++ sep ++ joined sep (u :: us)
      rw [ih (by simp)]
      simp only [List.append_assoc]

/-! ## Whole statements -/

/-- After any calls that leave two conditions or more, with whatever the callers have put into
    them settled, the text after WHERE shows no word OR at the top level. Where one condition
    is joined to the next by AND, the scanner stands at the top level outside literals. -/
theorem joined_conditions_show_no_or {decl : Declaration} {d : Descriptor} (hd : decl.describe = .ok d)
    (calls : List Call) (settings : Settings) (hmany : 2 ≤ ((State.ofEntity d).run calls).predicates.length)
    (hp : ∀ p ∈ ((State.ofEntity d).run calls).predicates, p.Settled settings) :
    let s := (State.ofEntity d).run calls
    ∃ statement, s.compile settings = .ok statement ∧
      statement.sql.toList = State.selectClause settings d.table statement.columns ++ " WHERE ".toList ++
        whereText settings s.predicates ++ (s.orderClause settings ++ s.limitClause ++ s.offsetClause) ∧
      ['O', 'R'] ∉ words (topLevel (whereText settings s.predicates)) ∧
      ∀ before after, s.predicates = before ++ after → before ≠ [] → after ≠ [] →
        let left := joined " AND ".toList (conditions settings true 0 before)
        let right := joined " AND ".toList (conditions settings true (before.flatMap (·.args)).length after)
        whereText settings s.predicates = left ++ " AND ".toList ++ right ∧ Settled left ∧ Settled right := by
  intro s
  have hdd := describe_describes hd
  have hs : s.Fits d := (State.fits_ofEntity d).run hdd calls
  have htext : whereText settings s.predicates =
      joined " AND ".toList (conditions settings true 0 s.predicates) := by
    have hmany' : 1 < s.predicates.length := hmany
    simp [whereText, hmany']
  have hne : s.predicates.isEmpty = false := by
    cases hps : s.predicates with
    | nil => rw [hps] at hmany; cases hmany
    | cons p ps => rfl
  refine ⟨_, hs.compile hdd settings, ?_, ?_, fun before after hsplit hb ha => ?_⟩
  · rw [String.toList_ofList, State.sqlText, State.whereClause, hne]
    simp only [Bool.false_eq_true, if_false, List.append_assoc]
  · rw [htext]
    exact (settled_joined (settled_conditions hp 0)).2
  · rw [hsplit] at hp
    rw [htext, hsplit, conditions_append, joined_append _ (conditions_ne_nil hb) (conditions_ne_nil ha), Nat.zero_add]
    exact ⟨rfl, (settled_joined (settled_conditions (fun p h => hp p (List.mem_append_left _ h)) _)).1,
      (settled_joined (settled_conditions (fun p h => hp p (List.mem_append_right _ h)) _)).1⟩

/-- A disjunction at the top level, one in parentheses with a literal parenthesis, and a list. -/
def groupedCalls : List Call := [.filter "a = ? or b = ?" [.int (some 1), .int (some 2)],
  .filter "(c = ')' OR d = ?)" [.int (some 3)], .filterIn "q?" [.bool none]]

theorem joined_conditions_show_no_or_odd :
    let s := (State.ofEntity oddDescriptor).run groupedCalls
    oddDeclaration.describe = .ok oddDescriptor ∧ 2 ≤ s.predicates.length ∧
    (∀ p ∈ s.predicates, p.Settled ⟨.dollar, true⟩) ∧
    whereText ⟨.dollar, true⟩ s.predicates =
      "(a = $1 or b = $2) AND (c = ')' OR d = $3) AND \x22q?\x22 IN ($4)".toList ∧
    ['O', 'R'] ∉ words (topLevel "(a = $1 or b = $2) AND (c = ')' OR d = $3) AND \x22q?\x22 IN ($4)".toList) := by
  intro s
  have hd : oddDeclaration.describe = .ok oddDescriptor := rfl
  have hmany : 2 ≤ s.predicates.length := by decide
  have hp : ∀ p ∈ s.predicates, p.Settled ⟨.dollar, true⟩ := by decide
  have htext : whereText ⟨.dollar, true⟩ s.predicates =
      "(a = $1 or b = $2) AND (c = ')' OR d = $3) AND \x22q?\x22 IN ($4)".toList := by decide
  obtain ⟨statement, -, -, hor, -⟩ := joined_conditions_show_no_or hd groupedCalls ⟨.dollar, true⟩ hmany hp
  refine ⟨hd, hmany, hp, htext, ?_⟩
  rw [← htext]
  exact hor

end EntityQuery.Query
