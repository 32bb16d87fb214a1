/-
  EntityQuery.Proofs.Query.Writing — writing values so that they can be read back.

  A `Writing` says which texts write which values. It is `Delimited` by some words if, before
  any rest that begins with none of them, the text of a value tells the value and where it
  ends. Two such writings one after the other are delimited (`Delimited.pair`), so are lists
  with a separator (`Delimited.list`), if what follows does not begin like one more
  separator, and clauses that may be missing (`Delimited.clause`), if it does not begin with
  their keyword. What follows is known by the words it can begin with (`Opens`); if none of
  these is a prefix of a delimiter, nor the other way round, then the rest begins with no
  delimiter (`Opens.avoids`).

  - `delimited_name`: between double quotes a name can hold anything, and ends all the same at
    the first double quote that is not doubled (`readName_doubled`).
  - `delimited_decimal`: a number ends where a character is no digit.
  - `delimited_list`: a list tells how many values it has, whichever the style of its markers
    (`writes_list`).
-/
import EntityQuery.Proofs.Query.Numbering
import EntityQuery.Proofs.Query.Scanning
import Mathlib.Data.List.Forall2

namespace EntityQuery.Query

open Text

/-! ## What a text begins with -/

/-- The text begins with none of the words. -/
def Avoids (ws : List (List Char)) (r : List Char) : Prop := ∀ w ∈ ws, ¬ w <+: r

/-- The text is empty or begins with one of the words. -/
def Opens (ks : List (List Char)) (r : List Char) : Prop := r = [] ∨ ∃ k ∈ ks, k <+: r

/-- No word of one list begins with a word of the other. -/
def Apart (ws ks : List (List Char)) : Prop := ∀ w ∈ ws, w ≠ [] ∧ ∀ k ∈ ks, ¬ w <+: k ∧ ¬ k <+: w

instance (ws ks : List (List Char)) : Decidable (Apart ws ks) :=
  inferInstanceAs (Decidable (∀ w ∈ ws, w ≠ [] ∧ ∀ k ∈ ks, ¬ w <+: k ∧ ¬ k <+: w))

variable {ws vs ks js : List (List Char)} {w r s : List Char}

theorem Avoids.tail (h : Avoids (w :: ws) r) : Avoids ws r := fun v hv => h v (List.mem_cons_of_mem w hv)

theorem not_avoids (w : List Char) (ws : List (List Char)) (r : List Char) : ¬ Avoids (w :: ws) (w ++ r) := fun h =>
  h w List.mem_cons_self (List.prefix_append w r)

/-- Two words that one text begins with are not apart. -/
theorem Opens.avoids (h : Opens ks r) (hw : Apart ws ks) : Avoids ws r := by
  intro w hmem hr
  obtain ⟨hne, hks⟩ := hw w hmem
  rcases h with rfl | ⟨k, hk, hkr⟩
  · exact hne (List.prefix_nil.mp hr)
  · rcases List.prefix_or_prefix_of_prefix hr hkr with hwk | hkw
    · exact (hks k hk).1 hwk
    · exact (hks k hk).2 hkw

theorem Opens.of_mem {k : List Char} (h : k ∈ ks) (t : List Char) : Opens ks (k ++ t) :=
  Or.inr ⟨k, h, List.prefix_append k t⟩

theorem Opens.nil : Opens ks [] := Or.inl rfl

/-- A text that can be empty may be followed by what comes next. -/
theorem Opens.append (hr : Opens ks r) (hs : Opens js s) : Opens (ks ++ js) (r ++ s) := by
  rcases hr with rfl | ⟨k, hk, hkr⟩
  · rcases hs with rfl | ⟨j, hj, hjs⟩
    · exact Opens.nil
    · exact Or.inr ⟨j, List.mem_append_right ks hj, hjs⟩
  · exact Or.inr ⟨k, List.mem_append_left js hk, hkr.trans (List.prefix_append r s)⟩

/-! ## Writings -/

/-- Which texts write which values. -/
abbrev Writing (κ : Type) := List Char → κ → Prop

/-- Before a rest that begins with none of the words the text of a value tells the value and
    where it ends. -/
structure Delimited {κ : Type} (ws : List (List Char)) (W : Writing κ) : Prop where
  read : ∀ {t u : List Char} {x y : κ} {r s : List Char}, W t x → W u y → Avoids ws r → Avoids ws s →
    t ++ r = u ++ s → x = y ∧ r = s

namespace Writing

variable {κ μ : Type}

/-- One value after another. -/
def pair (V : Writing κ) (W : Writing μ) : Writing (κ × μ) := fun t x => ∃ a b, V a x.1 ∧ W b x.2 ∧ t = a ++ b

/-- One value or more, with separators between them. -/
def list (sep : List Char) (W : Writing κ) : Writing (List κ) := fun t xs =>
  xs ≠ [] ∧ ∃ ts, List.Forall₂ W ts xs ∧ t = joined sep ts

/-- Nothing, or a keyword and a value. -/
def clause (keyword : List Char) (absent : κ) (W : Writing κ) : Writing κ := fun t x =>
  (t = [] ∧ x = absent) ∨ ∃ b, W b x ∧ t = keyword ++ b

theorem opens_clause {keyword : List Char} {absent x : κ} {W : Writing κ} {t : List Char}
    (h : clause keyword absent W t x) : Opens [keyword] t := by
  rcases h with ⟨rfl, -⟩ | ⟨b, -, rfl⟩
  · exact Opens.nil
  · exact Opens.of_mem List.mem_cons_self b

end Writing

/-- With a separator in front every text has one before it. -/
theorem separator_joined (sep : List Char) {ts : List (List Char)} (h : ts ≠ []) :
    sep ++ joined sep ts = ts.flatMap (sep ++ ·) := by
  induction ts with
  | nil => exact absurd rfl h
  | cons t ts ih =>
    cases ts with
    | nil => simp [joined]
    | cons t' ts =>
      rw [List.flatMap_cons, ← ih (by simp)]
      show sep ++ (t ++ sep ++ joined sep (t' :: ts)) = _
      simp only [List.append_assoc]

namespace Delimited

variable {κ μ : Type} {V : Writing κ} {W : Writing μ}

theorem pair (hV : Delimited ws V) (hW : Delimited vs W) (hbegins : ∀ {t x}, W t x → ∃ k ∈ ks, k <+: t)
    (hapart : Apart ws ks) : Delimited vs (V.pair W) := by
  -- The second value is what the first one is followed by.
  have havoids : ∀ {t x} (r : List Char), W t x → Avoids ws (t ++ r) := by
    intro t x r h
    obtain ⟨k, hk, hkt⟩ := hbegins h
    exact Opens.avoids (Or.inr ⟨k, hk, hkt.trans (List.prefix_append t r)⟩) hapart
  constructor
  rintro _ _ ⟨x, x'⟩ ⟨y, y'⟩ r s ⟨a, b, ha, hb, rfl⟩ ⟨c, e, hc, he, rfl⟩ hr hs h
  rw [List.append_assoc, List.append_assoc] at h
  obtain ⟨rfl, h⟩ := hV.read ha hc (havoids r hb) (havoids s he) h
  obtain ⟨rfl, h⟩ := hW.read hb he hr hs h
  exact ⟨rfl, h⟩

/-- Texts that have a separator before each of them: when one list ends, the other one would
    need a separator where the rest has none. -/
theorem flatMap {sep : List Char} (hW : Delimited ws W) (hsep : Apart ws [sep]) {ts us : List (List Char)}
    {xs ys : List μ} (hts : List.Forall₂ W ts xs) (hus : List.Forall₂ W us ys) (hr : Avoids (sep :: ws) r)
    (hs : Avoids (sep :: ws) s) (h : ts.flatMap (sep ++ ·) ++ r = us.flatMap (sep ++ ·) ++ s) : xs = ys ∧ r = s := by
  have hnext : ∀ (ts : List (List Char)) {r}, Avoids (sep :: ws) r → Avoids ws (ts.flatMap (sep ++ ·) ++ r) := by
    intro ts r hr
    cases ts with
    | nil => exact hr.tail
    | cons t ts =>
      rw [List.flatMap_cons, List.append_assoc, List.append_assoc]
      exact (Opens.of_mem List.mem_cons_self _).avoids hsep
  induction hts generalizing us ys with
  | nil =>
    cases hus with
    | nil => exact ⟨rfl, h⟩
    | cons _ _ =>
      rw [List.flatMap_cons, List.append_assoc, List.append_assoc, List.flatMap_nil, List.nil_append] at h
      exact absurd (h ▸ hr) (not_avoids sep ws _)
  | cons hx _ ih =>
    rw [List.flatMap_cons, List.append_assoc, List.append_assoc] at h
    cases hus with
    | nil =>
      rw [List.flatMap_nil, List.nil_append] at h
      exact absurd (h ▸ hs) (not_avoids sep ws _)
    | cons hy hus =>
      rw [List.flatMap_cons, List.append_assoc, List.append_assoc] at h
      obtain ⟨rfl, h⟩ := hW.read hx hy (hnext _ hr) (hnext _ hs) (List.append_cancel_left h)
      obtain ⟨rfl, h⟩ := ih hus h
      exact ⟨rfl, h⟩

theorem list {sep : List Char} (hW : Delimited ws W) (hsep : Apart ws [sep]) :
    Delimited (sep :: ws) (W.list sep) := by
  constructor
  rintro _ _ xs ys r s ⟨hx, ts, hts, rfl⟩ ⟨hy, us, hus, rfl⟩ hr hs h
  have hne : ∀ {ts : List (List Char)} {xs : List μ}, List.Forall₂ W ts xs → xs ≠ [] → ts ≠ [] := by
    rintro _ _ (_ | _) hne
    · exact absurd rfl hne
    · exact List.cons_ne_nil _ _
  refine flatMap hW hsep hts hus hr hs ?_
  rw [← separator_joined sep (hne hts hx), ← separator_joined sep (hne hus hy), List.append_assoc, h, List.append_assoc]

theorem clause {keyword : List Char} {absent : μ} (hW : Delimited ws W) :
    Delimited (keyword :: ws) (W.clause keyword absent) := by
  constructor
  intro t u x y r s ht hu hr hs h
  rcases ht with ⟨rfl, rfl⟩ | ⟨b, hb, rfl⟩
  · rcases hu with ⟨rfl, rfl⟩ | ⟨c, hc, rfl⟩
    · exact ⟨rfl, h⟩
    · rw [List.append_assoc, List.nil_append] at h
      exact absurd (h ▸ hr) (not_avoids keyword ws _)
  · rw [List.append_assoc] at h
    rcases hu with ⟨rfl, rfl⟩ | ⟨c, hc, rfl⟩
    · rw [List.nil_append] at h
      exact absurd (h ▸ hs) (not_avoids keyword ws _)
    · rw [List.append_assoc] at h
      exact hW.read hb hc hr.tail hs.tail (List.append_cancel_left h)

end Delimited

/-! ## Names -/

/-- The name that a text begins with, up to the double quote that closes it, and what
    follows. -/
def readName : List Char → List Char × List Char
  | '\x22' :: '\x22' :: cs => ('\x22' :: (readName cs).1, (readName cs).2)
  | '\x22' :: cs => ([], cs)
  | c :: cs => (c :: (readName cs).1, (readName cs).2)
  | [] => ([], [])

theorem readName_doubled {r : List Char} (h : Avoids [['\x22']] r) (cs : List Char) :
    readName (doubled cs ++ '\x22' :: r) = (cs, r) := by
  induction cs with
  | nil =>
    cases r with
    | nil => rfl
    | cons c r =>
      have hc : c ≠ '\x22' := by
        rintro rfl
        exact not_avoids ['\x22'] [] r h
      simp [doubled, readName, hc]
  | cons c cs ih =>
    by_cases hc : c = '\x22'
    · subst hc
      rw [doubled_cons_quote, List.cons_append, List.cons_append, readName, ih]
    · rw [doubled_cons_ne hc, List.cons_append, readName, ih]
      · exact fun _ e _ => hc e
      · exact hc

def nameWriting : Writing String := fun t name => t = '\x22' :: (doubled name.toList ++ ['\x22'])

theorem delimited_name : Delimited [['\x22']] nameWriting := by
  constructor
  rintro _ _ x y r s rfl rfl hr hs h
  rw [List.cons_append, List.cons_append, List.append_assoc, List.append_assoc] at h
  have hread := congrArg readName (List.cons.inj h).2
  rw [List.singleton_append, List.singleton_append, readName_doubled hr, readName_doubled hs] at hread
  obtain ⟨hname, hrest⟩ := Prod.mk.inj hread
  exact ⟨String.toList_inj.mp hname, hrest⟩

/-! ## Numbers -/

/-- What cannot follow a number. -/
def digits : List (List Char) := decimalDigits.map fun c => [c]

theorem takeWhile_decimal {r : List Char} (h : Avoids digits r) (n : Nat) :
    (decimal n ++ r).takeWhile Char.isDigit = decimal n := by
  have hdigits : ∀ c ∈ decimal n, c.isDigit = true := fun c hc => Nat.isDigit_of_mem_toDigits (by omega) (by omega) hc
  have hrest : r.takeWhile Char.isDigit = [] := by
    cases r with
    | nil => rfl
    | cons c r =>
      refine List.takeWhile_cons_of_neg fun hc => h [c] ?_ (List.prefix_append [c] r)
      exact List.mem_map.mpr ⟨c, mem_decimalDigits hc, rfl⟩
  rw [List.takeWhile_append_of_pos hdigits, hrest, List.append_nil]

theorem delimited_decimal : Delimited digits fun t n => t = decimal n := by
  constructor
  rintro _ _ n m r s rfl rfl hr hs h
  have hsame := congrArg (List.takeWhile Char.isDigit) h
  rw [takeWhile_decimal hr, takeWhile_decimal hs] at hsame
  have hvalue := congrArg (Nat.ofDigitChars 10 · 0) hsame
  simp only [decimal, Nat.ofDigitChars_toDigits (by omega : 1 < 10) (by omega : 10 ≤ 10)] at hvalue
  rw [hsame] at h
  exact ⟨hvalue, List.append_cancel_left h⟩

def numberWriting : Writing (Option UInt64) := fun t x => ∃ n, x = some n ∧ t = decimal n.toNat

theorem delimited_number : Delimited digits numberWriting := by
  constructor
  rintro _ _ _ _ r s ⟨n, rfl, ht⟩ ⟨m, rfl, hu⟩ hr hs h
  obtain ⟨hvalue, hrest⟩ := delimited_decimal.read ht hu hr hs h
  rw [UInt64.toNat_inj.mp hvalue]
  exact ⟨rfl, hrest⟩

/-! ## Lists of markers -/

/-- A marker of either style, or what an empty list has in its place. -/
def itemWriting : Writing Bool := fun t present =>
  if present then t = ['?'] ∨ ∃ n, t = '$' :: decimal n else t = "NULL".toList

theorem delimited_item : Delimited digits itemWriting := by
  constructor
  intro t u x y r s ht hu hr hs h
  cases x with
  | false =>
    cases ht
    cases y with
    | false =>
      cases hu
      exact ⟨rfl, List.append_cancel_left h⟩
    | true =>
      rcases hu with rfl | ⟨m, rfl⟩
      · simp at h
      · simp at h
  | true =>
    cases y with
    | false =>
      cases hu
      rcases ht with rfl | ⟨n, rfl⟩
      · simp at h
      · simp at h
    | true =>
      refine ⟨rfl, ?_⟩
      rcases ht with rfl | ⟨n, rfl⟩
      · rcases hu with rfl | ⟨m, rfl⟩
        · exact List.append_cancel_left h
        · simp at h
      · rcases hu with rfl | ⟨m, rfl⟩
        · simp at h
        · exact (delimited_decimal.read rfl rfl hr hs (List.cons.inj h).2).2

/-- What stands in the parentheses of a list of `n` values. -/
def items (n : Nat) : List Bool := if n = 0 then [false] else List.replicate n true

theorem items_inj {n m : Nat} (h : items n = items m) : n = m := by
  have hcount : ∀ n, (items n).count true = n := by
    intro n
    unfold items
    split
    · rename_i hn
      rw [hn]
      rfl
    · simp
  rw [← hcount n, h, hcount m]

def listWriting : Writing Nat := fun t n => ∃ a, itemWriting.list ", ".toList a (items n) ∧ t = " IN (".toList ++ a ++ [')']

theorem delimited_list : Delimited [] listWriting := by
  constructor
  rintro _ _ n m r s ⟨a, ha, rfl⟩ ⟨b, hb, rfl⟩ - - h
  rw [List.append_assoc, List.append_assoc, List.append_assoc, List.append_assoc] at h
  have hclose : ∀ r, Avoids (", ".toList :: digits) ([')'] ++ r) := fun r =>
    (Opens.of_mem List.mem_cons_self r).avoids (by decide : Apart (", ".toList :: digits) [[')']])
  obtain ⟨hitems, h⟩ :=
    (delimited_item.list (by decide)).read ha hb (hclose r) (hclose s) (List.append_cancel_left h)
  exact ⟨items_inj hitems, List.append_cancel_left h⟩

theorem numberedFrom_bland {cs : List Char} (h : cs.all isBland = true) (k : Nat) (ds : List Char) :
    numberedFrom .plain k (cs ++ ds) = cs ++ numberedFrom .plain k ds := by
  induction cs with
  | nil => rfl
  | cons c cs ih =>
    simp only [List.all_cons, isBland, Bool.and_eq_true_iff, Bool.not_eq_true', decide_eq_true_eq] at h
    obtain ⟨⟨hq, hm⟩, hrest⟩ := h
    rw [List.cons_append, numberedFrom, Mode.next_plain hq, ih hrest]
    simp [hm]

/-- The markers of a list under the dollar style. -/
theorem numberedFrom_marks (k n : Nat) :
    numberedFrom .plain k (joined ", ".toList (List.replicate (n + 1) ['?']) ++ [')']) =
      joined ", ".toList ((List.range' (k + 1) (n + 1)).map ('$' :: decimal ·)) ++ [')'] := by
  induction n generalizing k with
  | zero => rfl
  | succ n ih =>
    have hcomma : ", ".toList.all isBland = true := by decide
    have hmark : ∀ ds, numberedFrom .plain k ('?' :: ds) = '$' :: decimal (k + 1) ++ numberedFrom .plain (k + 1) ds :=
      fun _ => rfl
    have hmarks : joined ", ".toList (List.replicate (n + 2) ['?']) =
        '?' :: (", ".toList ++ joined ", ".toList (List.replicate (n + 1) ['?'])) := rfl
    have hnumbers : joined ", ".toList ((List.range' (k + 1) (n + 2)).map ('$' :: decimal ·)) =
        '$' :: decimal (k + 1) ++ ", ".toList ++ joined ", ".toList ((List.range' (k + 2) (n + 1)).map ('$' :: decimal ·)) :=
      rfl
    rw [hmarks, List.cons_append, hmark, List.append_assoc, numberedFrom_bland hcomma, ih, hnumbers]
    simp only [List.append_assoc]

theorem writes_list (style : PlaceholderStyle) (k n : Nat) :
    listWriting (Predicate.renderMarkers style k (Predicate.listBody n)) n := by
  cases n with
  | zero =>
    have hitems : itemWriting.list ", ".toList "NULL".toList (items 0) :=
      ⟨by decide, ["NULL".toList], .cons rfl .nil, rfl⟩
    refine ⟨"NULL".toList, hitems, ?_⟩
    cases style with
    | question => rfl
    | dollar => rw [renderMarkers_dollar]; rfl
  | succ n =>
    have hitems : ∀ ts : List (List Char), ts.length = n + 1 → (∀ t ∈ ts, itemWriting t true) →
        itemWriting.list ", ".toList (joined ", ".toList ts) (items (n + 1)) := by
      intro ts hlen hts
      have hall : items (n + 1) = List.replicate ts.length true := by rw [hlen]; rfl
      rw [hall]
      refine ⟨by rw [hlen]; simp [List.replicate_succ], ts, ?_, rfl⟩
      rw [← List.map_const', List.forall₂_map_right_iff, List.forall₂_same]
      exact hts
    cases style with
    | question =>
      exact ⟨_, hitems (List.replicate (n + 1) ['?']) (by simp) fun t ht => Or.inl (List.eq_of_mem_replicate ht), rfl⟩
    | dollar =>
      refine ⟨_, hitems ((List.range' (k + 1) (n + 1)).map ('$' :: decimal ·)) (by simp) fun t ht => ?_, ?_⟩
      · obtain ⟨j, -, rfl⟩ := List.mem_map.mp ht
        exact Or.inr ⟨j, rfl⟩
      · have hopen : " IN (".toList.all isBland = true := by decide
        have hbody : Predicate.listBody (n + 1) =
            " IN (".toList ++ (joined ", ".toList (List.replicate (n + 1) ['?']) ++ [')']) := rfl
        rw [renderMarkers_dollar, hbody, numberedFrom_bland hopen, numberedFrom_marks, List.append_assoc]

end EntityQuery.Query
