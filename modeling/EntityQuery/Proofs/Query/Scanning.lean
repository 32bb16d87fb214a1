/-
  EntityQuery.Proofs.Query.Scanning — the scanner over texts put one after another.

  The scanner reads a text character by character and keeps its `Mode`. What it sees of two
  texts one after another is what it sees of the first, and then of the second from the mode
  that the first leaves it in (`markersFrom_append`, `topLevelFrom_append`). A text that
  leaves it outside literals can so be looked at on its own, wherever it stands.

  `depthFrom` follows the depth of parentheses beside the mode, and fails where a parenthesis
  closes nothing: up to such a place the scan for words at the top level has that depth, and
  from it on it is no longer true to the nesting. One level further down the same text shows
  nothing at the top level (`topLevelFrom_deeper`).

  A name between double quotes, its own doubled, shows nothing at all if the scanner is
  outside literals after it (`hidden_doubled`). It is, unless the name has a backslash: a
  backslash before a double quote escapes the first of the two, and the second then closes
  the literal too early. After that every pair in the name opens a literal and closes it
  again, and the last quote opens one that stays open.
-/
import EntityQuery.Proofs.Text.Slice
import EntityQuery.Query.Statement

namespace EntityQuery.Query

open Text

/-! ## Modes -/

theorem Mode.after_append (m : Mode) (xs ys : List Char) : m.after (xs ++ ys) = (m.after xs).after ys :=
  List.foldl_append

theorem Mode.after_cons (m : Mode) (c : Char) (cs : List Char) : m.after (c :: cs) = (m.next c).after cs := rfl

theorem Mode.plain_of_shows {m : Mode} {c : Char} (h : m.shows c = true) : m = .plain := by
  cases m with
  | plain => rfl
  | quoted q => cases h
  | escaped q => cases h

theorem Mode.next_plain {c : Char} (h : isQuote c = false) : Mode.plain.next c = .plain := by simp [Mode.next, h]

theorem Mode.next_quote {c : Char} (h : isQuote c = true) : Mode.plain.next c = .quoted c := by simp [Mode.next, h]

/-- A text without quotes leaves the scanner outside literals. -/
theorem after_unquoted {cs : List Char} (h : ∀ c ∈ cs, isQuote c = false) : Mode.plain.after cs = .plain := by
  induction cs with
  | nil => rfl
  | cons c cs ih =>
    rw [Mode.after_cons, Mode.next_plain (h c List.mem_cons_self)]
    exact ih fun d hd => h d (List.mem_cons_of_mem c hd)

/-- The character is neither a quote nor a question mark. -/
def isBland (c : Char) : Bool := !isQuote c && c ≠ '?'

theorem markersFrom_append (m : Mode) (offset : Nat) (xs ys : List Char) :
    markersFrom m offset (xs ++ ys) =
      markersFrom m offset xs ++ markersFrom (m.after xs) (offset + byteSize xs) ys := by
  induction xs generalizing m offset with
  | nil => rfl
  | cons c cs ih =>
    rw [List.cons_append, markersFrom, markersFrom, ih, Mode.after_cons, byteSize_cons, ← Nat.add_assoc]
    split
    · rfl
    · rfl

/-! ## Decimal numbers -/

def decimalDigits : List Char := "0123456789".toList

theorem mem_decimalDigits {c : Char} (h : c.isDigit = true) : c ∈ decimalDigits := by
  have hall : ∀ n ∈ List.range' 48 10, Char.ofNat n ∈ decimalDigits := by decide
  obtain ⟨hlow, hhigh⟩ := Char.isDigit_iff_toNat.mp h
  rw [← Char.ofNat_toNat c]
  exact hall c.toNat (List.mem_range'_1.mpr ⟨hlow, Nat.lt_succ_of_le hhigh⟩)

/-- What holds of the ten digits holds of every character of a number. -/
theorem all_decimal {f : Char → Bool} (h : decimalDigits.all f = true) (n : Nat) : (decimal n).all f = true := by
  rw [List.all_eq_true] at h ⊢
  exact fun c hc => h c (mem_decimalDigits (Nat.isDigit_of_mem_toDigits (by omega) (by omega) hc))

/-! ## Parentheses -/

/-- The depth of parentheses after a character; none if it closes nothing. -/
def depthStep (m : Mode) (depth : Nat) (c : Char) : Option Nat :=
  if m.shows c && c = '(' then some (depth + 1)
  else if m.shows c && c = ')' then if depth = 0 then none else some (depth - 1)
  else some depth

/-- The depth of parentheses after a text; none if one of them closes nothing. -/
def depthFrom : Mode → Nat → List Char → Option Nat
  | _, depth, [] => some depth
  | m, depth, c :: cs => (depthStep m depth c).bind fun depth => depthFrom (m.next c) depth cs

/-- What a character adds to the text at the top level. -/
def shownAt (m : Mode) (depth : Nat) (c : Char) : List Char :=
  if m.shows c && depth = 0 && c ≠ '(' && c ≠ ')' then [c.toUpper] else []

theorem topLevelFrom_cons {m : Mode} {depth depth' : Nat} {c : Char} (h : depthStep m depth c = some depth')
    (cs : List Char) : topLevelFrom m depth (c :: cs) = shownAt m depth c ++ topLevelFrom (m.next c) depth' cs := by
  rw [depthStep] at h
  rw [topLevelFrom, shownAt]
  cases hs : m.shows c with
  | false =>
    simp [hs] at h ⊢
    rw [h]
  | true =>
    by_cases ho : c = '('
    · subst ho
      simp [hs] at h ⊢
      rw [h]
    by_cases hc : c = ')'
    · subst hc
      by_cases hd : depth = 0
      · simp [hs, hd] at h
      · simp [hs, hd] at h ⊢
        rw [h]
    · by_cases hd : depth = 0
      · simp [hs, ho, hc, hd] at h ⊢
        rw [h]
      · simp [hs, ho, hc, hd] at h ⊢
        rw [h]

theorem depthFrom_append (m : Mode) (depth : Nat) (xs ys : List Char) :
    depthFrom m depth (xs ++ ys) = (depthFrom m depth xs).bind fun depth => depthFrom (m.after xs) depth ys := by
  induction xs generalizing m depth with
  | nil => rfl
  | cons c cs ih => simp only [List.cons_append, depthFrom, Mode.after_cons, Option.bind_assoc, ih]

theorem topLevelFrom_append {m : Mode} {depth depth' : Nat} {xs : List Char} (h : depthFrom m depth xs = some depth')
    (ys : List Char) :
    topLevelFrom m depth (xs ++ ys) = topLevelFrom m depth xs ++ topLevelFrom (m.after xs) depth' ys := by
  induction xs generalizing m depth with
  | nil => cases h; rfl
  | cons c cs ih =>
    obtain ⟨d, hd, h⟩ := Option.bind_eq_some_iff.mp h
    rw [List.cons_append, topLevelFrom_cons hd, topLevelFrom_cons hd, ih h, Mode.after_cons, List.append_assoc]

theorem depthStep_deeper {m : Mode} {depth depth' : Nat} {c : Char} (h : depthStep m depth c = some depth') :
    depthStep m (depth + 1) c = some (depth' + 1) := by
  unfold depthStep at h ⊢
  split
  · rename_i ho
    rw [if_pos ho] at h
    cases h
    rfl
  · rename_i ho
    rw [if_neg ho] at h
    split
    · rename_i hc
      rw [if_pos hc] at h
      split at h
      · cases h
      · cases h
        rw [if_neg (by omega)]
        congr 1
        omega
    · rename_i hc
      rw [if_neg hc] at h
      cases h
      rfl

/-- One level further down a text ends one level further down and shows nothing at the top. -/
theorem topLevelFrom_deeper {m : Mode} {depth depth' : Nat} {cs : List Char}
    (h : depthFrom m depth cs = some depth') :
    depthFrom m (depth + 1) cs = some (depth' + 1) ∧ topLevelFrom m (depth + 1) cs = [] := by
  induction cs generalizing m depth with
  | nil => cases h; exact ⟨rfl, rfl⟩
  | cons c cs ih =>
    obtain ⟨d, hd, h⟩ := Option.bind_eq_some_iff.mp h
    have hstep := depthStep_deeper hd
    obtain ⟨hdepth, htop⟩ := ih h
    rw [depthFrom, hstep, topLevelFrom_cons hstep, htop]
    exact ⟨hdepth, by simp [shownAt]⟩

/-! ## Texts of which nothing shows -/

/-- No character of the text shows. -/
def Hidden : Mode → List Char → Prop
  | _, [] => True
  | m, c :: cs => m.shows c = false ∧ Hidden (m.next c) cs

theorem Hidden.append {m : Mode} {xs ys : List Char} (hx : Hidden m xs) (hy : Hidden (m.after xs) ys) :
    Hidden m (xs ++ ys) := by
  induction xs generalizing m with
  | nil => exact hy
  | cons c cs ih => exact ⟨hx.1, ih hx.2 hy⟩

theorem markersFrom_hidden {m : Mode} {cs : List Char} (h : Hidden m cs) (offset : Nat) :
    markersFrom m offset cs = [] := by
  induction cs generalizing m offset with
  | nil => rfl
  | cons c cs ih => simpa [markersFrom, h.1] using ih h.2 (offset + c.utf8Size)

theorem topLevelFrom_hidden {m : Mode} {cs : List Char} (h : Hidden m cs) (depth : Nat) :
    depthFrom m depth cs = some depth ∧ topLevelFrom m depth cs = [] := by
  induction cs generalizing m with
  | nil => exact ⟨rfl, rfl⟩
  | cons c cs ih => simpa [depthFrom, depthStep, topLevelFrom, h.1] using ih h.2

/-! ## Names between double quotes -/

/-- A text with its double quotes doubled. -/
def doubled (cs : List Char) : List Char := cs.flatMap fun c => if c = '\x22' then ['\x22', '\x22'] else [c]

theorem identifier_quoted (style : PlaceholderStyle) (name : String) :
    identifier ⟨style, true⟩ name = '\x22' :: (doubled name.toList ++ ['\x22']) := rfl

theorem doubled_cons_quote (cs : List Char) : doubled ('\x22' :: cs) = '\x22' :: '\x22' :: doubled cs := rfl

theorem doubled_cons_ne {c : Char} (h : c ≠ '\x22') (cs : List Char) : doubled (c :: cs) = c :: doubled cs := by
  simp [doubled, h]

/-- The scanner is in a literal that a double quote closes. -/
def Mode.Named (m : Mode) : Prop := m = .quoted '\x22' ∨ m = .escaped '\x22'

theorem Mode.named_next {m : Mode} {c : Char} (h : m.Named) (hc : c ≠ '\x22') : (m.next c).Named := by
  rcases h with rfl | rfl
  · by_cases hb : c = '\\'
    · exact Or.inr (by simp [Mode.next, hb])
    · exact Or.inl (by simp [Mode.next, hb, hc])
  · exact Or.inl rfl

theorem Mode.not_named_next {m : Mode} {c : Char} (h : ¬ m.Named) (hc : c ≠ '\x22') : ¬ (m.next c).Named := by
  cases m with
  | plain => by_cases hq : isQuote c = true <;> simp [Mode.Named, Mode.next, hq, hc]
  | quoted q =>
    have hq : q ≠ '\x22' := fun e => h (Or.inl (by rw [e]))
    by_cases hb : c = '\\'
    · simp [Mode.Named, Mode.next, hb, hq]
    · by_cases he : c = q
      · subst he
        simp [Mode.Named, Mode.next, hb]
      · simp [Mode.Named, Mode.next, hb, he, hq]
  | escaped q =>
    have hq : q ≠ '\x22' := fun e => h (Or.inr (by rw [e]))
    simp [Mode.Named, Mode.next, hq]

/-- Outside such a literal a pair of double quotes leads to no such literal. -/
theorem Mode.not_named_pair {m : Mode} (h : ¬ m.Named) : ¬ ((m.next '\x22').next '\x22').Named := by
  cases m with
  | plain => simp [Mode.Named, Mode.next, isQuote]
  | quoted q =>
    have hq : ¬ '\x22' = q := fun e => h (Or.inl (by rw [e]))
    simp [Mode.Named, Mode.next, hq, Ne.symm hq]
  | escaped q =>
    have hq : ¬ '\x22' = q := fun e => h (Or.inr (by rw [e]))
    simp [Mode.Named, Mode.next, hq, Ne.symm hq]

/-- Outside such a literal the last quote of a name does not end outside literals. -/
theorem after_doubled_not_named {m : Mode} {cs : List Char} (h : ¬ m.Named) :
    m.after (doubled cs ++ ['\x22']) ≠ .plain := by
  induction cs generalizing m with
  | nil =>
    cases m with
    | plain => simp [doubled, Mode.after, Mode.next, isQuote]
    | quoted q =>
      have hq : ¬ '\x22' = q := fun e => h (Or.inl (by rw [e]))
      simp [doubled, Mode.after, Mode.next, hq]
    | escaped q => simp [doubled, Mode.after, Mode.next]
  | cons c cs ih =>
    by_cases hc : c = '\x22'
    · subst hc
      rw [doubled_cons_quote, List.cons_append, List.cons_append, Mode.after_cons, Mode.after_cons]
      exact ih (Mode.not_named_pair h)
    · rw [doubled_cons_ne hc, List.cons_append, Mode.after_cons]
      exact ih (Mode.not_named_next h hc)

/-- A name whose last quote ends outside literals shows nothing. -/
theorem hidden_doubled {m : Mode} {cs : List Char} (hm : m.Named) (h : m.after (doubled cs ++ ['\x22']) = .plain) :
    Hidden m (doubled cs ++ ['\x22']) := by
  have hides : ∀ {m : Mode} {c : Char}, m.Named → m.shows c = false := by
    rintro m c (rfl | rfl) <;> rfl
  induction cs generalizing m with
  | nil => exact ⟨hides hm, trivial⟩
  | cons c cs ih =>
    by_cases hc : c = '\x22'
    · subst hc
      rw [doubled_cons_quote, List.cons_append, List.cons_append] at h ⊢
      rcases hm with rfl | rfl
      · -- The pair closes the literal and opens it again.
        exact ⟨rfl, rfl, ih (Or.inl rfl) h⟩
      · -- The first quote is escaped, so the second one closes the literal for good.
        refine absurd h (after_doubled_not_named ?_)
        simp [Mode.Named, Mode.next]
    · rw [doubled_cons_ne hc, List.cons_append] at h ⊢
      exact ⟨hides hm, ih (Mode.named_next hm hc) h⟩

/-- Without a backslash the last quote of a name ends outside literals. -/
theorem after_doubled {cs : List Char} (h : '\\' ∉ cs) :
    (Mode.quoted '\x22').after (doubled cs ++ ['\x22']) = .plain := by
  induction cs with
  | nil => rfl
  | cons c cs ih =>
    rw [List.mem_cons, not_or] at h
    by_cases hc : c = '\x22'
    · subst hc
      exact ih h.2
    · have hn : (Mode.quoted '\x22').next c = .quoted '\x22' := by simp [Mode.next, Ne.symm h.1, hc]
      rw [doubled_cons_ne hc, List.cons_append, Mode.after_cons, hn]
      exact ih h.2

/-- A quoted name that ends outside literals shows nothing. -/
theorem hidden_identifier {style : PlaceholderStyle} {name : String}
    (h : Mode.plain.after (identifier ⟨style, true⟩ name) = .plain) :
    Hidden .plain (identifier ⟨style, true⟩ name) :=
  ⟨rfl, hidden_doubled (Or.inl rfl) h⟩

end EntityQuery.Query
