/-
  EntityQuery.Proofs.Schema.Words — the words of a name in Pascal case.

  A name in Pascal case is words without anything between them. A word is capitalised, with a
  capital, a small letter, and then small letters and digits, or it is an initialism, all of it
  capitals. Snake case goes through the name one character at a time, and at each capital it
  decides by the two characters next to it whether a word begins there:
  - It never decides so inside a word (`snakeFrom_tail`, `snakeFrom_capitals`), since no small letter
    comes right after an initialism.
  - It always does at the first capital of a word that follows another one (`startsWord_between`),
    unless both are initialisms: two of these side by side read as one.

  A plural depends on the last two characters, so it is that of the last word alone if this has
  as many (`plural_append`).

  `pascal_words_split_again`: the column of such a name is its words in small letters with an underscore
  between them, and the table has the plural of the last word instead of the last word.
-/
import Mathlib.Data.List.Chain
import EntityQuery.Proofs.Text.LetterCase
import EntityQuery.Schema.Naming

namespace EntityQuery.Schema.Naming

open Text.LetterCase

/-! ## Words -/

/-- A word of ASCII letters and digits. -/
inductive Word where
  | capitalised (capital second : Char) (rest : List Char) (hcapital : capital.isUpper = true)
      (hsecond : second.isLower = true) (hrest : rest.all (fun c => c.isLower || c.isDigit) = true)
  | initialism (capital : Char) (rest : List Char) (hcapital : capital.isUpper = true)
      (hrest : rest.all Char.isUpper = true)

namespace Word

def chars : Word → List Char
  | capitalised capital second rest _ _ _ => capital :: second :: rest
  | initialism capital rest _ _ => capital :: rest

def text (w : Word) : String := String.ofList w.chars

def last : Word → Char
  | capitalised _ second rest _ _ _ => rest.getLastD second
  | initialism capital rest _ _ => rest.getLastD capital

def IsInitialism : Word → Prop
  | capitalised .. => False
  | initialism .. => True

/-- Not both words are initialisms. -/
def Apart (v w : Word) : Prop := ¬(v.IsInitialism ∧ w.IsInitialism)

end Word

/-- A name in Pascal case. -/
def pascal (words : List Word) : String := String.join (words.map Word.text)

/-! ## Characters of words -/

variable {c : Char}

/-- A capital is large, and only that. -/
theorem kinds_of_isUpper (h : c.isUpper = true) :
    isLarge c = true ∧ isSmall c = false ∧ c.isDigit = false ∧ c ≠ '_' ∧ small c = [c.toLower] := by
  have hc := isUpper_iff_toNat.mp h
  have hascii : c.toNat < 128 := by omega
  refine ⟨?_, ?_, ?_, ?_, if_pos hascii⟩
  · rw [isLarge_eq_isUpper hascii, h]
  · rw [isSmall_eq_isLower hascii, isLower_eq_false h]
  · rw [← Bool.not_eq_true, isDigit_iff_toNat]
    omega
  · intro he
    rw [he] at hc
    exact absurd hc (by decide)

/-- What follows the capital of a capitalised word is not large. -/
theorem kinds_of_tail (h : (c.isLower || c.isDigit) = true) :
    isLarge c = false ∧ (isSmall c || c.isDigit) = true ∧ c ≠ '_' ∧ c.toLower = c := by
  have hc := h
  rw [Bool.or_eq_true, isLower_iff_toNat, isDigit_iff_toNat] at hc
  have hascii : c.toNat < 128 := by omega
  have hcapital : ¬c.isUpper = true := by
    rw [isUpper_iff_toNat]
    omega
  refine ⟨?_, ?_, ?_, toLower_of_not_isUpper hcapital⟩
  · rw [isLarge_eq_isUpper hascii, Bool.eq_false_iff.mpr hcapital]
  · rw [isSmall_eq_isLower hascii, h]
  · intro he
    rw [he] at hc
    exact absurd hc (by decide)

/-! ## Where words start -/

theorem startsWord_after_tail (h : (c.isLower || c.isDigit) = true) (after : Option Char) :
    startsWord (some c) after = true := by
  obtain ⟨-, hsmall, hne, -⟩ := kinds_of_tail h
  simp only [startsWord, if_neg hne, if_pos hsmall]

theorem startsWord_after_capital (h : c.isUpper = true) (after : Option Char) :
    startsWord (some c) after = (after.map isSmall).getD false := by
  obtain ⟨hlarge, hsmall, hdigit, hne, -⟩ := kinds_of_isUpper h
  simp [startsWord, hne, hsmall, hdigit, hlarge]

theorem snakeFrom_capital (h : c.isUpper = true) (before : Option Char) (cs : List Char) :
    snakeFrom before (c :: cs) =
      (if startsWord before cs.head? then ['_'] else []) ++ c.toLower :: snakeFrom (some c) cs := by
  obtain ⟨hlarge, -, -, -, hsmall⟩ := kinds_of_isUpper h
  rw [snakeFrom, if_pos hlarge, hsmall, List.append_assoc, List.singleton_append]

theorem snakeFrom_tail {cs : List Char} (h : cs.all (fun c => c.isLower || c.isDigit) = true) (b : Char)
    (rest : List Char) :
    snakeFrom (some b) (cs ++ rest) = cs.map Char.toLower ++ snakeFrom (some (cs.getLastD b)) rest := by
  induction cs generalizing b with
  | nil => rfl
  | cons c cs ih =>
    rw [List.all_cons, Bool.and_eq_true] at h
    obtain ⟨hlarge, -, -, hsame⟩ := kinds_of_tail h.1
    rw [List.cons_append, snakeFrom, hlarge, if_neg Bool.false_ne_true, ih h.2, List.map_cons, hsame,
      List.getLastD_cons]
    rfl

/-- The text does not begin with a small letter. -/
def Unjoined (cs : List Char) : Prop := (cs.head?.map isSmall).getD false = false

theorem unjoined_capital (h : c.isUpper = true) (cs : List Char) : Unjoined (c :: cs) := (kinds_of_isUpper h).2.1

theorem snakeFrom_capitals {cs : List Char} (h : cs.all Char.isUpper = true) {b : Char} (hb : b.isUpper = true)
    {rest : List Char} (hrest : Unjoined rest) :
    snakeFrom (some b) (cs ++ rest) = cs.map Char.toLower ++ snakeFrom (some (cs.getLastD b)) rest := by
  induction cs generalizing b with
  | nil => rfl
  | cons c cs ih =>
    rw [List.all_cons, Bool.and_eq_true] at h
    have hnext : Unjoined (cs ++ rest) := by
      cases cs with
      | nil => exact hrest
      | cons d ds => exact unjoined_capital (List.all_eq_true.mp h.2 d List.mem_cons_self) _
    rw [List.cons_append, snakeFrom_capital h.1, startsWord_after_capital hb, hnext, if_neg Bool.false_ne_true,
      ih h.2 h.1, List.getLastD_cons]
    rfl

/-! ## One word after another -/

namespace Word

theorem exists_capital (w : Word) : ∃ c cs, c.isUpper = true ∧ w.chars = c :: cs := by
  cases w with
  | capitalised capital second rest hcapital hsecond hrest => exact ⟨capital, second :: rest, hcapital, rfl⟩
  | initialism capital rest hcapital hrest => exact ⟨capital, rest, hcapital, rfl⟩

/-- All characters after the capital of a capitalised word. -/
theorem all_tail {second : Char} {rest : List Char} (hsecond : second.isLower = true)
    (hrest : rest.all (fun c => c.isLower || c.isDigit) = true) :
    (second :: rest).all (fun c => c.isLower || c.isDigit) = true := by
  rw [List.all_cons, hsecond, hrest]
  rfl

theorem snakeFrom_append (w : Word) (before : Option Char) {rest : List Char} (h : Unjoined rest) :
    snakeFrom before (w.chars ++ rest) =
      (if startsWord before (w.chars ++ rest).tail.head? then ['_'] else []) ++ w.chars.map Char.toLower ++
        snakeFrom (some w.last) rest := by
  rw [List.append_assoc]
  cases w with
  | capitalised capital second cs hcapital hsecond hrest =>
    have htail := all_tail hsecond hrest
    rw [chars, List.cons_append, snakeFrom_capital hcapital, snakeFrom_tail htail, List.getLastD_cons]
    rfl
  | initialism capital cs hcapital hrest =>
    rw [chars, List.cons_append, snakeFrom_capital hcapital, snakeFrom_capitals hrest hcapital h]
    rfl

/-- A word starts after another word, unless both are initialisms. -/
theorem startsWord_between {v w : Word} (h : v.Apart w) (rest : List Char) :
    startsWord (some v.last) (w.chars ++ rest).tail.head? = true := by
  cases v with
  | capitalised capital second cs hcapital hsecond hrest =>
    have htail := all_tail hsecond hrest
    exact startsWord_after_tail (List.all_eq_true.mp htail _ List.getLastD_mem_cons) _
  | initialism capital cs hcapital hrest =>
    have hcapitals : (capital :: cs).all Char.isUpper = true := by
      rw [List.all_cons, hcapital, hrest]
      rfl
    rw [last, startsWord_after_capital (List.all_eq_true.mp hcapitals _ List.getLastD_mem_cons)]
    cases w with
    | capitalised capital second cs hcapital hsecond hrest =>
      have hlow := isLower_iff_toNat.mp hsecond
      exact (isSmall_eq_isLower (by omega)).trans hsecond
    | initialism capital cs hcapital hrest => exact absurd ⟨trivial, trivial⟩ h

/-- The word in small letters. -/
def lower (w : Word) : List Char := w.chars.map Char.toLower

theorem toLower_text (w : Word) : w.text.toLower = String.ofList w.lower := by
  show String.map Char.toLower w.text = _
  rw [← String.toList_inj, String.toList_map, text, String.toList_ofList, String.toList_ofList]
  rfl

end Word

theorem unjoined_words (words : List Word) : Unjoined (words.flatMap Word.chars) := by
  cases words with
  | nil => rfl
  | cons w words =>
    obtain ⟨c, cs, hc, hw⟩ := w.exists_capital
    rw [List.flatMap_cons, hw]
    exact unjoined_capital hc _

/-- The words after a word are each written in small letters behind an underscore. -/
theorem snakeFrom_words {v : Word} {words : List Word} (h : (v :: words).IsChain Word.Apart) :
    snakeFrom (some v.last) (words.flatMap Word.chars) = words.flatMap fun w => '_' :: w.lower := by
  induction words generalizing v with
  | nil => rfl
  | cons w words ih =>
    obtain ⟨hvw, hwords⟩ := List.isChain_cons_cons.mp h
    rw [List.flatMap_cons, w.snakeFrom_append _ (unjoined_words words), Word.startsWord_between hvw, if_pos rfl,
      ih hwords, List.flatMap_cons]
    rfl

theorem bare_capital (h : c.isUpper = true) (cs : List Char) : bare (c :: cs) = c :: cs := by
  unfold bare
  split
  · rename_i heq
    cases heq
    cases h
  · rfl

theorem snake_words {w : Word} {words : List Word} (h : (w :: words).IsChain Word.Apart) :
    snake ((w :: words).flatMap Word.chars) = w.lower ++ words.flatMap fun w => '_' :: w.lower := by
  have hbare : bare ((w :: words).flatMap Word.chars) = w.chars ++ words.flatMap Word.chars := by
    obtain ⟨c, cs, hc, hw⟩ := w.exists_capital
    rw [List.flatMap_cons, hw]
    exact bare_capital hc _
  rw [snake, hbare, w.snakeFrom_append none (unjoined_words words), snakeFrom_words h]
  rfl

/-! ## Plurals -/

/-- A plural is decided by the last two characters. -/
theorem plural_pair (cs : List Char) (c last : Char) :
    plural (cs ++ [c, last]) = cs ++
      if last = 'y' && !isVowel c then [c, 'i', 'e', 's']
      else if last = 's' || last = 'x' || last = 'z' || (last = 'h' && (c = 'c' || c = 's')) then [c, last, 'e', 's']
      else [c, last, 's'] := by
  have hreverse : (cs ++ [c, last]).reverse = last :: c :: cs.reverse := by simp
  unfold plural
  rw [hreverse]
  show (if last = 'y' && !isVowel c then (c :: cs.reverse).reverse ++ ['i', 'e', 's']
    else if last = 's' || last = 'x' || last = 'z' || (last = 'h' && (some c = some 'c' || some c = some 's')) then
      cs ++ [c, last] ++ ['e', 's']
    else cs ++ [c, last] ++ ['s']) = _
  simp only [Option.some.injEq]
  split
  · simp
  · split
    · simp
    · simp

theorem plural_append (cs : List Char) {word : List Char} (h : 2 ≤ word.length) :
    plural (cs ++ word) = cs ++ plural word := by
  have hdrop : (word.drop (word.length - 2)).length = 2 := by
    rw [List.length_drop]
    omega
  obtain ⟨c, last, hpair⟩ := List.length_eq_two.mp hdrop
  rw [← List.take_append_drop (word.length - 2) word, hpair, ← List.append_assoc, plural_pair, plural_pair,
    List.append_assoc]

theorem pluralize_append (before : String) {word : String} (h : 2 ≤ word.length) :
    pluralize (before ++ word) = before ++ pluralize word := by
  rw [← String.length_toList] at h
  rw [← String.toList_inj, pluralize, String.toList_ofList, String.toList_append, plural_append _ h,
    String.toList_append, pluralize, String.toList_ofList]

/-! ## Names of columns and tables -/

theorem intercalate_cons {α : Type} (sep t : List α) (ts : List (List α)) :
    sep.intercalate (t :: ts) = t ++ ts.flatMap (sep ++ ·) := by
  induction ts generalizing t with
  | nil => simp [List.intercalate]
  | cons u us ih => rw [List.intercalate_cons_cons, ih, List.flatMap_cons, List.append_assoc, List.append_assoc]

theorem toList_pascal (words : List Word) : (pascal words).toList = words.flatMap Word.chars := by
  simp [pascal, String.toList_join, List.flatMap_map, Word.text]

theorem columnName_pascal {words : List Word} (h : words.IsChain Word.Apart) :
    columnName (pascal words) = "_".intercalate (words.map fun w => w.text.toLower) := by
  rw [← String.toList_inj, columnName, String.toList_ofList, toList_pascal, String.toList_intercalate]
  have hlower : (words.map fun w => w.text.toLower).map String.toList = words.map Word.lower := by
    simp [Word.toLower_text]
  rw [hlower]
  cases words with
  | nil => rfl
  | cons w words =>
    rw [snake_words h, List.map_cons, intercalate_cons, List.flatMap_map]
    rfl

/-- What stands before the last text. -/
theorem exists_intercalate_snoc (sep : String) (ts : List String) :
    ∃ before, ∀ last, sep.intercalate (ts ++ [last]) = before ++ last := by
  by_cases hts : ts = []
  · subst hts
    exact ⟨"", fun last => by simp⟩
  · refine ⟨sep.intercalate ts ++ sep, ?_⟩
    intro last
    rw [String.intercalate_append_of_ne_nil hts (List.cons_ne_nil _ _), String.intercalate_singleton]

/-- The column of a name in Pascal case is its words in small letters with underscores between them. If the last
    word has two characters or more, the table has the plural of that word in its place. -/
theorem pascal_words_split_again {words : List Word} (h : words.IsChain Word.Apart) :
    columnName (pascal words) = "_".intercalate (words.map fun w => w.text.toLower) ∧
      ∀ (front : List Word) (last : Word), words = front ++ [last] → 2 ≤ last.text.length →
        tableName (pascal words) =
          "_".intercalate (front.map (fun w => w.text.toLower) ++ [pluralize last.text.toLower]) := by
  have hcolumn := columnName_pascal h
  refine ⟨hcolumn, ?_⟩
  intro front last hwords hlast
  obtain ⟨before, hbefore⟩ := exists_intercalate_snoc "_" (front.map fun w => w.text.toLower)
  have hlength : 2 ≤ last.text.toLower.length := by
    show 2 ≤ (String.map Char.toLower last.text).length
    rw [String.length_map]
    exact hlast
  rw [hwords, List.map_append, List.map_singleton, hbefore] at hcolumn
  rw [tableName, hwords, hcolumn, pluralize_append before hlength, hbefore]

/-- The words of `HTTPServer2XBox`. -/
def boxWords : List Word :=
  [.initialism 'H' ['T', 'T', 'P'] rfl rfl, .capitalised 'S' 'e' ['r', 'v', 'e', 'r', '2'] rfl rfl rfl,
    .initialism 'X' [] rfl rfl, .capitalised 'B' 'o' ['x'] rfl rfl rfl]

theorem pascal_words_split_again_box :
    pascal boxWords = "HTTPServer2XBox" ∧ columnName "HTTPServer2XBox" = "http_server2_x_box" ∧
      tableName "HTTPServer2XBox" = "http_server2_x_boxes" := by
  have hname : pascal boxWords = "HTTPServer2XBox" := by decide
  have hapart : boxWords.IsChain Word.Apart := by simp [boxWords, Word.Apart, Word.IsInitialism]
  obtain ⟨hcolumn, htable⟩ := pascal_words_split_again hapart
  have hbox := htable (boxWords.take 3) (.capitalised 'B' 'o' ['x'] rfl rfl rfl) rfl (by decide)
  rw [hname] at hcolumn hbox
  refine ⟨hname, ?_, ?_⟩
  · simp only [Word.toLower_text] at hcolumn
    rw [hcolumn]
    decide
  · simp only [Word.toLower_text] at hbox
    rw [hbox]
    decide

/-- A single last letter takes its plural from what stands before it. -/
example : tableName "PlanY" = "plan_ies" ∧ pluralize "y" = "ys" := by decide

end EntityQuery.Schema.Naming
