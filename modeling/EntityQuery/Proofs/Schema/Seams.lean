/-
  EntityQuery.Proofs.Schema.Seams — where snake case cuts an identifier.

  An identifier has letters and digits of ASCII and underscores, in any order. Snake case writes
  it in small letters and adds underscores of its own, one at every seam. A seam has a letter or
  a digit before it and a capital after it; between two capitals there is one only if a small
  letter comes next.
  - A capital starts a word exactly at a seam (`startsWord_iff_seam`).
  - A character in front of a seam is a word of its own (`Cut.separate`), and any other one belongs
    to the word behind it (`Cut.prepend`). For that it does not matter how the text goes on after this
    word, since the next one begins with a capital (`Cut.seam_iff`).
  - So an identifier falls into words that meet at seams and have none inside, and its snake case is
    these words in small letters with an underscore between them (`exists_cut_snake`).
  - Nothing that is written is a capital (`snakeFrom_written`), and a text without capitals is
    left as it is (`snakeFrom_of_no_capital`).

  `column_cut_at_seams`: the column of an identifier, marked as a reserved word or not, has no
  capital, is the words of the identifier in small letters with single underscores between them,
  and is its own column.
-/
import EntityQuery.Proofs.Schema.Words

namespace EntityQuery.Schema.Naming

open Text.LetterCase

/-! ## Identifiers and seams -/

/-- A letter or a digit of ASCII, or an underscore. -/
def isNameChar (c : Char) : Bool := c.isAlphanum || c = '_'

/-- An underscore belongs between the two texts: the first ends in a letter or a digit, and the
    second begins with a capital. After a capital this needs a small letter behind it. -/
def Seam (v w : List Char) : Prop :=
  ∃ b c, v.getLast? = some b ∧ w.head? = some c ∧ b.isAlphanum = true ∧ c.isUpper = true ∧
    (b.isUpper = true → w.tail.head?.any Char.isLower = true)

/-- The words of a text: together they are the text, neighbours meet at a seam, and no word has
    one inside. -/
structure Cut (cs : List Char) (words : List (List Char)) : Prop where
  whole : words.flatten = cs
  apart : words.IsChain Seam
  inner : ∀ w ∈ words, ∀ u v, w = u ++ v → ¬Seam u v

variable {b c : Char} {cs word : List Char} {words : List (List Char)}

theorem not_seam_nil (v : List Char) : ¬Seam [] v := by
  rintro ⟨b, c, hb, -⟩
  cases hb

theorem not_seam_of_nil (v : List Char) : ¬Seam v [] := by
  rintro ⟨b, c, -, hc, -⟩
  cases hc

/-- A seam sees no more of the text before it than the last character. -/
theorem seam_cons_cons (b c : Char) (cs v : List Char) : Seam (b :: c :: cs) v ↔ Seam (c :: cs) v := by
  unfold Seam
  rw [List.getLast?_cons_cons]

theorem seam_singleton_iff : Seam [b] (c :: cs) ↔
    b.isAlphanum = true ∧ c.isUpper = true ∧ (b.isUpper = true → cs.head?.any Char.isLower = true) := by
  simp [Seam]

/-! ## Characters of identifiers -/

theorem ascii_of_isNameChar (h : isNameChar c = true) : c.toNat < 128 := by
  simp only [isNameChar, isAlphanum_eq, Bool.or_eq_true, isUpper_iff_toNat, isLower_iff_toNat,
    isDigit_iff_toNat, decide_eq_true_eq] at h
  rcases h with h | rfl
  · omega
  · decide

/-- A character of an identifier is still one in small letters, and no capital. -/
theorem isNameChar_toLower (h : isNameChar c = true) : isNameChar c.toLower = true ∧ isLarge c.toLower = false := by
  by_cases hc : c.isUpper = true
  · have hlower := isLower_toLower hc
    have htail : (c.toLower.isLower || c.toLower.isDigit) = true := by rw [hlower, Bool.true_or]
    refine ⟨?_, (kinds_of_tail htail).1⟩
    rw [isNameChar, isAlphanum_eq, hlower, Bool.or_true]
    rfl
  · rw [toLower_of_not_isUpper hc, isLarge_eq_isUpper (ascii_of_isNameChar h)]
    exact ⟨h, Bool.eq_false_iff.mpr hc⟩

theorem startsWord_nameChar (hb : isNameChar b = true) (after : Option Char) :
    startsWord (some b) after = (b.isAlphanum && (!b.isUpper || (after.map isSmall).getD false)) := by
  by_cases hcapital : b.isUpper = true
  · rw [startsWord_after_capital hcapital, isAlphanum_eq, hcapital]
    rfl
  by_cases hother : (b.isLower || b.isDigit) = true
  · rw [startsWord_after_tail hother, isAlphanum_eq, Bool.or_assoc, hother, Bool.or_true,
      Bool.eq_false_iff.mpr hcapital]
    rfl
  · have hnone : b.isAlphanum = false := by
      rw [isAlphanum_eq, Bool.or_assoc, Bool.eq_false_iff.mpr hcapital, Bool.eq_false_iff.mpr hother]
      rfl
    have hline : b = '_' := by
      rw [isNameChar, hnone, Bool.false_or, decide_eq_true_iff] at hb
      exact hb
    rw [hnone, hline]
    rfl

/-! ## One character of an identifier -/

theorem any_isLower_of_nameChars (h : ∀ d ∈ cs, isNameChar d = true) :
    (cs.head?.map isSmall).getD false = cs.head?.any Char.isLower := by
  cases cs with
  | nil => rfl
  | cons d cs => exact isSmall_eq_isLower (ascii_of_isNameChar (h d List.mem_cons_self))

/-- A character is written as a small letter, and behind an underscore if it starts a word. -/
theorem snakeFrom_nameChar (hc : isNameChar c = true) (before : Option Char) (cs : List Char) :
    snakeFrom before (c :: cs) =
      (if c.isUpper && startsWord before cs.head? then ['_'] else []) ++ c.toLower :: snakeFrom (some c) cs := by
  by_cases h : c.isUpper = true
  · rw [snakeFrom_capital h, h, Bool.true_and]
  · have hlarge : isLarge c = false := by
      rw [isLarge_eq_isUpper (ascii_of_isNameChar hc), Bool.eq_false_iff.mpr h]
    rw [snakeFrom, hlarge, if_neg Bool.false_ne_true, Bool.eq_false_iff.mpr h, toLower_of_not_isUpper h]
    rfl

/-- A capital starts a word exactly at a seam. -/
theorem startsWord_iff_seam (hb : isNameChar b = true) (hcs : ∀ d ∈ cs, isNameChar d = true) :
    (c.isUpper && startsWord (some b) cs.head?) = true ↔ Seam [b] (c :: cs) := by
  rw [startsWord_nameChar hb, any_isLower_of_nameChars hcs, seam_singleton_iff]
  cases b.isUpper with
  | false => simp [and_comm]
  | true => simp [and_left_comm]

/-! ## Words -/

namespace Cut

theorem nil : Cut [] [] := ⟨rfl, .nil, by simp⟩

theorem singleton (c : Char) : Cut [c] [[c]] := by
  refine ⟨rfl, .singleton _, ?_⟩
  intro w hw u v huv
  rw [List.mem_singleton.mp hw] at huv
  rcases List.cons_eq_append_iff.mp huv with ⟨rfl, -⟩ | ⟨u, rfl, hnil⟩
  · exact not_seam_nil v
  · rw [(List.nil_eq_append_iff.mp hnil).2]
    exact not_seam_of_nil _

/-- A character in front of a seam is a word of its own. -/
theorem separate {w : List Char} (h : Cut cs (w :: words)) (hseam : Seam [b] w) : Cut (b :: cs) ([b] :: w :: words) := by
  refine ⟨?_, .cons_cons hseam h.apart, ?_⟩
  · rw [List.flatten_cons, h.whole]
    rfl
  · intro x hx
    rcases List.mem_cons.mp hx with rfl | hx
    · exact (singleton b).inner [b] List.mem_cons_self
    · exact h.inner x hx

/-- Any other character belongs to the first word. -/
theorem prepend (h : Cut cs ((c :: word) :: words)) (hseam : ¬Seam [b] (c :: word)) :
    Cut (b :: cs) ((b :: c :: word) :: words) := by
  refine ⟨?_, ?_, ?_⟩
  · rw [← h.whole]
    rfl
  · cases words with
    | nil => exact .singleton _
    | cons w words =>
      obtain ⟨hw, hwords⟩ := List.isChain_cons_cons.mp h.apart
      exact .cons_cons ((seam_cons_cons b c word w).mpr hw) hwords
  · intro x hx u v huv
    rcases List.mem_cons.mp hx with rfl | hx
    · -- The word is cut before its first character, right after it, or further on.
      rcases List.cons_eq_append_iff.mp huv with ⟨rfl, -⟩ | ⟨u, rfl, hrest⟩
      · exact not_seam_nil v
      rcases List.cons_eq_append_iff.mp hrest with ⟨rfl, rfl⟩ | ⟨u, rfl, hrest⟩
      · exact hseam
      · rw [seam_cons_cons]
        exact h.inner _ List.mem_cons_self (c :: u) v (by rw [hrest, List.cons_append])
    · exact h.inner x (List.mem_cons_of_mem _ hx) u v huv

/-- A small letter follows a character in its word if it does so in the text: the next word
    begins with a capital. -/
theorem any_isLower_head (h : Cut (c :: cs) ((c :: word) :: words)) :
    word.head?.any Char.isLower = cs.head?.any Char.isLower := by
  have hcs : word ++ words.flatten = cs := (List.cons.inj h.whole).2
  rw [← hcs]
  cases word with
  | cons d word => rfl
  | nil =>
    cases words with
    | nil => rfl
    | cons w words =>
      obtain ⟨-, d, -, hd, -, hupper, -⟩ := (List.isChain_cons_cons.mp h.apart).1
      have hhead : (List.flatten (w :: words)).head? = some d := by
        rw [List.flatten_cons, List.head?_append, hd]
        rfl
      rw [List.nil_append, hhead, Option.any_some, isLower_eq_false hupper]
      rfl

/-- A seam in front of the first word is one in front of the whole text. -/
theorem seam_iff (h : Cut (c :: cs) ((c :: word) :: words)) : Seam [b] (c :: word) ↔ Seam [b] (c :: cs) := by
  rw [seam_singleton_iff, seam_singleton_iff, h.any_isLower_head]

end Cut

/-- What follows a character is cut into the rest of its word and further words, and written with
    an underscore before each of these. -/
theorem exists_cut (hb : isNameChar b = true) (hcs : ∀ d ∈ cs, isNameChar d = true) :
    ∃ word words, Cut (b :: cs) ((b :: word) :: words) ∧
      snakeFrom (some b) cs = word.map Char.toLower ++ words.flatMap fun w => '_' :: w.map Char.toLower := by
  induction cs generalizing b with
  | nil => exact ⟨[], [], .singleton b, rfl⟩
  | cons c cs ih =>
    rw [List.forall_mem_cons] at hcs
    obtain ⟨word, words, hcut, hwritten⟩ := ih hcs.1 hcs.2
    have hstarts := startsWord_iff_seam (c := c) hb hcs.2
    rw [snakeFrom_nameChar hcs.1, hwritten]
    -- The word of `c` is a further one at a seam, and otherwise goes on with that of `b`.
    by_cases hseam : Seam [b] (c :: cs)
    · refine ⟨[], (c :: word) :: words, hcut.separate (hcut.seam_iff.mpr hseam), ?_⟩
      rw [if_pos (hstarts.mpr hseam)]
      rfl
    · refine ⟨c :: word, words, hcut.prepend (fun h => hseam (hcut.seam_iff.mp h)), ?_⟩
      rw [if_neg (fun h => hseam (hstarts.mp h))]
      rfl

theorem exists_cut_snake (hcs : ∀ d ∈ cs, isNameChar d = true) :
    ∃ words, Cut cs words ∧ snakeFrom none cs = ['_'].intercalate (words.map (·.map Char.toLower)) := by
  cases cs with
  | nil => exact ⟨[], .nil, rfl⟩
  | cons c cs =>
    rw [List.forall_mem_cons] at hcs
    obtain ⟨word, words, hcut, hwritten⟩ := exists_cut hcs.1 hcs.2
    refine ⟨_, hcut, ?_⟩
    rw [snakeFrom_nameChar hcs.1, hwritten, List.map_cons, intercalate_cons, List.flatMap_map]
    simp [startsWord]

/-! ## A second time -/

/-- What is written of an identifier is one again, without capitals. -/
theorem snakeFrom_written (hcs : ∀ d ∈ cs, isNameChar d = true) (before : Option Char) :
    ∀ d ∈ snakeFrom before cs, isNameChar d = true ∧ isLarge d = false := by
  induction cs generalizing before with
  | nil => simp [snakeFrom]
  | cons c cs ih =>
    rw [List.forall_mem_cons] at hcs
    intro d hd
    rw [snakeFrom_nameChar hcs.1, List.mem_append, List.mem_cons] at hd
    rcases hd with hd | rfl | hd
    · split at hd
      · rw [List.mem_singleton.mp hd]
        decide
      · cases hd
    · exact isNameChar_toLower hcs.1
    · exact ih hcs.2 _ d hd

theorem snakeFrom_of_no_capital (h : ∀ d ∈ cs, isLarge d = false) (before : Option Char) :
    snakeFrom before cs = cs := by
  induction cs generalizing before with
  | nil => rfl
  | cons c cs ih =>
    rw [List.forall_mem_cons] at h
    rw [snakeFrom, h.1, if_neg Bool.false_ne_true, ih h.2]

theorem bare_of_nameChars (h : ∀ d ∈ cs, isNameChar d = true) : bare cs = cs := by
  unfold bare
  split
  · rename_i rest
    exact absurd (h '#' (by simp)) (by decide)
  · rfl

/-! ## Columns -/

/-- The column of an identifier, with or without the mark of a reserved word, has no capital. It is
    the words of the identifier in small letters with single underscores between them, each of
    which stands at a seam, between a letter or a digit and what was a capital. And it is its own
    column. -/
theorem column_cut_at_seams {name ident : String} (hname : ∀ c ∈ name.toList, isNameChar c = true)
    (hident : ident = name ∨ ident = "r#" ++ name) :
    (∀ c ∈ (columnName ident).toList, isLarge c = false) ∧
      (∃ words, Cut name.toList words ∧
        (columnName ident).toList = ['_'].intercalate (words.map (·.map Char.toLower))) ∧
      columnName (columnName ident) = columnName ident := by
  have hbare : bare ident.toList = name.toList := by
    rcases hident with rfl | rfl
    · exact bare_of_nameChars hname
    · rw [String.toList_append]
      rfl
  have hcolumn : (columnName ident).toList = snakeFrom none name.toList := by
    rw [columnName, String.toList_ofList, snake, hbare]
  have hwritten := snakeFrom_written hname none
  refine ⟨?_, ?_, ?_⟩
  · rw [hcolumn]
    exact fun c hc => (hwritten c hc).2
  · rw [hcolumn]
    exact exists_cut_snake hname
  · rw [← String.toList_inj]
    show (String.ofList (snakeFrom none (bare (columnName ident).toList))).toList = _
    rw [String.toList_ofList, hcolumn, bare_of_nameChars fun c hc => (hwritten c hc).1]
    exact snakeFrom_of_no_capital (fun c hc => (hwritten c hc).2) none

theorem column_cut_at_seams_server :
    (∀ c ∈ "__HTTPServerID2_Xy9Z".toList, isNameChar c = true) ∧
      columnName "r#__HTTPServerID2_Xy9Z" = "__http_server_id2_xy9_z" ∧
      (∃ words, Cut "__HTTPServerID2_Xy9Z".toList words ∧
        "__http_server_id2_xy9_z".toList = ['_'].intercalate (words.map (·.map Char.toLower))) ∧
      columnName "__http_server_id2_xy9_z" = "__http_server_id2_xy9_z" := by
  have hname : ∀ c ∈ "__HTTPServerID2_Xy9Z".toList, isNameChar c = true := List.all_eq_true.mp (by decide)
  have hident : "r#__HTTPServerID2_Xy9Z" = "__HTTPServerID2_Xy9Z" ∨
      "r#__HTTPServerID2_Xy9Z" = "r#" ++ "__HTTPServerID2_Xy9Z" := Or.inr rfl
  have hcolumn : columnName "r#__HTTPServerID2_Xy9Z" = "__http_server_id2_xy9_z" := by decide
  obtain ⟨-, hwords, hagain⟩ := column_cut_at_seams hname hident
  rw [hcolumn] at hwords hagain
  exact ⟨hname, hcolumn, hwords, hagain⟩

end EntityQuery.Schema.Naming
