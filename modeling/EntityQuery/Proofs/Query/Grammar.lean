/-
  EntityQuery.Proofs.Query.Grammar — the grammar of literals, and the scanner against it.

  A text is plain characters, which are no quotes, and literals. A literal is a quote, items and
  the same quote again; an item is a backslash with the character after it, or a single
  character that is neither that quote nor a backslash. The end of the text may leave a last
  literal open, even right after a backslash. A doubled quote is no case of its own: it closes
  one literal and opens the next.

  - A text is read into a decomposition of it (`text_ofText`), and any decomposition is found
    again from its text (`ofText_text`), so every text has exactly one.
  - The scanner sees nothing of a literal, closed (`hidden_opened`) or not (`hidden_unclosed`), and after
    each part it is outside literals (`after_part`). What it finds is so found part by part: the question
    marks among the parts, each behind the bytes of the parts before it (`mem_markersFrom_parts`).

  `markers_are_plain`: every template has exactly one decomposition, and its placeholders, in
  increasing order, are the byte offsets of the question marks that are plain characters of it.
-/
import EntityQuery.Proofs.Query.Numbering
import EntityQuery.Proofs.Query.Scanning

namespace EntityQuery.Query

open Text

namespace Grammar

/-! ## Decompositions -/

/-- What stands in a literal of some quote. -/
inductive Item (quote : Char) where
  /-- A backslash with the character after it. -/
  | escaped (c : Char)
  | single (c : Char) (inner : c ≠ quote ∧ c ≠ '\\')

inductive Part where
  | plain (c : Char) (outer : isQuote c = false)
  | literal (quote : Char) (opens : isQuote quote = true) (items : List (Item quote))

/-- A literal that the end of the text leaves open, right after a backslash or not. -/
structure Unclosed where
  quote : Char
  opens : isQuote quote = true
  items : List (Item quote)
  backslash : Bool

structure Decomposition where
  parts : List Part
  last : Option Unclosed

def Item.text {quote : Char} : Item quote → List Char
  | .escaped c => ['\\', c]
  | .single c _ => [c]

def Part.text : Part → List Char
  | .plain c _ => [c]
  | .literal quote _ items => quote :: (items.flatMap Item.text ++ [quote])

def Unclosed.text (u : Unclosed) : List Char :=
  u.quote :: (u.items.flatMap Item.text ++ if u.backslash then ['\\'] else [])

def Decomposition.text (d : Decomposition) : List Char := d.parts.flatMap Part.text ++ d.last.elim [] Unclosed.text

/-- One part more in front. -/
def Decomposition.cons (p : Part) (d : Decomposition) : Decomposition := ⟨p :: d.parts, d.last⟩

theorem Decomposition.text_cons (p : Part) (d : Decomposition) : (d.cons p).text = p.text ++ d.text := by
  simp [cons, text]

/-! ## Reading a text -/

/-- How far a part has been read. -/
inductive Reading where
  | outside
  | inside (quote : Char) (opens : isQuote quote = true) (items : List (Item quote))
  /-- After a backslash. -/
  | escaping (quote : Char) (opens : isQuote quote = true) (items : List (Item quote))

/-- What has been read of the part. -/
def Reading.text : Reading → List Char
  | .outside => []
  | .inside quote _ items => quote :: items.flatMap Item.text
  | .escaping quote _ items => quote :: (items.flatMap Item.text ++ ['\\'])

def read : Reading → List Char → Decomposition
  | .outside, [] => ⟨[], none⟩
  | .outside, c :: cs =>
    if opens : isQuote c = true then read (.inside c opens []) cs
    else (read .outside cs).cons (.plain c (Bool.eq_false_iff.mpr opens))
  | .inside quote opens items, [] => ⟨[], some ⟨quote, opens, items, false⟩⟩
  | .inside quote opens items, c :: cs =>
    if escapes : c = '\\' then read (.escaping quote opens items) cs
    else if closes : c = quote then (read .outside cs).cons (.literal quote opens items)
    else read (.inside quote opens (items ++ [.single c ⟨closes, escapes⟩])) cs
  | .escaping quote opens items, [] => ⟨[], some ⟨quote, opens, items, true⟩⟩
  | .escaping quote opens items, c :: cs => read (.inside quote opens (items ++ [.escaped c])) cs

/-- Nothing of a text is lost. -/
theorem text_read (r : Reading) (cs : List Char) : (read r cs).text = r.text ++ cs := by
  fun_induction read r cs with
  | case1 => rfl
  | case2 c cs opens ih => simpa [Reading.text] using ih
  | case3 c cs outer ih =>
    rw [Decomposition.text_cons, ih]
    rfl
  | case4 quote opens items => simp [Decomposition.text, Unclosed.text, Reading.text]
  | case5 quote opens items cs ih => simpa [Reading.text] using ih
  | case6 quote opens items cs escapes ih =>
    rw [Decomposition.text_cons, ih]
    simp [Part.text, Reading.text]
  | case7 quote opens items c cs escapes closes ih => simpa [Reading.text, Item.text] using ih
  | case8 quote opens items => simp [Decomposition.text, Unclosed.text, Reading.text]
  | case9 quote opens items c cs ih => simpa [Reading.text, Item.text] using ih

theorem ne_backslash_of_isQuote {c : Char} (h : isQuote c = true) : c ≠ '\\' := by
  intro hc
  subst hc
  cases h

theorem read_items {quote : Char} (opens : isQuote quote = true) (items : List (Item quote)) :
    ∀ (done : List (Item quote)) (rest : List Char), read (.inside quote opens done) (items.flatMap Item.text ++ rest) =
      read (.inside quote opens (done ++ items)) rest := by
  induction items with
  | nil => intro done rest; simp
  | cons item items ih =>
    intro done rest
    rw [List.flatMap_cons, List.append_assoc]
    cases item with
    | escaped c =>
      show read (.inside quote opens done) ('\\' :: c :: (items.flatMap Item.text ++ rest)) = _
      rw [read, dif_pos rfl, read, ih]
      simp
    | single c inner =>
      show read (.inside quote opens done) (c :: (items.flatMap Item.text ++ rest)) = _
      rw [read, dif_neg inner.2, dif_neg inner.1, ih]
      simp

theorem read_part (p : Part) (rest : List Char) : read .outside (p.text ++ rest) = (read .outside rest).cons p := by
  cases p with
  | plain c outer =>
    show read .outside (c :: rest) = _
    rw [read, dif_neg (by simp [outer])]
  | literal quote opens items =>
    show read .outside (quote :: (items.flatMap Item.text ++ [quote] ++ rest)) = _
    rw [read, dif_pos opens, List.append_assoc, read_items, List.singleton_append, read,
      dif_neg (ne_backslash_of_isQuote opens), dif_pos rfl]
    rfl

theorem read_unclosed (u : Unclosed) : read .outside u.text = ⟨[], some u⟩ := by
  obtain ⟨quote, opens, items, backslash⟩ := u
  unfold Unclosed.text
  rw [read, dif_pos opens, read_items]
  cases backslash with
  | false => rfl
  | true => rfl

namespace Decomposition

/-- The decomposition of a text. -/
def ofText (cs : List Char) : Decomposition := read .outside cs

theorem text_ofText (cs : List Char) : (ofText cs).text = cs := text_read .outside cs

theorem ofText_text (d : Decomposition) : ofText d.text = d := by
  obtain ⟨parts, last⟩ := d
  induction parts with
  | nil =>
    cases last with
    | none => rfl
    | some u => exact read_unclosed u
  | cons p parts ih =>
    show ofText ((cons p ⟨parts, last⟩).text) = cons p ⟨parts, last⟩
    rw [text_cons, ofText, read_part]
    exact congrArg (cons p) ih

end Decomposition

/-! ## The scanner -/

theorem scan_items {quote : Char} (items : List (Item quote)) :
    Hidden (.quoted quote) (items.flatMap Item.text) ∧
      (Mode.quoted quote).after (items.flatMap Item.text) = .quoted quote := by
  induction items with
  | nil => exact ⟨trivial, rfl⟩
  | cons item items ih =>
    have hitem : Hidden (.quoted quote) item.text ∧ (Mode.quoted quote).after item.text = .quoted quote := by
      cases item with
      | escaped c => exact ⟨⟨rfl, rfl, trivial⟩, rfl⟩
      | single c inner => exact ⟨⟨rfl, trivial⟩, by simp [Item.text, Mode.after, Mode.next, inner]⟩
    rw [List.flatMap_cons, Mode.after_append, hitem.2]
    exact ⟨hitem.1.append (by rw [hitem.2]; exact ih.1), ih.2⟩

/-- Nothing of a literal shows, how far it may go. -/
theorem hidden_opened {quote : Char} (opens : isQuote quote = true) (items : List (Item quote)) {rest : List Char}
    (h : Hidden (.quoted quote) rest) : Hidden .plain (quote :: (items.flatMap Item.text ++ rest)) := by
  refine ⟨by simp [Mode.shows, opens], ?_⟩
  rw [Mode.next_quote opens]
  refine (scan_items items).1.append ?_
  rw [(scan_items items).2]
  exact h

theorem hidden_unclosed (u : Unclosed) : Hidden .plain u.text := by
  refine hidden_opened u.opens u.items ?_
  cases u.backslash with
  | false => trivial
  | true => exact ⟨rfl, trivial⟩

/-- After a part the scanner is outside literals again. -/
theorem after_part (p : Part) : Mode.plain.after p.text = .plain := by
  cases p with
  | plain c outer => exact Mode.next_plain outer
  | literal quote opens items =>
    rw [Part.text, Mode.after_cons, Mode.next_quote opens, Mode.after_append, (scan_items items).2]
    simp [Mode.after, Mode.next, ne_backslash_of_isQuote opens]

/-- A question mark outside literals. -/
def mark : Part := .plain '?' rfl

theorem mem_markersFrom_part (p : Part) (offset o : Nat) :
    o ∈ markersFrom .plain offset p.text ↔ p = mark ∧ o = offset := by
  cases p with
  | plain c outer =>
    by_cases hc : c = '?'
    · subst hc
      simp [Part.text, markersFrom, Mode.shows, outer, mark]
    · have hne : Part.plain c outer ≠ mark := by
        intro h
        cases h
        exact hc rfl
      simp [Part.text, markersFrom, hc, hne]
  | literal quote opens items =>
    have hclose : Hidden (.quoted quote) [quote] := ⟨rfl, trivial⟩
    rw [Part.text, markersFrom_hidden (hidden_opened opens items hclose)]
    simp [mark]

/-- The markers are the question marks among the parts, each behind the bytes of the parts before it. -/
theorem mem_markersFrom_parts (parts : List Part) (last : Option Unclosed) :
    ∀ offset o, o ∈ markersFrom .plain offset (Decomposition.text ⟨parts, last⟩) ↔
      ∃ before after, parts = before ++ mark :: after ∧ offset + byteSize (before.flatMap Part.text) = o := by
  induction parts with
  | nil =>
    intro offset o
    have hlast : markersFrom .plain offset (Decomposition.text ⟨[], last⟩) = [] := by
      cases last with
      | none => rfl
      | some u => exact markersFrom_hidden (hidden_unclosed u) offset
    simp [hlast]
  | cons p parts ih =>
    intro offset o
    have htext : Decomposition.text ⟨p :: parts, last⟩ = p.text ++ Decomposition.text ⟨parts, last⟩ :=
      Decomposition.text_cons p ⟨parts, last⟩
    rw [htext, markersFrom_append, after_part, List.mem_append, mem_markersFrom_part, ih]
    constructor
    · intro h
      rcases h with ⟨rfl, rfl⟩ | ⟨before, after, rfl, ho⟩
      · exact ⟨[], parts, rfl, rfl⟩
      · refine ⟨p :: before, after, rfl, ?_⟩
        rw [List.flatMap_cons, byteSize_append]
        omega
    · intro ⟨before, after, hparts, ho⟩
      cases before with
      | nil =>
        cases hparts
        exact Or.inl ⟨rfl, ho.symm⟩
      | cons b before =>
        cases hparts
        rw [List.flatMap_cons, byteSize_append] at ho
        exact Or.inr ⟨before, after, rfl, by omega⟩

end Grammar

/-- Every template has one decomposition, and its placeholders, in increasing order, are the byte offsets
    of those question marks that are plain characters of it. -/
theorem markers_are_plain (template : String) :
    ∃ d : Grammar.Decomposition,
      (d.text = template.toList ∧ ∀ e : Grammar.Decomposition, e.text = template.toList → e = d) ∧
      (markers template.toList).Pairwise (· < ·) ∧
      ∀ o, o ∈ markers template.toList ↔ ∃ before after, d.parts = before ++ Grammar.mark :: after ∧
        (String.ofList (before.flatMap Grammar.Part.text)).utf8ByteSize = o := by
  have htext := Grammar.Decomposition.text_ofText template.toList
  refine ⟨.ofText template.toList, ⟨htext, ?_⟩, (renumbered_markers 0 0 template.toList).increasing, ?_⟩
  · intro e he
    rw [← he]
    exact e.ofText_text.symm
  · intro o
    have hmarks := Grammar.mem_markersFrom_parts (Grammar.Decomposition.ofText template.toList).parts
      (Grammar.Decomposition.ofText template.toList).last 0 o
    rw [htext] at hmarks
    simp only [Nat.zero_add] at hmarks
    simp only [utf8ByteSize_ofList]
    exact hmarks

/-- Multi-byte characters, a doubled and an escaped quote, and a literal that is left open. -/
example : markers "é ? 'it''s ? \\' ?' ? `?".toList = [3, 20] := by decide

end EntityQuery.Query
