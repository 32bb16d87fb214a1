/-
  EntityQuery.Text.LetterCase — which characters are capital letters, which are small
  letters, and the small form of a capital.

  ASCII letters are settled by their code points; the rest come from the tables. A
  capital may have a small form of two characters, so `small` gives a list. Some
  capitals have no small form (mathematical bold A): `small` leaves them alone.

  In a text one capital depends on its neighbours: a sigma that ends a word has a small
  form of its own. It ends a word when a letter with a case stands before it and none
  after it, marks and such punctuation as apostrophes being passed over on both sides.
-/
import EntityQuery.Text.LetterCase.Skipped
import EntityQuery.Text.LetterCase.Table

namespace EntityQuery.Text

namespace LetterCase

def Run.holds (r : Run) (n : Nat) : Bool :=
  r.first ≤ n && n ≤ r.last && (n - r.first) % r.step == 0

/-- The character is a capital letter. -/
def isLarge (c : Char) : Bool :=
  if c.toNat < 128 then 'A' ≤ c && c ≤ 'Z' else largeRuns.any (·.holds c.toNat)

/-- The character is a small letter. -/
def isSmall (c : Char) : Bool :=
  if c.toNat < 128 then 'a' ≤ c && c ≤ 'z' else smallRuns.any (·.holds c.toNat)

/-- The character is a letter with a case. -/
def isCased (c : Char) : Bool := isLarge c || isSmall c || titleRuns.any (·.holds c.toNat)

/-- The character does not count when a letter is judged by its neighbours. -/
def isSkipped (c : Char) : Bool :=
  if c.toNat < 128 then c = '\'' || c = '.' || c = ':' || c = '^' || c = '\x60'
  else skippedRanges.any fun r => r.1 ≤ c.toNat && c.toNat ≤ r.2

/-- The small form of a character; itself when it has none. -/
def small (c : Char) : List Char :=
  if c.toNat < 128 then [c.toLower]
  else if c = 'İ' then ['i', '\u0307']
  else match mappedRuns.find? (·.toRun.holds c.toNat) with
    | some r => [Char.ofNat ((c.toNat : Int) + r.shift).toNat]
    | none => [c]

/-- The first character that counts is a letter with a case. -/
def meetsLetter (cs : List Char) : Bool := (cs.dropWhile isSkipped).head?.any isCased

/-- The small form of a text, given the characters before it, last first. -/
def smallAfter (before : List Char) : List Char → List Char
  | [] => []
  | c :: cs =>
    let form :=
      if c = 'Σ' then [if meetsLetter before && !meetsLetter cs then 'ς' else 'σ'] else small c
    form ++ smallAfter (c :: before) cs

end LetterCase

/-- A text in small letters. -/
def lower (s : String) : String := String.ofList (LetterCase.smallAfter [] s.toList)

end EntityQuery.Text
