/-
  EntityQuery.Query.Literal — quoted literals in SQL text, and the characters outside them.

  A literal runs from a single quote, a double quote or a back quote to the next such
  quote; inside it a backslash escapes the character after it. A doubled quote closes one
  literal and opens another, so the text between stays quoted. `Mode` is where a reader
  stands; every scan below follows it character by character. An unclosed literal runs to
  the end of the text.
-/
import EntityQuery.Text.Pieces

namespace EntityQuery.Query

inductive Mode where
  | plain
  | quoted (quote : Char)
  /-- After a backslash inside a literal. -/
  | escaped (quote : Char)
  deriving DecidableEq, Repr

def isQuote (c : Char) : Bool := c = '\x27' || c = '\x22' || c = '\x60'

namespace Mode

def next : Mode → Char → Mode
  | .plain, c => if isQuote c then .quoted c else .plain
  | .quoted q, c => if c = '\\' then .escaped q else if c = q then .plain else .quoted q
  | .escaped q, _ => .quoted q

/-- The character stands outside every literal and opens none. -/
def shows : Mode → Char → Bool
  | .plain, c => !isQuote c
  | _, _ => false

/-- Where a reader stands after some text. -/
def after (m : Mode) (cs : List Char) : Mode := cs.foldl next m

end Mode

/-- Byte offsets of the visible question marks of a text that starts at byte `offset`. -/
def markersFrom : Mode → Nat → List Char → List Nat
  | _, _, [] => []
  | m, offset, c :: cs =>
    if m.shows c && c = '?' then offset :: markersFrom (m.next c) (offset + c.utf8Size) cs
    else markersFrom (m.next c) (offset + c.utf8Size) cs

/-- The placeholders of a template: the byte offsets of its visible question marks. -/
def markers (template : List Char) : List Nat := markersFrom .plain 0 template

/-- The visible characters outside parentheses, letters of ASCII as capitals. Parentheses
    are left out themselves, and one that closes nothing is passed over. -/
def topLevelFrom : Mode → Nat → List Char → List Char
  | _, _, [] => []
  | m, depth, c :: cs =>
    if m.shows c then
      if c = '(' then topLevelFrom (m.next c) (depth + 1) cs
      else if c = ')' then topLevelFrom (m.next c) (depth - 1) cs
      else if depth = 0 then c.toUpper :: topLevelFrom (m.next c) depth cs
      else topLevelFrom (m.next c) depth cs
    else topLevelFrom (m.next c) depth cs

def topLevel (template : List Char) : List Char := topLevelFrom .plain 0 template

/-- A word `OR` stands at the top level of the text. -/
def hasTopLevelOr (template : List Char) : Bool := (Text.words (topLevel template)).contains ['O', 'R']

end EntityQuery.Query
