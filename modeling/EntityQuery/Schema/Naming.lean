/-
  EntityQuery.Schema.Naming — the names of columns and tables that are not given
  explicitly.

  A column is named after its field in snake case. A capital starts a new word after a
  small letter or a digit; inside a run of capitals only the last one does, and only when
  a small letter follows, so an initialism stays one word (`HTTPServer` is `http_server`,
  `UserID` is `user_id`). A table is named after its entity, in snake case and in the
  plural.
-/
import EntityQuery.Text.LetterCase

namespace EntityQuery.Schema.Naming

open Text.LetterCase

/-- An identifier without the mark that lets it be a reserved word. -/
def bare : List Char → List Char
  | 'r' :: '#' :: cs => cs
  | cs => cs

/-- A capital between its neighbours starts a word. -/
def startsWord (before : Option Char) (after : Option Char) : Bool :=
  match before with
  | none => false
  | some p =>
    if p = '_' then false
    else if isSmall p || p.isDigit then true
    else if isLarge p then (after.map isSmall).getD false
    else false

/-- Snake case of the characters after `before`. -/
def snakeFrom : Option Char → List Char → List Char
  | _, [] => []
  | before, c :: cs =>
    if isLarge c then
      (if startsWord before cs.head? then ['_'] else []) ++ small c ++ snakeFrom (some c) cs
    else c :: snakeFrom (some c) cs

def snake (cs : List Char) : List Char := snakeFrom none (bare cs)

/-- The column of a field without an explicit one. -/
def columnName (ident : String) : String := String.ofList (snake ident.toList)

def isVowel (c : Char) : Bool := c = 'a' || c = 'e' || c = 'i' || c = 'o' || c = 'u'

/-- The plural of a word, decided by its last letters. -/
def plural (word : List Char) : List Char :=
  match word.reverse with
  | [] => []
  | last :: before =>
    if last = 'y' && (before.head?.map fun c => !isVowel c).getD false then before.reverse ++ ['i', 'e', 's']
    else if last = 's' || last = 'x' || last = 'z'
        || (last = 'h' && (before.head? = some 'c' || before.head? = some 's')) then word ++ ['e', 's']
    else word ++ ['s']

def pluralize (word : String) : String := String.ofList (plural word.toList)

/-- The table of an entity without an explicit one. -/
def tableName (entity : String) : String := pluralize (columnName entity)

end EntityQuery.Schema.Naming
