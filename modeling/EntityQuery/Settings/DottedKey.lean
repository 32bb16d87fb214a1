/-
  EntityQuery.Settings.DottedKey — the words of a dotted key in a settings file.

  Dots separate the words, and spaces and tabs may stand around each. A word is bare, made
  of letters, digits, underscores and hyphens, or quoted: between single quotes it stands
  as it is, between double quotes a backslash begins an escape. A quoted word may be empty
  and may hold dots. Keys of eighty words and more are refused.
-/
import EntityQuery.Settings.Path

namespace EntityQuery.Settings.DottedKey

/-- How far a word has been read; its characters stand last first. -/
inductive Reading where
  | before
  | bare (word : List Char)
  /-- Between single quotes. -/
  | plain (word : List Char)
  /-- Between double quotes. -/
  | quoted (word : List Char)
  /-- After a backslash. -/
  | escape (word : List Char)
  /-- In the hexadecimal code of a character, with so many digits to come. -/
  | code (word : List Char) (digits : Nat) (value : Nat)
  | after (word : List Char)
  deriving DecidableEq, Repr

/-- The words read so far, last first, and the one at hand. -/
structure Reader where
  words : List String
  reading : Reading
  deriving DecidableEq, Repr

/-- The character may stand between quotes. -/
def isQuotable (c : Char) : Bool := c = '\t' || (0x20 ≤ c.toNat && c.toNat ≠ 0x7f)

/-- The character that a letter after a backslash stands for. -/
def escaped? : Char → Option Char
  | 'b' => some '\x08'
  | 'f' => some '\x0c'
  | 'n' => some '\n'
  | 'r' => some '\r'
  | 't' => some '\t'
  | '"' => some '"'
  | '\\' => some '\\'
  | _ => none

/-- One more digit of a code; the last one has to complete the code of a character. -/
def readDigit (word : List Char) (digits value : Nat) (c : Char) : Option Reading :=
  let value := 16 * value + digitValue c
  if !isHexDigit c then none
  else if 1 < digits then some (.code word (digits - 1) value)
  else if value.isValidChar then some (.quoted (Char.ofNat value :: word))
  else none

def Reader.next (r : Reader) (c : Char) : Option Reader :=
  let finish (word : List Char) : Option Reader := some ⟨String.ofList word.reverse :: r.words, .before⟩
  let go (reading : Reading) : Option Reader := some ⟨r.words, reading⟩
  match r.reading with
  | .before =>
    if isSpace c then go .before
    else if c = '\'' then go (.plain [])
    else if c = '"' then go (.quoted [])
    else if isWordChar c then go (.bare [c])
    else none
  | .bare word =>
    if isWordChar c then go (.bare (c :: word))
    else if isSpace c then go (.after word)
    else if c = '.' then finish word
    else none
  | .plain word =>
    if c = '\'' then go (.after word)
    else if isQuotable c then go (.plain (c :: word))
    else none
  | .quoted word =>
    if c = '"' then go (.after word)
    else if c = '\\' then go (.escape word)
    else if isQuotable c then go (.quoted (c :: word))
    else none
  | .escape word =>
    if c = 'u' then go (.code word 4 0)
    else if c = 'U' then go (.code word 8 0)
    else (escaped? c).bind fun x => go (.quoted (x :: word))
  | .code word digits value => (readDigit word digits value c).bind go
  | .after word =>
    if isSpace c then go (.after word)
    else if c = '.' then finish word
    else none

/-- The words at the end of a key. -/
def Reader.words? (r : Reader) : Option (List String) :=
  match r.reading with
  | .bare word => some (String.ofList word.reverse :: r.words).reverse
  | .after word => some (String.ofList word.reverse :: r.words).reverse
  | _ => none

/-- A key has fewer words. -/
def wordLimit : Nat := 80

def words? (key : String) : Option (List String) :=
  match (key.toList.foldlM Reader.next ⟨[], .before⟩).bind Reader.words? with
  | some words => if words.length < wordLimit then some words else none
  | none => none

end EntityQuery.Settings.DottedKey
