/-
  EntityQuery.Settings.Path — the places of a settings tree, and the names that spell them.

  A path is a list of steps, each to a key of a table or to an item of a list. A name such
  as `limits.rates[0].low` spells one: keys between dots, with numbers in brackets behind
  them. A number below zero counts from the end of the list. A name of any other form is a
  single key.
-/
import EntityQuery.Text.LetterCase
import EntityQuery.Text.Pieces

namespace EntityQuery.Settings

open Text

inductive Step where
  | key (name : String)
  | item (index : Int)
  deriving DecidableEq, Repr

def Step.isItem : Step → Bool
  | .item _ => true
  | .key _ => false

/-- The step with its key in small letters. -/
def Step.small : Step → Step
  | .key name => .key (lower name)
  | .item index => .item index

def isWordChar (c : Char) : Bool := c.isAlphanum || c = '_' || c = '-'

/-- The characters of the keys that a name spells. -/
def isKeyChar (c : Char) : Bool := isWordChar c || c = ' '

def isSpace (c : Char) : Bool := c = ' ' || c = '\t'

def trimSpaces (cs : List Char) : List Char := ((cs.dropWhile isSpace).reverse.dropWhile isSpace).reverse

def isHexDigit (c : Char) : Bool := c.isDigit || ('a' ≤ c && c ≤ 'f') || ('A' ≤ c && c ≤ 'F')

def digitValue (c : Char) : Nat :=
  if c.isDigit then c.toNat - '0'.toNat
  else if 'a' ≤ c && c ≤ 'z' then c.toNat - 'a'.toNat + 10
  else c.toNat - 'A'.toNat + 10

/-- The number that digits write in a base. -/
def ofDigits (base : Nat) (cs : List Char) : Nat := cs.foldl (fun n c => n * base + digitValue c) 0

/-- The number that decimal digits write, if it fits a 64-bit word. -/
def wordOf (cs : List Char) : Option Int :=
  let (negative, ds) := match cs with
    | '-' :: ds => (true, ds)
    | ds => (false, ds)
  let n : Int := if negative then -(ofDigits 10 ds : Int) else ofDigits 10 ds
  if !ds.isEmpty && ds.all Char.isDigit && -0x8000000000000000 ≤ n && n < 0x8000000000000000 then some n else none

/-- A number and the bracket that closes it, spaces being allowed around the number. -/
def itemOf (cs : List Char) : Option Step :=
  match cs.reverse with
  | ']' :: ds => (wordOf (trimSpaces ds.reverse)).map .item
  | _ => none

/-- A key with the numbers behind it. -/
def stepsOf (cs : List Char) : Option (List Step) :=
  match pieces (· = '[') cs with
  | [] => none
  | key :: numbers =>
    if !key.isEmpty && key.all isKeyChar then
      (numbers.mapM itemOf).map fun items => .key (String.ofList key) :: items
    else none

/-- The path that a name spells. -/
def pathOf (name : String) : List Step :=
  match (pieces (· = '.') name.toList).mapM stepsOf with
  | some parts => parts.flatten
  | none => [.key name]

end EntityQuery.Settings
