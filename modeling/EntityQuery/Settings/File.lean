/-
  EntityQuery.Settings.File — a settings file: lines that assign a value to a dotted key.

  A value is a text or a bare token, which is a Boolean, an integer or a float. A file is
  read as a whole or not at all: it is refused when a key is not made of words, when a
  token is none of the three or is an integer of more than 64 bits, and when a key is
  assigned twice or lies below another assigned key. A float too large for a double is
  refused if it is positive, and is infinite if it is negative.
-/
import EntityQuery.Settings.DottedKey
import EntityQuery.Settings.Tree

namespace EntityQuery.Settings

open Number Text

inductive Literal where
  | text (s : String)
  | token (s : String)
  deriving DecidableEq, Repr

structure Assignment where
  key : String
  value : Literal
  deriving DecidableEq, Repr

inductive File where
  /-- Text that is not made of assignments. -/
  | malformed
  | lines (assignments : List Assignment)
  deriving DecidableEq, Repr

/-- Digits of a base, single underscores between them being left out. -/
def digitGroups (digit? : Char → Bool) (cs : List Char) : Option (List Char) :=
  let groups := pieces (· = '_') cs
  if groups.all fun g => !g.isEmpty && g.all digit? then some groups.flatten else none

def withSign (cs : List Char) : Bool × List Char :=
  match cs with
  | '-' :: cs => (true, cs)
  | '+' :: cs => (false, cs)
  | cs => (false, cs)

/-- Decimal digits without a zero in front. -/
def decimalDigits (cs : List Char) : Option (List Char) :=
  match digitGroups Char.isDigit cs with
  | some ('0' :: _ :: _) => none
  | other => other

/-- The integer that a token is, of whatever size. -/
def integerToken (cs : List Char) : Option Int :=
  match cs with
  | '0' :: 'x' :: ds => (digitGroups isHexDigit ds).map fun ds => (ofDigits 16 ds : Int)
  | '0' :: 'o' :: ds => (digitGroups (fun c => '0' ≤ c && c ≤ '7') ds).map fun ds => (ofDigits 8 ds : Int)
  | '0' :: 'b' :: ds => (digitGroups (fun c => c = '0' || c = '1') ds).map fun ds => (ofDigits 2 ds : Int)
  | cs =>
    let (negative, ds) := withSign cs
    (decimalDigits ds).map fun ds => if negative then -(ofDigits 10 ds : Int) else ofDigits 10 ds

def signed (negative : Bool) (x : Double) : Double := if negative then x.neg else x

/-- The float that a token is. -/
def realToken (cs : List Char) : Option Double :=
  let (negative, cs) := withSign cs
  if cs = "inf".toList then some (signed negative ⟨0x7ff0000000000000⟩)
  else if cs = "nan".toList then some (signed negative ⟨0x7ff8000000000000⟩)
  else
    let isMark (c : Char) : Bool := c = 'e' || c = 'E'
    let mantissa := cs.takeWhile fun c => !isMark c
    let whole := mantissa.takeWhile (· ≠ '.')
    let places : Option (List Char) := match mantissa.dropWhile (· ≠ '.') with
      | [] => some []
      | _ :: ds => digitGroups Char.isDigit ds
    let exponent : Option Int := match cs.dropWhile fun c => !isMark c with
      | [] => some 0
      | _ :: ds =>
        let (down, ds) := withSign ds
        (digitGroups Char.isDigit ds).map fun ds => if down then -(ofDigits 10 ds : Int) else ofDigits 10 ds
    match decimalDigits whole, places, exponent with
    | some whole, some places, some exponent =>
      let exponent := max (-100000) (min 100000 exponent)
      let x := Double.ofRatio (Ratio.scaled (ofDigits 10 (whole ++ places)) 10 (exponent - places.length))
      if x.isInfinite && !negative then none else some (signed negative x)
    | _, _, _ => none

def tokenValue (token : String) : Option Tree :=
  let cs := trimSpaces token.toList
  if cs = "true".toList then some (.boolean true)
  else if cs = "false".toList then some (.boolean false)
  else match integerToken cs with
    | some n => if -0x8000000000000000 ≤ n && n < 0x8000000000000000 then some (.integer n) else none
    | none => (realToken cs).map .real

def Literal.value : Literal → Option Tree
  | .text s => some (.text s .file)
  | .token s => tokenValue s

def Assignment.read (a : Assignment) : Option (List String × Tree) :=
  match DottedKey.words? a.key, a.value.value with
  | some words, some v => some (words, v)
  | _, _ => none

/-- One key is the other or lies below it. -/
def related (p q : List String) : Bool := p.isPrefixOf q || q.isPrefixOf p

def unrelated : List (List String) → Bool
  | [] => true
  | p :: ps => ps.all (fun q => !related p q) && unrelated ps

/-- The words of the keys with the assigned values; nothing if the file is refused. -/
def File.read : File → Option (List (List String × Tree))
  | .malformed => none
  | .lines assignments => match assignments.mapM Assignment.read with
    | none => none
    | some values => if unrelated (values.map (·.1)) then some values else none

end EntityQuery.Settings
