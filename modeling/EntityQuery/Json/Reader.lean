/-
  EntityQuery.Json.Reader — reads a JSON text, or says what is wrong with it and where.

  A `Cursor` is the text still to be read with the number of bytes before it. A fault is
  reported either at the bytes already taken or at the next byte, and the message gives
  that offset as a line and a column in bytes. Nesting deeper than 127 arrays and objects
  is refused.

  Numbers: an integer that fits a 64-bit word is exact (`-0` is a double). Any other
  number is read as a 64-bit significand, digits that no longer fit being dropped, and a
  power of ten; the double is the significand rounded and then multiplied or divided by
  the power, each step rounded to nearest. A number that would be infinite is refused.
-/
import EntityQuery.Json.Basic

namespace EntityQuery.Json

open Number

inductive Fault where
  | endInList
  | endInObject
  | endInString
  | endInValue
  | expectedColon
  | expectedListEnd
  | expectedObjectEnd
  | expectedIdent
  | expectedValue
  | invalidEscape
  | invalidNumber
  | numberOutOfRange
  | control
  | keyNotString
  | loneSurrogate
  | trailingComma
  | trailingCharacters
  | endOfHexEscape
  | tooDeep
  deriving DecidableEq, Repr

def Fault.message : Fault → String
  | .endInList => "EOF while parsing a list"
  | .endInObject => "EOF while parsing an object"
  | .endInString => "EOF while parsing a string"
  | .endInValue => "EOF while parsing a value"
  | .expectedColon => "expected \x60:\x60"
  | .expectedListEnd => "expected \x60,\x60 or \x60]\x60"
  | .expectedObjectEnd => "expected \x60,\x60 or \x60\x7d\x60"
  | .expectedIdent => "expected ident"
  | .expectedValue => "expected value"
  | .invalidEscape => "invalid escape"
  | .invalidNumber => "invalid number"
  | .numberOutOfRange => "number out of range"
  | .control => "control character (\\u0000-\\u001F) found while parsing a string"
  | .keyNotString => "key must be a string"
  | .loneSurrogate => "lone leading surrogate in hex escape"
  | .trailingComma => "trailing comma"
  | .trailingCharacters => "trailing characters"
  | .endOfHexEscape => "unexpected end of hex escape"
  | .tooDeep => "recursion limit exceeded"

/-- A fault with its place: lines from one, columns in bytes. -/
structure ReadError where
  fault : Fault
  line : Nat
  column : Nat
  deriving DecidableEq, Repr

def ReadError.message (e : ReadError) : String :=
  e.fault.message ++ " at line " ++ toString e.line ++ " column " ++ toString e.column

structure Cursor where
  rest : List Char
  taken : Nat

namespace Cursor

/-- A fault and the offset it is reported at. -/
abbrev Result (α : Type) := Except (Fault × Nat) α

/-- Reported after the bytes taken. -/
def fail {α : Type} (c : Cursor) (f : Fault) : Result α := .error (f, c.taken)

/-- Reported at the next byte. -/
def failNext {α : Type} (c : Cursor) (f : Fault) : Result α :=
  .error (f, if c.rest.isEmpty then c.taken else c.taken + 1)

def skip (c : Cursor) : Cursor :=
  match c.rest with
  | [] => c
  | x :: xs => ⟨xs, c.taken + x.utf8Size⟩

def isSpace (x : Char) : Bool := x = ' ' || x = '\n' || x = '\t' || x = '\r'

/-- Past blanks; there all blanks are one byte long. -/
def skipSpace (c : Cursor) : Cursor :=
  ⟨c.rest.dropWhile isSpace, c.taken + (c.rest.takeWhile isSpace).length⟩

def digit (x : Char) : Nat := x.toNat - '0'.toNat

def skipDigits (c : Cursor) : Cursor :=
  ⟨c.rest.dropWhile Char.isDigit, c.taken + (c.rest.takeWhile Char.isDigit).length⟩

def bytesLeft (c : Cursor) : Nat := c.rest.foldr (fun x n => x.utf8Size + n) 0

/-- The rest of a word whose first letter is taken. -/
def word (value : Json) : List Char → Cursor → Result (Json × Cursor)
  | [], c => .ok (value, c)
  | x :: xs, c => match c.rest with
    | [] => c.fail .endInValue
    | y :: _ => if x = y then word value xs c.skip else c.failNext .expectedIdent

/-! ## Numbers -/

/-- The powers of ten from 1 to ten to the 308th, as doubles. -/
def power (e : Nat) : Double := Double.ofRatio ⟨Nat.pow 10 e, 1⟩

/-- Divides by ten to the 308th until the exponent is small enough to be applied at once. -/
def fromParts (c : Cursor) (positive : Bool) : Nat → Double → Int → Result (Json × Cursor)
  | 0, x, _ => .ok (.real (if positive then x else x.neg), c)
  | fuel + 1, x, e =>
    if e.natAbs ≤ 308 then
      if 0 ≤ e then
        let y := Double.ofRatio (x.magnitude.mul (power e.natAbs).magnitude)
        if y.isInfinite then c.fail .numberOutOfRange
        else .ok (.real (if positive then y else y.neg), c)
      else
        let y := Double.ofRatio (x.magnitude.div (power e.natAbs).magnitude)
        .ok (.real (if positive then y else y.neg), c)
    else if x.magnitude.num = 0 then .ok (.real (if positive then x else x.neg), c)
    else if 0 ≤ e then c.fail .numberOutOfRange
    else fromParts c positive fuel (Double.ofRatio (x.magnitude.div (power 308).magnitude)) (e + 308)

/-- After three divisions no double is above zero. -/
def assemble (c : Cursor) (positive : Bool) (significand : Nat) (e : Int) : Result (Json × Cursor) :=
  fromParts c positive 8 (Double.ofRatio ⟨significand, 1⟩) e

def wordLimit : Nat := 0x10000000000000000

/-- The exponent saturates at the ends of a signed 32-bit word. -/
def clampExponent (e : Int) : Int := max (-2147483648) (min 2147483647 e)

/-- The digits of an exponent, while they fit a signed 32-bit word. -/
def exponentDigits : List Char → Nat → Nat → Nat × Nat × Bool
  | [], e, n => (e, n, true)
  | x :: xs, e, n =>
    if x.isDigit then
      if 2147483647 < e * 10 + digit x then (e, n + 1, false) else exponentDigits xs (e * 10 + digit x) (n + 1)
    else (e, n, true)

def drop (c : Cursor) (n : Nat) : Cursor := ⟨c.rest.drop n, c.taken + n⟩

/-- An exponent, its mark being the next character. -/
def exponent (c : Cursor) (positive : Bool) (significand : Nat) (start : Int) : Result (Json × Cursor) :=
  let c := c.skip
  let (c, up) := match c.rest with
    | '+' :: _ => (c.skip, true)
    | '-' :: _ => (c.skip, false)
    | _ => (c, true)
  match c.rest with
  | [] => c.fail .endInValue
  | x :: _ =>
    if x.isDigit then
      let (e, n, fits) := exponentDigits c.rest 0 0
      let c := c.drop n
      if fits then
        assemble c positive significand (clampExponent (if up then start + e else start - e))
      else if significand ≠ 0 && up then c.fail .numberOutOfRange
      else .ok (.real (if positive then Double.zero else Double.zero.neg), c.skipDigits)
    else c.failNext .invalidNumber

def isExponentMark : List Char → Bool
  | 'e' :: _ | 'E' :: _ => true
  | _ => false

/-- Digits that keep the significand in a word: the significand, how many there were, and
    whether a digit that no longer fits follows. -/
def significandDigits : List Char → Nat → Nat → Nat × Nat × Bool
  | [], s, n => (s, n, false)
  | x :: xs, s, n =>
    if x.isDigit then
      if wordLimit ≤ s * 10 + digit x then (s, n, true) else significandDigits xs (s * 10 + digit x) (n + 1)
    else (s, n, false)

/-- The places after a point, the point being the next character. -/
def fraction (c : Cursor) (positive : Bool) (significand : Nat) (start : Int) : Result (Json × Cursor) :=
  let c := c.skip
  let (s, n, more) := significandDigits c.rest significand 0
  let c := c.drop n
  if more then
    let c := c.skipDigits
    if isExponentMark c.rest then c.exponent positive s (start - n) else assemble c positive s (start - n)
  else if n = 0 then
    if c.rest.isEmpty then c.failNext .endInValue else c.failNext .invalidNumber
  else if isExponentMark c.rest then c.exponent positive s (start - n)
  else assemble c positive s (start - n)

/-- What follows the integer digits. -/
def afterInteger (c : Cursor) (positive : Bool) (s : Nat) (dropped : Nat) (fits : Bool) : Result (Json × Cursor) :=
  match c.rest with
  | '.' :: _ => c.fraction positive s dropped
  | 'e' :: _ | 'E' :: _ => c.exponent positive s dropped
  | _ =>
    if !fits then assemble c positive s dropped
    else if positive then .ok (.integer s, c)
    else if s = 0 || 0x8000000000000000 < s then .ok (.real (Double.ofRatio ⟨s, 1⟩).neg, c)
    else .ok (.integer (-s), c)

/-- A number whose sign is taken. -/
def number (c : Cursor) (positive : Bool) : Result (Json × Cursor) :=
  match c.rest with
  | [] => c.fail .endInValue
  | '0' :: rest =>
    let c := c.skip
    if (rest.head?.map Char.isDigit).getD false then c.failNext .invalidNumber
    else c.afterInteger positive 0 0 true
  | x :: _ =>
    if x.isDigit then
      let (s, n, more) := significandDigits c.rest 0 0
      let c := c.drop n
      if more then
        let dropped := (c.rest.takeWhile Char.isDigit).length
        c.skipDigits.afterInteger positive s dropped false
      else c.afterInteger positive s 0 true
    else c.failNext .invalidNumber

/-! ## Strings -/

def hexValue? (x : Char) : Option Nat :=
  if x.isDigit then some (digit x)
  else if 'a' ≤ x && x ≤ 'f' then some (x.toNat - 'a'.toNat + 10)
  else if 'A' ≤ x && x ≤ 'F' then some (x.toNat - 'A'.toNat + 10)
  else none

/-- Four hexadecimal digits. -/
def hexUnit (c : Cursor) : Result (Nat × Cursor) :=
  if c.bytesLeft < 4 then .error (.endInString, c.taken + c.bytesLeft)
  else match (c.rest.take 4).mapM hexValue? with
    | some [a, b, d, e] => .ok (((a * 16 + b) * 16 + d) * 16 + e, c.drop 4)
    | _ => .error (.invalidEscape, c.taken + 4)

/-- The next character must be `x`. -/
def pairMark (c : Cursor) (x : Char) : Result Cursor :=
  match c.rest with
  | [] => c.fail .endInString
  | y :: _ => if x = y then .ok c.skip else .error (.endOfHexEscape, c.taken + 1)

/-- A code unit or a surrogate pair, the letter before the digits being taken. -/
def unicodeEscape (c : Cursor) : Result (Char × Cursor) := do
  let (n, c) ← c.hexUnit
  if 0xdc00 ≤ n && n ≤ 0xdfff then c.fail .loneSurrogate
  else if n < 0xd800 || 0xdbff < n then return (Char.ofNat n, c)
  else
    let c ← c.pairMark '\\'
    let c ← c.pairMark 'u'
    let (m, c) ← c.hexUnit
    if m < 0xdc00 || 0xdfff < m then c.fail .loneSurrogate
    else return (Char.ofNat ((n - 0xd800) * 1024 + (m - 0xdc00) + 0x10000), c)

def simpleEscape? : Char → Option Char
  | '\x22' => some '\x22'
  | '\\' => some '\\'
  | '/' => some '/'
  | 'b' => some '\x08'
  | 'f' => some '\x0c'
  | 'n' => some '\n'
  | 'r' => some '\r'
  | 't' => some '\t'
  | _ => none

/-- A string whose opening quote is taken. `acc` holds the characters read, last first. -/
def string (c : Cursor) : Nat → List Char → Result (String × Cursor)
  | 0, _ => c.fail .endInString
  | fuel + 1, acc => match c.rest with
    | [] => c.fail .endInString
    | x :: _ =>
      if x = '\x22' then .ok (String.ofList acc.reverse, c.skip)
      else if x = '\\' then
        let c := c.skip
        match c.rest with
        | [] => c.fail .endInString
        | y :: _ =>
          if y = 'u' then do
            let (d, c) ← c.skip.unicodeEscape
            string c fuel (d :: acc)
          else match simpleEscape? y with
            | some d => string c.skip fuel (d :: acc)
            | none => .error (.invalidEscape, c.taken + 1)
      else if x.toNat < 32 then c.skip.fail .control
      else string c.skip fuel (x :: acc)

def readString (c : Cursor) : Result (String × Cursor) := c.string (c.rest.length + 1) []

/-! ## Values -/

mutual
/-- One value. `depth` bounds the nesting that is still allowed. -/
def value : Nat → Nat → Cursor → Result (Json × Cursor)
  | 0, _, c => c.fail .tooDeep
  | fuel + 1, depth, c =>
    let c := c.skipSpace
    match c.rest with
    | [] => c.failNext .endInValue
    | x :: _ =>
      if x = 'n' then word .null ['u', 'l', 'l'] c.skip
      else if x = 't' then word (.boolean true) ['r', 'u', 'e'] c.skip
      else if x = 'f' then word (.boolean false) ['a', 'l', 's', 'e'] c.skip
      else if x = '-' then c.skip.number false
      else if x.isDigit then c.number true
      else if x = '\x22' then do
        let (s, c) ← c.skip.readString
        return (.string s, c)
      else if x = '[' then
        if depth ≤ 1 then c.failNext .tooDeep else items fuel (depth - 1) c.skip true []
      else if x = '\x7b' then
        if depth ≤ 1 then c.failNext .tooDeep else members fuel (depth - 1) c.skip true []
      else c.failNext .expectedValue
/-- The items of an array; `acc` holds those read, last first. -/
def items : Nat → Nat → Cursor → Bool → List Json → Result (Json × Cursor)
  | 0, _, c, _, _ => c.fail .tooDeep
  | fuel + 1, depth, c, first, acc =>
    let c := c.skipSpace
    match c.rest with
    | [] => c.failNext .endInList
    | x :: _ =>
      if x = ']' then .ok (.array acc.reverse, c.skip)
      else if first then do
        let (v, c) ← value fuel depth c
        items fuel depth c false (v :: acc)
      else if x = ',' then
        let c := c.skip.skipSpace
        match c.rest with
        | [] => c.failNext .endInValue
        | y :: _ =>
          if y = ']' then c.failNext .trailingComma
          else do
            let (v, c) ← value fuel depth c
            items fuel depth c false (v :: acc)
      else c.failNext .expectedListEnd
/-- The members of an object. -/
def members : Nat → Nat → Cursor → Bool → List (String × Json) → Result (Json × Cursor)
  | 0, _, c, _, _ => c.fail .tooDeep
  | fuel + 1, depth, c, first, acc =>
    let c := c.skipSpace
    match c.rest with
    | [] => c.failNext .endInObject
    | x :: _ =>
      if x = '\x7d' then .ok (.object acc, c.skip)
      else if first then
        if x = '\x22' then member fuel depth c acc else c.failNext .keyNotString
      else if x = ',' then
        let c := c.skip.skipSpace
        match c.rest with
        | [] => c.failNext .endInValue
        | y :: _ =>
          if y = '\x22' then member fuel depth c acc
          else if y = '\x7d' then c.failNext .trailingComma
          else c.failNext .keyNotString
      else c.failNext .expectedObjectEnd
/-- A key, a colon and a value, and then the further members. -/
def member : Nat → Nat → Cursor → List (String × Json) → Result (Json × Cursor)
  | 0, _, c, _ => c.fail .tooDeep
  | fuel + 1, depth, c, acc => do
    let (k, c) ← c.skip.readString
    let c := c.skipSpace
    match c.rest with
    | [] => c.failNext .endInObject
    | x :: _ =>
      if x = ':' then
        let (v, c) ← value fuel depth c.skip
        members fuel depth c false (Json.insert k v acc)
      else c.failNext .expectedColon
end

end Cursor

/-- The line and the column of an offset: the lines before it, and the bytes since. -/
def place : List Char → Nat → Nat × Nat → Nat × Nat
  | [], _, p => p
  | x :: xs, n, (line, column) =>
    if n = 0 then (line, column)
    else if x = '\n' then place xs (n - 1) (line + 1, 0)
    else place xs (n - x.utf8Size) (line, column + min n x.utf8Size)

/-- Every character takes at most three steps of the reader. -/
def read (text : String) : Except ReadError Json :=
  let cs := text.toList
  let located : Fault × Nat → ReadError := fun (f, n) =>
    let (line, column) := place cs n (1, 0)
    ⟨f, line, column⟩
  match Cursor.value (3 * cs.length + 3) 128 ⟨cs, 0⟩ with
  | .error e => .error (located e)
  | .ok (v, c) =>
    let c := c.skipSpace
    if c.rest.isEmpty then .ok v else .error (located (.trailingCharacters, c.taken + 1))

end EntityQuery.Json
