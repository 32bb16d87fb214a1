/-
  EntityQuery.Text.Quoted — texts and characters as a diagnostic shows them: between
  quotes, with the enclosing quote and the backslash escaped, the common controls by
  letter and every other unshown character by its code point in hexadecimal.
-/
import EntityQuery.Text.Quoted.Unshown

namespace EntityQuery.Text

/-- The character is a control, a format character, private, unassigned, ignored by
    default, a separator other than the space, or a mark that extends its predecessor. -/
def isUnshown (c : Char) : Bool :=
  let n := c.toNat
  if n < 0x80 then n < 0x20 || n == 0x7f
  else
    let ranges := if n < 0x2000 then Unshown.lowRanges else if n < 0x10000 then Unshown.middleRanges
      else Unshown.highRanges
    ranges.any fun r => r.1 ≤ n && n ≤ r.2

/-- The hexadecimal digits of a number, in small letters. -/
def hexDigits (n : Nat) : List Char := Nat.toDigits 16 n

/-- One character inside quotes of the kind `quote`. -/
def escaped (quote c : Char) : List Char :=
  if c = quote || c = '\\' then ['\\', c]
  else if c = '\n' then ['\\', 'n']
  else if c = '\r' then ['\\', 'r']
  else if c = '\t' then ['\\', 't']
  else if c.toNat = 0 then ['\\', '0']
  else if isUnshown c then ['\\', 'u', '\x7b'] ++ hexDigits c.toNat ++ ['\x7d']
  else [c]

def quoted (s : String) : String :=
  String.ofList ('\x22' :: s.toList.flatMap (escaped '\x22') ++ ['\x22'])

def quotedChar (c : Char) : String :=
  String.ofList ('\x27' :: escaped '\x27' c ++ ['\x27'])

end EntityQuery.Text
