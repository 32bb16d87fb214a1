/-
  EntityQuery.Text.Slice — texts cut by byte offsets.

  Offsets count the bytes of the UTF-8 form. `slice` is total; `IsSlice` says when a range
  is one that a text has: in order, within the text and between characters.
-/

namespace EntityQuery.Text

/-- The text without its first `n` bytes. -/
def dropBytes : Nat → List Char → List Char
  | 0, cs => cs
  | _, [] => []
  | n, c :: cs => dropBytes (n - c.utf8Size) cs

/-- The first `n` bytes of the text. -/
def takeBytes : Nat → List Char → List Char
  | 0, _ => []
  | _, [] => []
  | n, c :: cs => c :: takeBytes (n - c.utf8Size) cs

def byteSize (cs : List Char) : Nat := cs.foldr (fun c n => c.utf8Size + n) 0

/-- The bytes from the first offset up to the second. -/
def slice (cs : List Char) (range : Nat × Nat) : List Char :=
  takeBytes (range.2 - range.1) (dropBytes range.1 cs)

/-- Byte `n` is between two characters of the text, or at one of its ends. -/
def IsBoundary (cs : List Char) (n : Nat) : Prop := ∃ before after, cs = before ++ after ∧ byteSize before = n

/-- The range is in order and both of its ends are boundaries. -/
def IsSlice (cs : List Char) (range : Nat × Nat) : Prop :=
  range.1 ≤ range.2 ∧ IsBoundary cs range.1 ∧ IsBoundary cs range.2

end EntityQuery.Text
