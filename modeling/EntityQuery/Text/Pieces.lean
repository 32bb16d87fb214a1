/-
  EntityQuery.Text.Pieces — texts put together from pieces, and cut into pieces.

  A text is cut at every character of some kind. The pieces are what stands between such
  characters, so there is always one more piece than there are cuts, and two neighbouring
  cuts enclose the empty piece.

  Words are the pieces between blanks. A blank is any character with the Unicode property
  `White_Space`, so a text is cut at no-break and ideographic spaces as well as at ASCII
  ones.
-/

namespace EntityQuery.Text

/-- Texts with a separator between neighbours. -/
def joined (separator : List Char) : List (List Char) → List Char
  | [] => []
  | [t] => t
  | t :: ts => t ++ separator ++ joined separator ts

/-- The pieces between the characters that `cut` picks out; never the empty list. -/
def pieces (cut : Char → Bool) : List Char → List (List Char)
  | [] => [[]]
  | c :: cs =>
    if cut c then [] :: pieces cut cs
    else match pieces cut cs with
      | [] => [[c]]
      | w :: ws => (c :: w) :: ws

def isBlank (c : Char) : Bool :=
  let n := c.toNat
  (9 ≤ n && n ≤ 13) || n == 32 || n == 0x85 || n == 0xa0 || n == 0x1680 ||
    (0x2000 ≤ n && n ≤ 0x200a) || n == 0x2028 || n == 0x2029 || n == 0x202f || n == 0x205f || n == 0x3000

/-- The pieces between blanks. -/
def words : List Char → List (List Char) := pieces isBlank

end EntityQuery.Text
