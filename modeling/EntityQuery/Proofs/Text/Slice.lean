/-
  EntityQuery.Proofs.Text.Slice — byte offsets that fall between characters.

  Cutting a text at the byte size of one of its beginnings gives that beginning and what
  follows it, so a slice between two such offsets is what stands between them
  (`slice_middle`).

  These offsets are the valid positions of the text as a string (`isBoundary_iff_isValid`), and
  `slice?` is the slice that takes no others: where `slice` makes something up, it gives nothing.
-/
import EntityQuery.Text.Slice

namespace EntityQuery.Text

@[simp] theorem byteSize_nil : byteSize [] = 0 := rfl

@[simp] theorem byteSize_cons (c : Char) (cs : List Char) : byteSize (c :: cs) = c.utf8Size + byteSize cs := rfl

@[simp] theorem byteSize_append (xs ys : List Char) : byteSize (xs ++ ys) = byteSize xs + byteSize ys := by
  induction xs with
  | nil => simp
  | cons c cs ih => rw [List.cons_append, byteSize_cons, byteSize_cons, ih, Nat.add_assoc]

theorem utf8ByteSize_ofList (cs : List Char) : (String.ofList cs).utf8ByteSize = byteSize cs := by
  induction cs with
  | nil => rfl
  | cons c cs ih => rw [String.ofList_cons, String.utf8ByteSize_append, String.utf8ByteSize_singleton, ih, byteSize_cons]

theorem dropBytes_cons (n : Nat) (c : Char) (cs : List Char) :
    dropBytes (c.utf8Size + n) (c :: cs) = dropBytes n cs := by
  have hc := c.utf8Size_pos
  cases h : c.utf8Size + n with
  | zero => omega
  | succ k =>
    rw [dropBytes, ← h, Nat.add_sub_cancel_left]
    omega

theorem takeBytes_cons (n : Nat) (c : Char) (cs : List Char) :
    takeBytes (c.utf8Size + n) (c :: cs) = c :: takeBytes n cs := by
  have hc := c.utf8Size_pos
  cases h : c.utf8Size + n with
  | zero => omega
  | succ k =>
    rw [takeBytes, ← h, Nat.add_sub_cancel_left]
    omega

theorem dropBytes_append (xs ys : List Char) : dropBytes (byteSize xs) (xs ++ ys) = ys := by
  induction xs with
  | nil => simp [dropBytes]
  | cons c cs ih => rw [byteSize_cons, List.cons_append, dropBytes_cons, ih]

theorem takeBytes_append (xs ys : List Char) : takeBytes (byteSize xs) (xs ++ ys) = xs := by
  induction xs with
  | nil => simp [takeBytes]
  | cons c cs ih => rw [byteSize_cons, List.cons_append, takeBytes_cons, ih]

theorem slice_middle (xs ys zs : List Char) :
    slice (xs ++ ys ++ zs) (byteSize xs, byteSize xs + byteSize ys) = ys := by
  rw [slice, List.append_assoc, dropBytes_append, Nat.add_sub_cancel_left, takeBytes_append]

theorem slice_all (cs : List Char) : slice cs (0, byteSize cs) = cs := by
  simpa using slice_middle [] cs []

theorem slice_end (xs ys : List Char) : slice (xs ++ ys) (byteSize xs, byteSize (xs ++ ys)) = ys := by
  simpa using slice_middle xs ys []

/-! ## Boundaries -/

theorem isBoundary_iff_isValid {cs : List Char} {n : Nat} :
    IsBoundary cs n ↔ (⟨n⟩ : String.Pos.Raw).IsValid (String.ofList cs) := by
  rw [String.Pos.Raw.isValid_iff_exists_append]
  constructor
  · rintro ⟨before, after, rfl, rfl⟩
    exact ⟨String.ofList before, String.ofList after, String.ofList_append,
      String.Pos.Raw.ext (utf8ByteSize_ofList before).symm⟩
  · rintro ⟨s, t, htext, hn⟩
    refine ⟨s.toList, t.toList, ?_, ?_⟩
    · rw [← String.toList_append, ← htext, String.toList_ofList]
    · rw [← utf8ByteSize_ofList, String.ofList_toList]
      exact (congrArg String.Pos.Raw.byteIdx hn).symm

instance (cs : List Char) (n : Nat) : Decidable (IsBoundary cs n) := decidable_of_iff _ isBoundary_iff_isValid.symm

instance (cs : List Char) (range : Nat × Nat) : Decidable (IsSlice cs range) :=
  inferInstanceAs (Decidable (range.1 ≤ range.2 ∧ IsBoundary cs range.1 ∧ IsBoundary cs range.2))

/-- The bytes of a range; none if the text does not have it. -/
def slice? (cs : List Char) (range : Nat × Nat) : Option (List Char) :=
  if IsSlice cs range then some (slice cs range) else none

theorem slice?_of_isSlice {cs : List Char} {range : Nat × Nat} (h : IsSlice cs range) :
    slice? cs range = some (slice cs range) :=
  if_pos h

/-- Bytes 2 and 3 are one character. -/
example : slice? "größe".toList (0, 4) = some ['g', 'r', 'ö'] ∧ slice? "größe".toList (0, 3) = none := by decide

theorem IsBoundary.le {cs : List Char} {n : Nat} (h : IsBoundary cs n) : n ≤ byteSize cs := by
  obtain ⟨before, after, rfl, rfl⟩ := h
  rw [byteSize_append]
  exact Nat.le_add_right _ _

theorem isBoundary_zero (cs : List Char) : IsBoundary cs 0 := ⟨[], cs, rfl, rfl⟩

theorem isBoundary_byteSize (cs : List Char) : IsBoundary cs (byteSize cs) := ⟨cs, [], by simp, rfl⟩

end EntityQuery.Text
