/-
  EntityQuery.Proofs.Value.Integers — integers taken out of values.

  An integer may come in any of eight kinds and go into any of ten types. What is carried is said
  by `HoldsSigned` and `HoldsUnsigned`, kind by kind, and what a type can hold by the words of
  its width: `IntegerType.Has` is that one of them has this value, with a sign or without.
  - `IntegerType.has_iff`: these are the integers between the bounds of the type.
  - `Value.integer?_eq_some_iff`: what conversions look at is the integer carried, whatever the kind.
  - `Value.toInteger_of_holds`, `Value.toBoolean_of_holds`: an integer is kept as it is or refused.
  - `MemberType.optional_iterate_of_ok`, `MemberType.optional_iterate_of_error`: optional types around each other
    wrap a content once each, and pass on what is not a NULL.
  - `MemberType.read_integer`, `MemberType.read_boolean`: the conversions below optional types.
  - `integers_kept_or_refused`: all of it together.
-/
import Mathlib.Logic.Function.Iterate
import Mathlib.Tactic.NormNum
import EntityQuery.Derive.Record

namespace EntityQuery

/-! ## What a type can hold -/

namespace IntegerType

/-- The bits of a word of the type. -/
def width : IntegerType → Nat
  | .i8 | .u8 => 8
  | .i16 | .u16 => 16
  | .i32 | .u32 => 32
  | .i64 | .u64 | .isize | .usize => 64

def isSigned : IntegerType → Bool
  | .i8 | .i16 | .i32 | .i64 | .isize => true
  | .u8 | .u16 | .u32 | .u64 | .usize => false

/-- The integer that a word stands for. -/
def value (T : IntegerType) (x : BitVec T.width) : Int := if T.isSigned then x.toInt else x.toNat

/-- A word of the type stands for the integer. -/
def Has (T : IntegerType) (n : Int) : Prop := ∃ x, T.value x = n

theorem bounds_of_signed {T : IntegerType} (h : T.isSigned = true) :
    T.least = -2 ^ (T.width - 1) ∧ T.greatest = 2 ^ (T.width - 1) - 1 := by
  cases T with
  | i8 | i16 | i32 | i64 | isize => exact ⟨rfl, rfl⟩
  | u8 | u16 | u32 | u64 | usize => cases h

theorem bounds_of_unsigned {T : IntegerType} (h : T.isSigned = false) :
    T.least = 0 ∧ T.greatest = 2 ^ T.width - 1 := by
  cases T with
  | i8 | i16 | i32 | i64 | isize => cases h
  | u8 | u16 | u32 | u64 | usize => exact ⟨rfl, rfl⟩

theorem width_pos (T : IntegerType) : 0 < T.width := by
  cases T <;> decide

/-- A type has the integers between its bounds, and no other. -/
theorem has_iff (T : IntegerType) (n : Int) : T.Has n ↔ T.least ≤ n ∧ n ≤ T.greatest := by
  unfold Has value
  cases h : T.isSigned with
  | true =>
    obtain ⟨hleast, hgreatest⟩ := bounds_of_signed h
    rw [hleast, hgreatest]
    constructor
    · intro hx
      obtain ⟨x, rfl⟩ := hx
      have hlow := x.le_toInt
      have hhigh := x.toInt_le
      exact ⟨hlow, hhigh⟩
    · intro hn
      exact ⟨BitVec.ofInt _ n, BitVec.toInt_ofInt_eq_self T.width_pos hn.1 (by omega)⟩
  | false =>
    obtain ⟨hleast, hgreatest⟩ := bounds_of_unsigned h
    rw [hleast, hgreatest]
    constructor
    · intro hx
      obtain ⟨x, rfl⟩ := hx
      have hlt := x.isLt
      constructor
      · exact Int.natCast_nonneg _
      · show (x.toNat : Int) ≤ _
        have : (x.toNat : Int) < 2 ^ T.width := by exact_mod_cast hlt
        omega
    · intro hn
      have hlt : n.toNat < 2 ^ T.width := by
        have : (n.toNat : Int) < 2 ^ T.width := by omega
        exact_mod_cast this
      refine ⟨BitVec.ofNat _ n.toNat, ?_⟩
      show ((BitVec.ofNat _ n.toNat).toNat : Int) = n
      rw [BitVec.toNat_ofNat, Nat.mod_eq_of_lt hlt]
      exact Int.toNat_of_nonneg hn.1

end IntegerType

/-! ## What a value carries -/

namespace Value

/-- The value is of a signed integer kind and carries the integer. -/
inductive HoldsSigned : Value → Int → Prop
  | tinyInt (x : Int8) : HoldsSigned (.tinyInt (some x)) x.toInt
  | smallInt (x : Int16) : HoldsSigned (.smallInt (some x)) x.toInt
  | int (x : Int32) : HoldsSigned (.int (some x)) x.toInt
  | bigInt (x : Int64) : HoldsSigned (.bigInt (some x)) x.toInt

/-- The value is of an unsigned integer kind and carries the integer. -/
inductive HoldsUnsigned : Value → Int → Prop
  | tinyUnsigned (x : UInt8) : HoldsUnsigned (.tinyUnsigned (some x)) x.toNat
  | smallUnsigned (x : UInt16) : HoldsUnsigned (.smallUnsigned (some x)) x.toNat
  | unsigned (x : UInt32) : HoldsUnsigned (.unsigned (some x)) x.toNat
  | bigUnsigned (x : UInt64) : HoldsUnsigned (.bigUnsigned (some x)) x.toNat

/-- The value is of an integer kind and carries the integer. -/
def HoldsInteger (v : Value) (n : Int) : Prop := v.HoldsSigned n ∨ v.HoldsUnsigned n

variable {v : Value} {n : Int}

theorem integer?_eq_some_iff : v.integer? = some (some n) ↔ v.HoldsInteger n := by
  constructor
  · intro h
    cases v with
    | tinyInt o | smallInt o | int o | bigInt o =>
      cases o with
      | none => cases h
      | some x => cases h; exact Or.inl (by constructor)
    | tinyUnsigned o | smallUnsigned o | unsigned o | bigUnsigned o =>
      cases o with
      | none => cases h
      | some x => cases h; exact Or.inr (by constructor)
    | bool o | float o | double o | string o | char o | bytes o | json o | enum type o => cases h
  · intro h
    rcases h with h | h
    · cases h <;> rfl
    · cases h <;> rfl

/-- An integer that the type has is kept as it is, and any other is refused. -/
theorem toInteger_of_holds (h : v.HoldsInteger n) (T : IntegerType) :
    (T.Has n → v.toInteger T = .ok n) ∧ (¬ T.Has n → v.toInteger T = .error (.conversion (.outOfRange n T))) := by
  unfold toInteger
  rw [integer?_eq_some_iff.mpr h, T.has_iff]
  constructor
  · intro hin
    exact if_pos hin
  · intro hout
    exact if_neg hout

/-- Zero and one are taken for Booleans, and any other integer is refused. -/
theorem toBoolean_of_holds (h : v.HoldsSigned n) :
    (n = 0 → v.toBoolean = .ok false) ∧ (n = 1 → v.toBoolean = .ok true) ∧
      (n ≠ 0 → n ≠ 1 → v.toBoolean = .error (.conversion (.notBoolean n))) := by
  have heq : v.toBoolean = booleanOfInteger n := by cases h <;> rfl
  rw [heq]
  unfold booleanOfInteger
  refine ⟨fun h0 => if_pos h0, fun h1 => ?_, fun h0 h1 => ?_⟩
  · rw [if_neg (by omega), if_pos h1]
  · rw [if_neg h0, if_neg h1]

end Value

/-! ## Optional types around each other -/

namespace Derive

namespace MemberType

variable {t : MemberType} {v : Value}

theorem optional_iterate_of_ok {c : Content} (h : t.read v = .ok c) (k : Nat) :
    (optional^[k] t).read v = .ok (Content.present^[k] c) := by
  induction k with
  | zero => exact h
  | succ k ih =>
    rw [Function.iterate_succ_apply' optional, Function.iterate_succ_apply' Content.present]
    simp only [optional, Value.optional?, ih]

theorem optional_iterate_of_error {e : ExtractError} (h : t.read v = .error e) (he : e ≠ .nullValue) (k : Nat) :
    (optional^[k] t).read v = .error e := by
  induction k with
  | zero => exact h
  | succ k ih =>
    rw [Function.iterate_succ_apply' optional]
    simp only [optional, Value.optional?, ih]

/-- An integer below `k` optional types. -/
theorem read_integer {n : Int} (hv : v.HoldsInteger n) (T : IntegerType) (k : Nat) :
    (T.Has n → (optional^[k] (.integer T)).read v = .ok (Content.present^[k] (.integer n))) ∧
      (¬ T.Has n → (optional^[k] (.integer T)).read v = .error (.conversion (.outOfRange n T))) := by
  obtain ⟨hkept, hrefused⟩ := Value.toInteger_of_holds hv T
  have hread : (MemberType.integer T).read v = (v.toInteger T).map Content.integer := rfl
  constructor
  · intro hin
    apply optional_iterate_of_ok
    rw [hread, hkept hin]
    rfl
  · intro hout
    apply optional_iterate_of_error
    · rw [hread, hrefused hout]
      rfl
    · exact nofun

/-- An integer of a signed kind taken as a Boolean, below `k` optional types. -/
theorem read_boolean {n : Int} (hv : v.HoldsSigned n) (k : Nat) :
    (∀ b, v.toBoolean = .ok b → (optional^[k] .boolean).read v = .ok (Content.present^[k] (.boolean b))) ∧
      (n ≠ 0 → n ≠ 1 → (optional^[k] .boolean).read v = .error (.conversion (.notBoolean n))) := by
  obtain ⟨-, -, hrefused⟩ := Value.toBoolean_of_holds hv
  have hread : MemberType.boolean.read v = v.toBoolean.map Content.boolean := rfl
  constructor
  · intro b hb
    apply optional_iterate_of_ok
    rw [hread, hb]
    rfl
  · intro h0 h1
    apply optional_iterate_of_error
    · rw [hread, hrefused h0 h1]
      rfl
    · exact nofun

end MemberType

/-- An integer in a value of any integer kind, and `k` optional types around the type that it is taken as. It is
    taken if and only if a word of the type stands for it, as itself and wrapped once by each
    optional type; otherwise it is refused with a text that names the integer and the type. Any
    other value that carries the integer fares the same. As a Boolean, an integer of a
    signed kind is taken if it is zero or one. -/
theorem integers_kept_or_refused {v : Value} {n : Int} (hv : v.HoldsInteger n) (k : Nat) :
    (∀ T : IntegerType,
      let read := (MemberType.optional^[k] (.integer T)).read
      let refusal := ExtractError.conversion (.outOfRange n T)
      (T.Has n ↔ T.least ≤ n ∧ n ≤ T.greatest) ∧
      (∀ c, read v = .ok c ↔ T.Has n ∧ c = Content.present^[k] (.integer n)) ∧
      (¬ T.Has n → read v = .error refusal) ∧
      refusal.message = "Conversion error: " ++ (toString n ++ " is out of range for " ++ T.name) ∧
      ∀ w : Value, w.HoldsInteger n → read w = read v) ∧
    (v.HoldsSigned n →
      let read := (MemberType.optional^[k] .boolean).read v
      (∀ c, read = .ok c ↔ n = 0 ∧ c = Content.present^[k] (.boolean false) ∨
        n = 1 ∧ c = Content.present^[k] (.boolean true)) ∧
      (n ≠ 0 → n ≠ 1 → read = .error (.conversion (.notBoolean n)))) := by
  refine ⟨fun T => ?_, fun hs => ?_⟩
  · intro read refusal
    obtain ⟨hkept, hrefused⟩ := MemberType.read_integer hv T k
    refine ⟨T.has_iff n, ?_, hrefused, rfl, ?_⟩
    · intro c
      by_cases hin : T.Has n
      · rw [show read v = _ from hkept hin, Except.ok.injEq, and_iff_right hin]
        exact eq_comm
      · rw [show read v = _ from hrefused hin]
        exact ⟨nofun, fun h => absurd h.1 hin⟩
    · intro w hw
      obtain ⟨hkept', hrefused'⟩ := MemberType.read_integer hw T k
      by_cases hin : T.Has n
      · exact (hkept' hin).trans (hkept hin).symm
      · exact (hrefused' hin).trans (hrefused hin).symm
  · intro read
    obtain ⟨hzero, hone, -⟩ := Value.toBoolean_of_holds hs
    obtain ⟨htaken, hrefused⟩ := MemberType.read_boolean hs k
    refine ⟨fun c => ?_, hrefused⟩
    by_cases h0 : n = 0
    · rw [show read = _ from htaken false (hzero h0), Except.ok.injEq]
      constructor
      · intro hc
        exact Or.inl ⟨h0, hc.symm⟩
      · intro hc
        rcases hc with hc | hc
        · exact hc.2.symm
        · omega
    by_cases h1 : n = 1
    · rw [show read = _ from htaken true (hone h1), Except.ok.injEq]
      constructor
      · intro hc
        exact Or.inr ⟨h1, hc.symm⟩
      · intro hc
        rcases hc with hc | hc
        · omega
        · exact hc.2.symm
    · rw [show read = _ from hrefused h0 h1]
      constructor
      · exact nofun
      · intro hc
        omega

/-- The greatest integer of all in a value, which no signed type has, below an optional type; and
    a one in a narrow value, below two of them. -/
theorem integers_kept_or_refused_greatest :
    let greatest : Int := 0xffffffffffffffff
    Value.HoldsInteger (.bigUnsigned (some 0xffffffffffffffff)) greatest ∧
    Value.HoldsSigned (.tinyInt (some 1)) 1 ∧
    (MemberType.integer .u64).optional.read (.bigUnsigned (some 0xffffffffffffffff)) =
      .ok (.present (.integer greatest)) ∧
    (MemberType.integer .i64).optional.read (.bigUnsigned (some 0xffffffffffffffff)) =
      .error (.conversion (.outOfRange greatest .i64)) ∧
    MemberType.boolean.optional.optional.read (.tinyInt (some 1)) = .ok (.present (.present (.boolean true))) := by
  intro greatest
  have hgreatest : Value.HoldsInteger (.bigUnsigned (some 0xffffffffffffffff)) greatest := Or.inr (.bigUnsigned _)
  have hone : Value.HoldsSigned (.tinyInt (some 1)) 1 := .tinyInt 1
  have h := (integers_kept_or_refused hgreatest 1).1
  have hu := h .u64
  have hi := h .i64
  refine ⟨hgreatest, hone, ?_, ?_, ?_⟩
  · exact (hu.2.1 _).mpr ⟨hu.1.mpr (by decide), rfl⟩
  · refine hi.2.2.1 fun hin => ?_
    exact absurd (hi.1.mp hin) (by decide)
  · exact (((integers_kept_or_refused (Or.inl hone) 2).2 hone).1 _).mpr (Or.inr ⟨rfl, rfl⟩)

end Derive

end EntityQuery
