/-
  EntityQuery.Number.Binary — binary floating-point numbers, kept as their bits.

  A `Layout` says how many bits the fraction and the exponent take. `Layout.read` takes
  a pattern apart: a finite number is `m * 2 ^ q` with a sign. `Layout.nearest` goes the
  other way: the pattern of the number nearest to a ratio of naturals, a half going to
  the even neighbour and too large a ratio to infinity. All arithmetic here is exact
  arithmetic on naturals followed by one such rounding. Powers are `Nat.pow`, so that they
  stay those of the naturals whatever algebra is in scope.

  `Single` and `Double` are patterns of 32 and 64 bits; two of them are equal when their
  bits are, so a zero differs from its negative and a not-a-number equals itself.
-/

namespace EntityQuery.Number

/-- Widths of the fraction and of the exponent. -/
structure Layout where
  fraction : Nat
  exponent : Nat
  deriving DecidableEq, Repr

inductive Reading where
  | finite (negative : Bool) (m : Nat) (q : Int)
  | infinite (negative : Bool)
  | notNumber
  deriving DecidableEq, Repr

namespace Layout

/-- The pattern of positive infinity. -/
def infinity (l : Layout) : Nat := (Nat.pow 2 l.exponent - 1) * Nat.pow 2 l.fraction

/-- The exponent of the unit in the last place of the smallest numbers. -/
def lowest (l : Layout) : Int := 2 - Nat.pow 2 (l.exponent - 1) - l.fraction

def signBit (l : Layout) : Nat := Nat.pow 2 (l.fraction + l.exponent)

def read (l : Layout) (bits : Nat) : Reading :=
  let negative := l.signBit ≤ bits
  let magnitude := bits % l.signBit
  let field := magnitude / Nat.pow 2 l.fraction
  let fraction := magnitude % Nat.pow 2 l.fraction
  if magnitude = l.infinity then .infinite negative
  else if l.infinity < magnitude then .notNumber
  else if field = 0 then .finite negative fraction l.lowest
  else .finite negative (Nat.pow 2 l.fraction + fraction) (l.lowest + field - 1)

end Layout

/-- A ratio of naturals. -/
structure Ratio where
  num : Nat
  den : Nat
  deriving DecidableEq, Repr

namespace Ratio

/-- The value `m * b ^ e`. -/
def scaled (m b : Nat) (e : Int) : Ratio :=
  if 0 ≤ e then ⟨m * Nat.pow b e.toNat, 1⟩ else ⟨m, Nat.pow b (-e).toNat⟩

def mul (a b : Ratio) : Ratio := ⟨a.num * b.num, a.den * b.den⟩

def div (a b : Ratio) : Ratio := ⟨a.num * b.den, a.den * b.num⟩

def lt (a b : Ratio) : Bool := a.num * b.den < b.num * a.den

/-- The nearest natural, a half going to the even one. -/
def nearestEven (r : Ratio) : Nat :=
  let k := r.num / r.den
  let rest := 2 * (r.num % r.den)
  if r.den < rest then k + 1
  else if rest < r.den then k
  else if k % 2 = 0 then k else k + 1

/-- The greatest `e` with `2 ^ e` not above the ratio, for a ratio above zero. -/
def log2 (r : Ratio) : Int :=
  let e : Int := (Nat.log2 r.num : Int) - Nat.log2 r.den
  if r.lt (scaled 1 2 e) then e - 1 else e

end Ratio

namespace Layout

/-- The pattern, without a sign, of the number nearest to `r`. -/
def nearest (l : Layout) (r : Ratio) : Nat :=
  if r.num = 0 then 0
  else
    let q := max (r.log2 - l.fraction) l.lowest
    let m := (r.div (Ratio.scaled 1 2 q)).nearestEven
    min l.infinity ((q - l.lowest).toNat * Nat.pow 2 l.fraction + m)

end Layout

def single : Layout := ⟨23, 8⟩

def double : Layout := ⟨52, 11⟩

structure Single where
  bits : UInt32
  deriving DecidableEq, Repr

structure Double where
  bits : UInt64
  deriving DecidableEq, Repr

def Single.read (x : Single) : Reading := single.read x.bits.toNat

def Double.read (x : Double) : Reading := double.read x.bits.toNat

namespace Double

def zero : Double := ⟨0⟩

/-- The number nearest to a ratio. -/
def ofRatio (r : Ratio) : Double := ⟨(double.nearest r).toUInt64⟩

def neg (x : Double) : Double := ⟨x.bits ^^^ 0x8000000000000000⟩

def isInfinite (x : Double) : Bool :=
  match x.read with
  | .infinite _ => true
  | _ => false

/-- The exact value of a finite number, without its sign; zero for any other. -/
def magnitude (x : Double) : Ratio :=
  match x.read with
  | .finite _ m q => Ratio.scaled m 2 q
  | _ => ⟨0, 1⟩

end Double

/-- The same number in the wider layout. A pattern that is no number keeps its sign and
    its fraction and becomes quiet. -/
def Single.widen (x : Single) : Double :=
  match x.read with
  | .finite negative m q =>
    let y := Double.ofRatio (Ratio.scaled m 2 q)
    if negative then y.neg else y
  | .infinite negative => if negative then ⟨0xfff0000000000000⟩ else ⟨0x7ff0000000000000⟩
  | .notNumber =>
    let sign := x.bits.toUInt64 >>> 31 <<< 63
    let fraction := (x.bits &&& 0x7fffff).toUInt64 <<< 29
    ⟨sign ||| 0x7ff8000000000000 ||| fraction⟩

end EntityQuery.Number
