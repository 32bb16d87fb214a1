/-
  EntityQuery.Number.Decimal — the fewest decimal digits that read back as a given
  binary number, and how such digits are written.

  The reals that round to `m * 2 ^ q` form an interval around it, its ends included
  when `m` is even. `Layout.shortest` looks for the coarsest decimal grid with a point
  in that interval. If a grid has one, then one of the value's two neighbours on the
  grid is one, so only those are tried; of two the nearer is taken, and the notation
  says which way an exact tie goes.

  A `Notation` says which decimal exponents are written positionally and how the
  exponent of the others is marked.
-/
import EntityQuery.Number.Binary

namespace EntityQuery.Number

/-- The number `digits * 10 ^ exponent`. -/
structure Decimal where
  digits : Nat
  exponent : Int
  deriving DecidableEq, Repr

inductive Tie where
  | even
  | up
  deriving DecidableEq, Repr

namespace Decimal

def value (d : Decimal) : Ratio := Ratio.scaled d.digits 10 d.exponent

/-- The exponent of the leading digit. -/
def leading (d : Decimal) : Int := (toString d.digits).length + d.exponent - 1

/-- Without trailing zeros; zero has the exponent zero. -/
def trimFrom : Nat → Decimal → Decimal
  | 0, d => d
  | fuel + 1, d =>
    if d.digits = 0 then ⟨0, 0⟩
    else if d.digits % 10 = 0 then trimFrom fuel ⟨d.digits / 10, d.exponent + 1⟩
    else d

def trim (d : Decimal) : Decimal := trimFrom (toString d.digits).length d

end Decimal

/-- The greatest `e` with `10 ^ e` not above the ratio, searched downwards from `e`. -/
def Ratio.log10From (r : Ratio) : Nat → Int → Int
  | 0, e => e
  | fuel + 1, e => if r.lt (Ratio.scaled 1 10 e) then r.log10From fuel (e - 1) else e

/-- The greatest `e` with `10 ^ e` not above the ratio, for a ratio above zero. -/
def Ratio.log10 (r : Ratio) : Int :=
  let guess : Int := (toString (r.num / r.den)).length
  if r.num < r.den then
    let e := (toString (r.den / r.num)).length
    r.log10From 3 (1 - e)
  else r.log10From 3 guess

/-- The reals that round to a number: the ends, and whether they belong to it. -/
structure Interval where
  low : Ratio
  high : Ratio
  closed : Bool

namespace Interval

/-- Below the least number of a power of two the numbers are twice as dense. -/
def around (l : Layout) (m : Nat) (q : Int) : Interval where
  low := if m = Nat.pow 2 l.fraction ∧ l.lowest < q then Ratio.scaled (4 * m - 1) 2 (q - 2)
    else Ratio.scaled (2 * m - 1) 2 (q - 1)
  high := Ratio.scaled (2 * m + 1) 2 (q - 1)
  closed := m % 2 = 0

def holds (i : Interval) (r : Ratio) : Bool :=
  if i.closed then !r.lt i.low && !i.high.lt r else i.low.lt r && r.lt i.high

end Interval

/-- Of the two neighbours `k` and `k + 1` on the grid of `10 ^ e`, the one that lies in the
    interval, the nearer one if both do. -/
def gridPoint? (tie : Tie) (i : Interval) (v : Ratio) (e : Int) : Option Decimal :=
  let steps := v.div (Ratio.scaled 1 10 e)
  let k := steps.num / steps.den
  let rest := 2 * (steps.num % steps.den)
  let below : Decimal := ⟨k, e⟩
  let above : Decimal := ⟨k + 1, e⟩
  match i.holds below.value, i.holds above.value with
  | true, false => some below
  | false, true => some above
  | false, false => none
  | true, true =>
    if rest < steps.den then some below
    else if steps.den < rest then some above
    else match tie with
      | .up => some above
      | .even => some (if k % 2 = 0 then below else above)

/-- Tries grids of one digit, two digits and so on. -/
def shortestFrom (tie : Tie) (i : Interval) (v : Ratio) : Nat → Int → Option Decimal
  | 0, _ => none
  | fuel + 1, e =>
    match gridPoint? tie i v e with
    | some d => some d.trim
    | none => shortestFrom tie i v fuel (e - 1)

/-- The digits of `m * 2 ^ q`. Seventeen digits always suffice, so the last case, a
    zero, is met by zero alone. -/
def Layout.shortest (l : Layout) (tie : Tie) (m : Nat) (q : Int) : Decimal :=
  if m = 0 then ⟨0, 0⟩
  else
    let v := Ratio.scaled m 2 q
    (shortestFrom tie (Interval.around l m q) v 20 v.log10).getD ⟨0, 0⟩

/-- How decimal digits are written. Leading digits with an exponent from `least` to
    `greatest` are written positionally, others with a mark and an exponent. -/
structure Notation where
  least : Int
  greatest : Int
  /-- Written between the mark and an exponent that is not negative. -/
  plus : String
  tie : Tie
  deriving Repr

namespace Notation

def zeros (n : Nat) : String := String.ofList (List.replicate n '0')

/-- The digits with a point, at least one digit on each side of it. -/
def positional (d : Decimal) : String :=
  let s := toString d.digits
  if 0 ≤ d.exponent then s ++ zeros d.exponent.toNat ++ ".0"
  else
    let places := (-d.exponent).toNat
    if s.length ≤ places then "0." ++ zeros (places - s.length) ++ s
    else
      let cs := s.toList
      String.ofList (cs.take (cs.length - places) ++ '.' :: cs.drop (cs.length - places))

/-- One digit, the others behind a point, and the exponent. -/
def scientific (n : Notation) (d : Decimal) : String :=
  let mantissa := match (toString d.digits).toList with
    | [] => []
    | [c] => [c]
    | c :: cs => c :: '.' :: cs
  let e := d.leading
  let exponent := if 0 ≤ e then n.plus ++ toString e.toNat else "-" ++ toString (-e).toNat
  String.ofList mantissa ++ "e" ++ exponent

def unsigned (n : Notation) (d : Decimal) : String :=
  if d.digits = 0 || (n.least ≤ d.leading && d.leading ≤ n.greatest) then positional d else n.scientific d

def render (n : Notation) (l : Layout) : Reading → String
  | .finite negative m q => (if negative then "-" else "") ++ n.unsigned (l.shortest n.tie m q)
  | .infinite negative => if negative then "-inf" else "inf"
  | .notNumber => "NaN"

end Notation

/-- Diagnostics write a number positionally from 0.0001 up to, but not including, ten to
    the sixteenth; a tie goes up. -/
def diagnostic : Notation := ⟨-4, 15, "", .up⟩

/-- Always positional, whatever the size. -/
def plain : Notation := ⟨-400, 400, "", .up⟩

def Single.diagnostic (x : Single) : String := Number.diagnostic.render single x.read

def Double.diagnostic (x : Double) : String := Number.diagnostic.render double x.read

def Double.plain (x : Double) : String := Number.plain.render double x.read

end EntityQuery.Number
