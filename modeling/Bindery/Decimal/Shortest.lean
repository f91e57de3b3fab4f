/-!
# Shortest decimal digits of a double

A finite double is `(-1)^neg · m · 2^e`. The reals that round to it form an interval around it,
closed when `m` is even (ties go to the even mantissa). `Decimal.shortest` tries grids of
1, 2, …, 17 significant digits and takes the first grid holding a point of that interval; of two
such points it takes the nearer, and of two equally near the even one. Everything is exact `Nat`
and `Int` arithmetic.
-/

namespace Bindery.Decimal

/-- A double taken apart: sign, integer mantissa, binary exponent, and whether the gap below is
half the gap above (the mantissa is a power of two and the exponent is not the least). -/
structure Binary where
  neg : Bool
  m : Nat
  e : Int
  narrowBelow : Bool
deriving Repr

/-- The parts of a finite double; infinities and NaN give meaningless parts. -/
def Binary.ofFloat (f : Float) : Binary :=
  let bits := f.toBits.toNat
  let neg := bits / Nat.pow 2 63 % 2 == 1
  let field := bits / Nat.pow 2 52 % 2048
  let frac := bits % Nat.pow 2 52
  if field == 0 then ⟨neg, frac, -1074, false⟩
  else ⟨neg, frac + Nat.pow 2 52, Int.ofNat field - 1075, frac == 0 && field > 1⟩

/-- `10^a · 2^b` against `x · 2^c · 10^d` for integers `a b c d`, made exact by moving negative
powers across. -/
def cmpScaled (lhs : Nat) (a b : Int) (rhs : Nat) (c d : Int) : Ordering :=
  let l := lhs * Nat.pow 10 a.toNat * Nat.pow 2 b.toNat * Nat.pow 2 (-c).toNat * Nat.pow 10 (-d).toNat
  let r := rhs * Nat.pow 2 c.toNat * Nat.pow 10 d.toNat * Nat.pow 10 (-a).toNat * Nat.pow 2 (-b).toNat
  compare l r

/-- The decimal exponent of a positive `m · 2^e`: the `t` with `10^t ≤ m · 2^e < 10^(t+1)`. -/
def decimalExponent (m : Nat) (e : Int) : Int :=
  let est : Int := ((Nat.log2 m : Int) + e) * 30103 / 100000
  -- the estimate is off by at most one either way
  let up (t : Int) : Int := if cmpScaled 1 (t + 1) 0 m e 0 != .gt then t + 1 else t
  let down (t : Int) : Int := if cmpScaled 1 t 0 m e 0 == .gt then t - 1 else t
  down (down (up (up est)))

/-- Digits `c` and exponent `k` meaning `c · 10^k`, with the trailing zeros of `c` moved into
`k`. -/
def trimZeros (c : Nat) (k : Int) : Nat × Int :=
  let rec go (fuel : Nat) (c : Nat) (k : Int) : Nat × Int :=
    match fuel with
    | 0 => (c, k)
    | fuel + 1 => if c != 0 && c % 10 == 0 then go fuel (c / 10) (k + 1) else (c, k)
  go 20 c k

/-- The point of the grid of step `10^k` chosen for the interval of a positive double, if the
grid has one in it. The double is `v4 · 2^p`, its interval runs from `lo4 · 2^p` to `hi4 · 2^p`. -/
def gridPoint (v4 lo4 hi4 : Nat) (p : Int) (inclusive : Bool) (k : Int) : Option Nat :=
  -- a value `x · 2^p` and a grid point `c · 10^k`, both times `2^(-p) · 10^(-k)` when negative
  let scaleX (x : Nat) : Nat := x * Nat.pow 2 p.toNat * Nat.pow 10 (-k).toNat
  let scaleC (c : Nat) : Nat := c * Nat.pow 10 k.toNat * Nat.pow 2 (-p).toNat
  let v := scaleX v4
  let lo := scaleX lo4
  let hi := scaleX hi4
  let unit := scaleC 1
  let below := v / unit
  let inside (c : Nat) : Bool :=
    let x := scaleC c
    (lo < x || (inclusive && lo == x)) && (x < hi || (inclusive && x == hi))
  match inside below, inside (below + 1) with
  | true, true =>
    let dBelow := v - scaleC below
    let dAbove := scaleC (below + 1) - v
    if dBelow < dAbove then some below
    else if dAbove < dBelow then some (below + 1)
    else if below % 2 == 0 then some below else some (below + 1)
  | true, false => some below
  | false, true => some (below + 1)
  | false, false => none

/-- The shortest digits of a finite double's magnitude, as `(c, k)` meaning `c · 10^k`, with no
trailing zero in `c`; zero gives `(0, 0)`. -/
def shortest (b : Binary) : Nat × Int :=
  if b.m == 0 then (0, 0) else
  let v4 := 4 * b.m
  let lo4 := if b.narrowBelow then 4 * b.m - 1 else 4 * b.m - 2
  let hi4 := 4 * b.m + 2
  let p := b.e - 2
  let inclusive := b.m % 2 == 0
  let d := decimalExponent b.m b.e
  let rec search (n : Nat) (left : Nat) : Nat × Int :=
    match left with
    | 0 => trimZeros (gridPointOr v4 lo4 hi4 p inclusive (d - n + 1)) (d - n + 1)
    | left + 1 =>
      match gridPoint v4 lo4 hi4 p inclusive (d - n + 1) with
      | some c => trimZeros c (d - n + 1)
      | none => search (n + 1) left
  search 1 16
where
  gridPointOr (v4 lo4 hi4 : Nat) (p : Int) (inclusive : Bool) (k : Int) : Nat :=
    (gridPoint v4 lo4 hi4 p inclusive k).getD
      (v4 * Nat.pow 2 p.toNat * Nat.pow 10 (-k).toNat / (Nat.pow 10 k.toNat * Nat.pow 2 (-p).toNat))

/-- The decimal digits of a natural number, most significant first. -/
def digitsOf (n : Nat) : List Char :=
  let rec go (fuel n : Nat) (acc : List Char) : List Char :=
    match fuel with
    | 0 => acc
    | fuel + 1 =>
      let acc := Char.ofNat (48 + n % 10) :: acc
      if n < 10 then acc else go fuel (n / 10) acc
  go (n + 1) n []

def natText (n : Nat) : String := String.ofList (digitsOf n)

/-- Decimal text of an integer, with a leading minus when negative. -/
def intText (i : Int) : String :=
  if i < 0 then "-" ++ natText i.natAbs else natText i.natAbs

end Bindery.Decimal
