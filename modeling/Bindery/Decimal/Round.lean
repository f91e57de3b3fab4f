/-!
# Rounding exact ratios to doubles

`ofRatio neg p q` is the double nearest to `±p/q`, ties to an even mantissa, the way a correctly
rounded reader of numbers must answer. The ratio is first placed between two powers of two, which
fixes the unit in the last place of the result: `2^(k-52)` for a normal double with
`2^k ≤ p/q < 2^(k+1)`, and `2^(-1074)` below the normal range. The quotient of `p/q` by that unit,
rounded, is the mantissa. A mantissa that reaches the exponent field's all-ones value is an
infinity. Everything is exact `Nat` and `Int` arithmetic.
-/

namespace Bindery.Decimal

def cmpShifted (p : Nat) (s : Int) (q : Nat) : Ordering :=
  if s ≥ 0 then compare (p * Nat.pow 2 s.toNat) q else compare p (q * Nat.pow 2 (-s).toNat)

/-- The `k` with `2^k ≤ p/q < 2^(k+1)`, for positive `p` and `q`. -/
def binaryExponent (p q : Nat) : Int :=
  let k : Int := (Nat.log2 p : Int) - (Nat.log2 q : Int)
  -- `p/q` lies in `[2^(k-1), 2^(k+1))`; one comparison settles it
  if cmpShifted q k p == .gt then k - 1 else k

/-- `p/q` divided by `2^s` and rounded to the nearest integer, ties to even. -/
def roundedQuotient (p q : Nat) (s : Int) : Nat :=
  let num := if s ≥ 0 then p else p * Nat.pow 2 (-s).toNat
  let den := if s ≥ 0 then q * Nat.pow 2 s.toNat else q
  let n := num / den
  let r := num % den
  if 2 * r > den || (2 * r == den && n % 2 == 1) then n + 1 else n

/-- The bits of the double nearest to `p/q` for positive `p` and `q`, without the sign; the bits of
an infinity when the ratio is too large. -/
def ratioBits (p q : Nat) : Nat :=
  let s : Int := max (binaryExponent p q - 52) (-1074)
  let n := roundedQuotient p q s
  -- `n` has at most 54 bits; a carry into the 54th bit moves the exponent up by one
  let (n, s) := if n ≥ Nat.pow 2 53 then (n / 2, s + 1) else (n, s)
  if n < Nat.pow 2 52 then n
  else
    let biased := s + 1075
    if biased ≥ 2047 then 2047 * Nat.pow 2 52
    else biased.toNat * Nat.pow 2 52 + (n - Nat.pow 2 52)

/-- The double nearest to `±p/q`, ties to even; an infinity when too large, a zero of the sign
when `p` is zero. `q` must be positive. -/
def ofRatio (neg : Bool) (p q : Nat) : Float :=
  let magnitude := if p == 0 || q == 0 then 0 else ratioBits p q
  Float.ofBits (UInt64.ofNat (if neg then magnitude + Nat.pow 2 63 else magnitude))

end Bindery.Decimal
