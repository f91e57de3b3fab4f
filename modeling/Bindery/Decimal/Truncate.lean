import Bindery.Decimal.Shortest

/-!
# Converting doubles to integers

A double converts to a signed 64-bit integer by dropping its fraction, rounding toward zero. A
value with no integer in that range (NaN, an infinity, or a magnitude of `2^63` or more) has no
faithful result; the host's conversion instruction then answers the least integer, `-2^63`, and
so does `truncate`. The integer part is computed exactly from the parts of the double.
-/

namespace Bindery.Decimal

def leastInt64 : Int := -(Int.pow 2 63)

/-- The integer part of a finite double, rounded toward zero. -/
def integerPart (f : Float) : Int :=
  let b := Binary.ofFloat f
  let magnitude : Nat := if b.e ≥ 0 then b.m * Nat.pow 2 b.e.toNat else b.m / Nat.pow 2 (-b.e).toNat
  if b.neg then -(magnitude : Int) else magnitude

/-- The signed 64-bit integer a double converts to: its integer part when that fits, the least
integer otherwise. -/
def truncate (f : Float) : Int :=
  if f.isNaN || f.isInf then leastInt64
  else
    let i := integerPart f
    if i < leastInt64 || i ≥ Int.pow 2 63 then leastInt64 else i

end Bindery.Decimal
