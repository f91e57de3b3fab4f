import Bindery.Decimal.Shortest

/-!
# Laying out shortest digits

The shortest digits of a double are written positionally when the decimal exponent lies in a
window, and in exponent form otherwise. `Layout` holds the decisions of one output format; the
runtime's number text (`Layout.plainText`) and the answer format (`Layout.answer`) differ only in
whether a whole number keeps a `.0`; `Layout.fixed` never uses exponent form.
-/

namespace Bindery.Decimal

structure Layout where
  leastPlain : Int
  firstExponent : Int
  exponentDigits : Nat
  keepPointZero : Bool
  nanText : String
  posInfText : String
  negInfText : String

/-- Numbers in messages and printed values: positional from `1e-4` up to below `1e6`, an exponent of
at least two digits with its sign otherwise. -/
def Layout.plainText : Layout :=
  ⟨-4, 6, 2, false, "NaN", "+Inf", "-Inf"⟩

/-- Numbers in answers: as in messages, and a whole number keeps `.0` so that it reads back as a
float. -/
def Layout.answer : Layout :=
  { Layout.plainText with keepPointZero := true }

/-- Numbers written positionally whatever their size, as the shortest digits that read back. -/
def Layout.fixed : Layout :=
  { Layout.plainText with leastPlain := -400, firstExponent := 400 }

def padLeft (n : Nat) (s : String) : String :=
  String.ofList (List.replicate (n - s.length) '0') ++ s

def Layout.digits (l : Layout) (neg : Bool) (c : Nat) (k : Int) : String :=
  let ds := digitsOf c
  let n := ds.length
  -- decimal exponent of the leading digit
  let x : Int := k + n - 1
  let sign := if neg then "-" else ""
  if c == 0 then sign ++ (if l.keepPointZero then "0.0" else "0") else
  if x < l.leastPlain || x ≥ l.firstExponent then
    let mant := match ds with
      | [] => "0"
      | [d] => String.ofList [d]
      | d :: rest => String.ofList (d :: '.' :: rest)
    let esign := if x < 0 then "-" else "+"
    sign ++ mant ++ "e" ++ esign ++ padLeft l.exponentDigits (natText x.natAbs)
  else if k ≥ 0 then
    sign ++ String.ofList ds ++ String.ofList (List.replicate k.toNat '0') ++
      (if l.keepPointZero then ".0" else "")
  else
    let point := n - k.natAbs
    if (point : Int) > 0 then
      sign ++ String.ofList (ds.take point) ++ "." ++ String.ofList (ds.drop point)
    else
      sign ++ "0." ++ String.ofList (List.replicate (k.natAbs - n) '0') ++ String.ofList ds

def Layout.float (l : Layout) (f : Float) : String :=
  if f.isNaN then l.nanText
  else if f.isInf then (if f > 0 then l.posInfText else l.negInfText)
  else
    let b := Binary.ofFloat f
    let (c, k) := shortest b
    l.digits b.neg c k

end Bindery.Decimal
