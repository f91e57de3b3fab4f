import Bindery.Time.Parse

/-!
# Durations

A duration is a signed number of nanoseconds that fits in 64 bits. `parseDuration` reads the
form `[-+]?([0-9]*(\.[0-9]*)?[a-z]+)+`, a sum of decimal numbers each with a unit (`ns`, `us`,
`µs`, `μs`, `ms`, `s`, `m`, `h`); a fraction is scaled to nanoseconds through a double, as the
host does, so `1.1h` is exact to the nanosecond. `durationText` writes the largest units first,
`1h30m0s`, with a fraction of a second when there is one, and durations under a second in the
largest unit that keeps them at least one (`1.5ms`, `2µs`, `7ns`), zero as `0s`.
-/

namespace Bindery.Time

def maxDuration : Int := Int.pow 2 63 - 1

def durationUnits : List (String × Nat) :=
  [("ns", 1), ("us", 1000), ("µs", 1000), ("μs", 1000), ("ms", 1000000),
   ("s", 1000000000), ("m", 60000000000), ("h", 3600000000000)]

def leadingInt (cs : List Char) : Option (Nat × List Char) :=
  let ds := cs.takeWhile Char.isDigit
  let rec go : List Char → Nat → Option Nat
    | [], x => some x
    | c :: rest, x =>
      if x > Nat.pow 2 63 / 10 then none else
      let y := x * 10 + (c.toNat - 48)
      if y > Nat.pow 2 63 then none else go rest y
  (go ds 0).map fun x => (x, cs.drop ds.length)

/-- Reads leading digits of a fraction: its digits' value and ten to the number of digits kept,
as a double; digits past 63 bits of precision are skipped. -/
def leadingFraction (cs : List Char) : Nat × Float × List Char :=
  let ds := cs.takeWhile Char.isDigit
  let rec go : List Char → Nat → Float → Bool → Nat × Float
    | [], x, scale, _ => (x, scale)
    | c :: rest, x, scale, overflow =>
      if overflow then go rest x scale true
      else if x > (Nat.pow 2 63 - 1) / 10 then go rest x scale true
      else
        let y := x * 10 + (c.toNat - 48)
        if y > Nat.pow 2 63 then go rest x scale true else go rest y (scale * 10) false
  let (x, scale) := go ds 0 1 false
  (x, scale, cs.drop ds.length)

def invalidDuration (orig : String) : String := "time: invalid duration " ++ timeQuote orig

/-- Reads the terms of a duration after its sign, adding them up; at most `fuel` terms. -/
def durationTerms (orig : String) : Nat → List Char → Nat → Except String Nat
  | 0, _, total => .ok total
  | _, [], total => .ok total
  | fuel + 1, c :: rest, total => do
    let cs := c :: rest
    if !(c == '.' || c.isDigit) then throw (invalidDuration orig)
    let some (v, cs') := leadingInt cs | throw (invalidDuration orig)
    let pre := cs'.length != cs.length
    let (f, scale, cs'', post) := match cs' with
      | '.' :: more =>
        let (f, scale, after) := leadingFraction more
        (f, scale, after, after.length != more.length)
      | _ => (0, 1, cs', false)
    if !pre && !post then throw (invalidDuration orig)
    let unitChars := cs''.takeWhile fun c => !(c == '.' || c.isDigit)
    if unitChars.isEmpty then throw ("time: missing unit in duration " ++ timeQuote orig)
    let u := String.ofList unitChars
    let after := cs''.drop unitChars.length
    let some (_, unit) := durationUnits.find? (·.1 == u)
      | throw ("time: unknown unit " ++ timeQuote u ++ " in duration " ++ timeQuote orig)
    if v > Nat.pow 2 63 / unit then throw (invalidDuration orig)
    let v := v * unit
    let v := if f > 0 then v + (Float.ofNat f * (Float.ofNat unit / scale)).toUInt64.toNat else v
    if v > Nat.pow 2 63 then throw (invalidDuration orig)
    let total := total + v
    if total > Nat.pow 2 63 then throw (invalidDuration orig)
    durationTerms orig fuel after total

def parseDuration (s : String) : Except String Int := do
  let cs := s.toList
  let (neg, body) := match cs with
    | '-' :: rest => (true, rest)
    | '+' :: rest => (false, rest)
    | rest => (false, rest)
  if body == ['0'] then return 0
  if body.isEmpty then throw (invalidDuration s)
  let total ← durationTerms s (body.length + 1) body 0
  if neg then return -(total : Int)
  if (total : Int) > maxDuration then throw (invalidDuration s)
  return total

/-- The digits of `v` below `10^prec`, as a fraction with trailing zeros (and the point, when
nothing is left) dropped; with `v / 10^prec`. -/
def fractionDigits (v : Nat) (prec : Nat) : String × Nat :=
  let digits := (padded prec (v % Nat.pow 10 prec)).toList
  let kept := (digits.reverse.dropWhile (· == '0')).reverse
  ((if kept.isEmpty then "" else "." ++ String.ofList kept), v / Nat.pow 10 prec)

def durationText (d : Int) : String :=
  let u := d.natAbs
  let sign := if d < 0 then "-" else ""
  if u == 0 then "0s"
  else if u < 1000000000 then
    let (prec, unit) :=
      if u < 1000 then (0, "ns") else if u < 1000000 then (3, "µs") else (6, "ms")
    let (frac, whole) := fractionDigits u prec
    sign ++ Decimal.natText whole ++ frac ++ unit
  else
    let (frac, secs) := fractionDigits u 9
    let mins := secs / 60
    let hours := mins / 60
    sign ++ (if hours > 0 then Decimal.natText hours ++ "h" else "") ++
      (if mins > 0 then Decimal.natText (mins % 60) ++ "m" else "") ++
      Decimal.natText (secs % 60) ++ frac ++ "s"

end Bindery.Time
