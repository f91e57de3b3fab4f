import Bindery.Time.Duration

/-!
# Arithmetic of moments and durations

Durations divide toward zero, as 64-bit integers do: `durationIn` gives a duration in a unit as a
float, whole units first so that long durations keep their precision; `truncateDuration` and
`roundDuration` go to a multiple of another duration, rounding halves away from zero and staying
within the durations that can be held.

Moments count from the zero moment, 0001-01-01T00:00:00Z, when they are truncated or rounded to a
multiple of a duration. The span between two moments is clamped to the durations that can be held.
`Instant.addDate` moves the wall clock's date and lets each field overflow into the next larger
one, so that adding a month to January 31 lands in March.
-/

namespace Bindery.Time

def minDuration : Int := -(Int.pow 2 63)

def clampDuration (n : Int) : Int := max minDuration (min maxDuration n)

def durationIn (d : Int) (unit : Nat) : Float :=
  Float.ofInt (d.tdiv unit) + Float.ofInt (d.tmod unit) / unit.toFloat

/-- The absolute value of a duration; the least duration, which has no opposite, gives the
greatest. -/
def absDuration (d : Int) : Int :=
  if d ≥ 0 then d else if d == minDuration then maxDuration else -d

/-- A duration rounded toward zero to a multiple of `m`; unchanged when `m` is not positive. -/
def truncateDuration (d m : Int) : Int :=
  if m ≤ 0 then d else d - d.tmod m

/-- A duration rounded to the nearest multiple of `m`, halves away from zero; unchanged when `m`
is not positive, and the greatest (or least) duration when the multiple cannot be held. -/
def roundDuration (d m : Int) : Int :=
  if m ≤ 0 then d else
  let r : Int := (d.tmod m).natAbs
  if d < 0 then
    if r + r < m then d + r
    else if d - m + r ≥ minDuration then d - m + r else minDuration
  else
    if r + r < m then d - r
    else if d + m - r ≤ maxDuration then d + m - r else maxDuration

/-- Seconds from the zero moment, 0001-01-01T00:00:00Z, to the epoch. -/
def zeroToEpoch : Int := 62135596800

def Instant.isZero (t : Instant) : Bool := t.sec == -zeroToEpoch && t.nano == 0

/-- The span from the second moment to the first, in nanoseconds. -/
def Instant.sub (a b : Instant) : Int := clampDuration (a.unixNanos - b.unixNanos)

/-- The order of two moments: -1 when the first is earlier, 1 when it is later, 0 when they are the
same. -/
def Instant.compare (a b : Instant) : Int :=
  if a.unixNanos < b.unixNanos then -1 else if a.unixNanos > b.unixNanos then 1 else 0

def Instant.unixMillis (t : Instant) : Int := t.sec * 1000 + (t.nano / 1000000 : Nat)

def Instant.unixMicros (t : Instant) : Int := t.sec * 1000000 + (t.nano / 1000 : Nat)

/-- The moment whose wall clock is this one's with years, months and days added, in the same
zone. -/
def Instant.addDate (t : Instant) (years months days : Int) : Instant :=
  Instant.ofCivil (t.year + years) (t.month + months) (t.day + days) t.hour t.minute t.second
    t.nano t.zone

def Instant.pastMultiple (t : Instant) (d : Int) : Int :=
  ((t.sec + zeroToEpoch) * (nanosPerSecond : Int) + t.nano) % d

/-- A moment rounded down to a multiple of a duration since the zero moment; unchanged when the
duration is not positive. -/
def Instant.truncate (t : Instant) (d : Int) : Instant :=
  if d ≤ 0 then t else t.addNanos (-t.pastMultiple d)

/-- A moment rounded to the nearest multiple of a duration since the zero moment, halves up;
unchanged when the duration is not positive. -/
def Instant.round (t : Instant) (d : Int) : Instant :=
  if d ≤ 0 then t else
  let r := t.pastMultiple d
  if r + r < d then t.addNanos (-r) else t.addNanos (d - r)

end Bindery.Time
