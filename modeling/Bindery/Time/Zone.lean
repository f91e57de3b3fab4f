import Bindery.Time.Civil

/-!
# Time zones

A zone tells the local time of a place at every moment. It keeps a few kinds of local time (an
offset east of UTC in seconds, an abbreviation, and whether it is summer time) and the moments,
in increasing order, at which the place changed from one kind to another. After the last change
it records, a rule in the POSIX `TZ` form, such as `EST5EDT,M3.2.0,M11.1.0`, carries the changes
on year by year.

`Zone.lookup` finds the kind in force at a moment and the span of moments around it that it
covers. Before the first change that is the zone's first standard kind. Within the recorded
changes the span runs from one change to the next. Past the last change the rule decides, and its
span is exact near the rule's changes but may stop at the start or end of a year; that is enough
for `Zone.wallToUTC`, which turns a wall clock into a moment.

A zone with no kinds at all is UTC. A fixed zone keeps one kind from the earliest moment on.
-/

namespace Bindery.Time

/-- The earliest moment a span may start at, in seconds since the epoch. -/
def earliest : Int := -(Int.pow 2 63)

/-- The latest moment a span may end at, in seconds since the epoch. -/
def latest : Int := Int.pow 2 63 - 1

structure ZoneKind where
  offset : Int
  abbr : String
  summer : Bool
deriving BEq, Inhabited, Repr

structure Zone where
  name : String
  kinds : Array ZoneKind
  changes : Array (Int × Nat)
  rule : String
deriving BEq, Inhabited, Repr

/-- The kind of local time in force at a moment, with the span of moments it is known to cover:
from `start` up to, not including, `stop`. -/
structure ZoneSpan where
  abbr : String
  offset : Int
  start : Int
  stop : Int
  summer : Bool
deriving BEq, Inhabited, Repr

def Zone.utc : Zone := { name := "UTC", kinds := #[], changes := #[], rule := "" }

/-- A zone keeping one offset under one name at every moment. -/
def Zone.fixed (name : String) (offset : Int) : Zone :=
  { name, kinds := #[{ offset, abbr := name, summer := false }], changes := #[(earliest, 0)],
    rule := "" }

def Zone.local : Zone := { Zone.fixed "UTC" 0 with name := "Local" }

/-! ## The rule past the last change -/

/-- A name of a kind of local time at the head of a rule: three or more characters up to a
digit, a comma or a sign, or any characters between angle brackets. -/
def ruleName (s : List Char) : Option (String × List Char) :=
  match s with
  | [] => none
  | '<' :: rest =>
    if rest.contains '>' then
      some (String.ofList (rest.takeWhile (· != '>')), (rest.dropWhile (· != '>')).drop 1)
    else none
  | _ =>
    let name := s.takeWhile fun c => !(c.isDigit || c == ',' || c == '-' || c == '+')
    if name.length < 3 then none else some (String.ofList name, s.drop name.length)

/-- A decimal number at the head of a rule, within bounds. -/
def ruleNumber (s : List Char) (lo hi : Nat) : Option (Nat × List Char) :=
  let digits := s.takeWhile Char.isDigit
  let n := digits.foldl (fun n c => n * 10 + (c.toNat - '0'.toNat)) 0
  if digits.isEmpty || n < lo || n > hi then none else some (n, s.drop digits.length)

/-- A signed offset `[+-]hh[:mm[:ss]]` at the head of a rule, in seconds. -/
def ruleOffset (s : List Char) : Option (Int × List Char) := do
  let (neg, s) := match s with
    | '+' :: r => (false, r)
    | '-' :: r => (true, r)
    | _ => (false, s)
  let signed (n : Nat) : Int := if neg then -(n : Int) else n
  let (h, s) ← ruleNumber s 0 168
  match s with
  | ':' :: r =>
    let (m, s) ← ruleNumber r 0 59
    match s with
    | ':' :: r =>
      let (sec, s) ← ruleNumber r 0 59
      pure (signed (h * 3600 + m * 60 + sec), s)
    | _ => pure (signed (h * 3600 + m * 60), s)
  | _ => pure (signed (h * 3600), s)

inductive ChangeDay
  | julian (day : Nat)
  | ordinal (day : Nat)
  | weekday (month week day : Nat)
deriving BEq, Repr

/-- A change of a rule: its day and its time of day in local time, in seconds. -/
structure RuleChange where
  day : ChangeDay
  time : Int
deriving BEq, Repr

/-- A change at the head of a rule, with its time after a slash (two o'clock when there is
none). -/
def ruleChange (s : List Char) : Option (RuleChange × List Char) := do
  let (day, s) ← match s with
    | 'J' :: r => do
      let (n, r) ← ruleNumber r 1 365
      pure (ChangeDay.julian n, r)
    | 'M' :: r => do
      let (m, r) ← ruleNumber r 1 12
      let r ← match r with | '.' :: r => some r | _ => none
      let (w, r) ← ruleNumber r 1 5
      let r ← match r with | '.' :: r => some r | _ => none
      let (d, r) ← ruleNumber r 0 6
      pure (ChangeDay.weekday m w d, r)
    | _ => do
      let (n, r) ← ruleNumber s 0 365
      pure (ChangeDay.ordinal n, r)
  match s with
  | '/' :: r =>
    let (t, r) ← ruleOffset r
    pure ({ day, time := t }, r)
  | _ => pure ({ day, time := 7200 }, s)

/-- A day of a month moved on by whole weeks, at most `n` of them, while it stays within the
month's `length` days (days counted from 0). -/
def laterWeeks : Nat → Int → Int → Int
  | 0, d, _ => d
  | n + 1, d, length => if d + 7 ≥ length then d else laterWeeks n (d + 7) length

/-- The second of a year, counted from its first moment in UTC, at which a change happens, when
the local time before it is `offset` seconds east of UTC. The weekday of a month's first day comes
from Zeller's congruence. -/
def RuleChange.secondOfYear (r : RuleChange) (year : Int) (offset : Int) : Int :=
  let leap := isLeap year
  let day : Int := match r.day with
    | .julian d => (d : Int) - 1 + (if leap && d ≥ 60 then 1 else 0)
    | .ordinal d => d
    | .weekday m w d =>
      let m1 : Int := ((m + 9) % 12 + 1 : Nat)
      let yy0 : Int := if m ≤ 2 then year - 1 else year
      let yy1 := yy0.tdiv 100
      let yy2 := yy0.tmod 100
      let dow0 := ((26 * m1 - 2) / 10 + 1 + yy2 + yy2.tdiv 4 + yy1.tdiv 4 - 2 * yy1).tmod 7
      let dow := if dow0 < 0 then dow0 + 7 else dow0
      let first := (d : Int) - dow
      let first := if first < 0 then first + 7 else first
      laterWeeks (w - 1) first (daysIn m year) + (daysBefore.getD (m - 1) 0 : Nat) +
        (if leap && m > 2 then 1 else 0)
  day * 86400 + r.time - offset

/-- The kind of local time a rule gives at a moment past the last recorded change
(`lastChange`), or none when the rule does not read. The rule names standard time, its offset
west of UTC, then optionally summer time, its offset (an hour less by default) and the days it
starts and ends on (the second Sunday of March and the first of November by default). Where summer
time ends earlier in the year than it starts, the year's middle is standard time. -/
def ruleSpan (rule : String) (lastChange sec : Int) : Option ZoneSpan := do
  let (stdName, s) ← ruleName rule.toList
  let (stdWest, s) ← ruleOffset s
  let stdOffset := -stdWest
  if s.isEmpty || s.head? == some ',' then
    return { abbr := stdName, offset := stdOffset, start := lastChange, stop := latest,
             summer := false }
  let (dstName, s) ← ruleName s
  let (dstOffset, s) ← if s.isEmpty || s.head? == some ',' then some (stdOffset + 3600, s)
    else (ruleOffset s).map fun (o, s) => (-o, s)
  let s := if s.isEmpty then ",M3.2.0,M11.1.0".toList else s
  let s ← match s with
    | ',' :: r | ';' :: r => some r
    | _ => none
  let (startRule, s) ← ruleChange s
  let s ← match s with
    | ',' :: r => some r
    | _ => none
  let (endRule, s) ← ruleChange s
  if !s.isEmpty then none
  let (year, month, day) := civilFromDays (sec / 86400)
  let ysec := ((yearDayOf year month day : Int) - 1) * 86400 + sec.tmod 86400
  let yearStart := daysFromCivil year 1 1 * 86400
  let startSec := startRule.secondOfYear year stdOffset
  let endSec := endRule.secondOfYear year dstOffset
  let (startSec, endSec, stdName, dstName, stdOffset, dstOffset, stdSummer) :=
    if endSec < startSec then (endSec, startSec, dstName, stdName, dstOffset, stdOffset, true)
    else (startSec, endSec, stdName, dstName, stdOffset, dstOffset, false)
  if ysec < startSec then
    return { abbr := stdName, offset := stdOffset, start := yearStart,
             stop := startSec + yearStart, summer := stdSummer }
  else if ysec ≥ endSec then
    return { abbr := stdName, offset := stdOffset, start := endSec + yearStart,
             stop := yearStart + 365 * 86400, summer := stdSummer }
  else
    return { abbr := dstName, offset := dstOffset, start := startSec + yearStart,
             stop := endSec + yearStart, summer := !stdSummer }

/-! ## Looking up a moment -/

/-- The index of the last change at or before a moment, searching between `lo` (at or before
the moment) and `hi` (after it, or the end). -/
def lastChangeAt (changes : Array (Int × Nat)) (sec : Int) : Nat → Nat → Nat → Nat
  | 0, lo, _ => lo
  | fuel + 1, lo, hi =>
    if hi ≤ lo + 1 then lo else
    let m := (lo + hi) / 2
    match changes[m]? with
    | some (t, _) =>
      if sec < t then lastChangeAt changes sec fuel lo m else lastChangeAt changes sec fuel m hi
    | none => lo

/-- Whether the kind at an index is summer time (a missing kind counts as summer time, so it is
never chosen as standard). -/
def Zone.summerAt (z : Zone) (i : Nat) : Bool := (z.kinds[i]?.map (·.summer)).getD true

/-- The kind in force before the first change: the first kind when no change leads to it;
otherwise the last standard kind before the one the first change leads to, when that is summer
time; otherwise the first standard kind; otherwise the first kind. -/
def Zone.firstKind (z : Zone) : Nat :=
  if !z.changes.any (·.2 == 0) then 0 else
  let beforeFirst : Option Nat := match z.changes[0]? with
    | some (_, i) =>
      if z.summerAt i then (List.range i).reverse.find? fun k => !z.summerAt k else none
    | none => none
  match beforeFirst with
  | some k => k
  | none => ((List.range z.kinds.size).find? fun k => !z.summerAt k).getD 0

def Zone.spanOf (z : Zone) (i : Nat) (start stop : Int) : ZoneSpan :=
  let k := z.kinds[i]?.getD default
  { abbr := k.abbr, offset := k.offset, start, stop, summer := k.summer }

/-- The kind of local time in force at a moment, and the span it covers. -/
def Zone.lookup (z : Zone) (sec : Int) : ZoneSpan :=
  if z.kinds.isEmpty then
    { abbr := "UTC", offset := 0, start := earliest, stop := latest, summer := false }
  else
  match z.changes[0]? with
  | none => z.spanOf z.firstKind earliest latest
  | some (first, _) =>
    if sec < first then z.spanOf z.firstKind earliest first else
    let lo := lastChangeAt z.changes sec 64 0 z.changes.size
    let (start, i) := z.changes[lo]?.getD (first, 0)
    let stop := (z.changes[lo + 1]?.map (·.1)).getD latest
    let found := z.spanOf i start stop
    if lo + 1 == z.changes.size && !z.rule.isEmpty then (ruleSpan z.rule start sec).getD found
    else found

/-- The offset of a kind of local time the zone names by an abbreviation: one that was in force
when the wall clock `sec` (read as UTC) is taken in it, or else the first kind of that name. -/
def Zone.offsetOfAbbrev? (z : Zone) (name : String) (sec : Int) : Option Int :=
  let inForce := z.kinds.toList.findSome? fun k =>
    if k.abbr == name then
      let s := z.lookup (sec - k.offset)
      if s.abbr == k.abbr then some s.offset else none
    else none
  match inForce with
  | some o => some o
  | none => (z.kinds.toList.find? (·.abbr == name)).map (·.offset)

/-- The moment of a wall clock in the zone, in seconds since the epoch. The offset in force at the
wall clock read as UTC is tried first; when the moment it gives lies outside that offset's span,
the offset in force at that moment is taken instead. Near a change a wall clock may be missing or
repeated, and this picks one of its readings. -/
def Zone.wallToUTC (z : Zone) (wall : Int) : Int :=
  let s := z.lookup wall
  if s.offset == 0 then wall else
  let utc := wall - s.offset
  let offset := if utc < s.start || utc ≥ s.stop then (z.lookup utc).offset else s.offset
  wall - offset

end Bindery.Time
