import Bindery.Expr.Machine
import Bindery.Time.Arith
import Bindery.Time.ZoneLoad

/-!
# Moments and durations in the dynamic expression language

`duration` reads a duration text and `timezone` loads a zone by name. `date` reads a moment: by the
layout it is given, in the zone it is given (by name after the layout, or as a zone before the
text), or, with no layout, by the first of a fixed list of common layouts that reads the whole
text (a date, a clock time, both, and the RFC 3339, 822, 850 and 1123 forms). Zones load from the
time zone database; the local zone keeps UTC.

A moment has methods telling its wall clock's fields and its zone, writing it by a layout, moving
it by a duration or by years, months and days, seeing it in another zone, comparing it with
another moment and truncating or rounding it. A duration tells its length in hours, minutes and seconds (as floats) or in
milliseconds, microseconds and nanoseconds (as integers), writes itself, and rounds. Months and
days of the week write their names.
-/

namespace Bindery.Expr

/-- The layouts `date` tries, in order, when it is given none. -/
def dateLayouts : List String :=
  ["2006-01-02", "15:04:05", "2006-01-02 15:04:05", "2006-01-02T15:04:05Z07:00",
   "02 Jan 06 15:04 MST", "Monday, 02-Jan-06 15:04:05 MST", "Mon, 02 Jan 2006 15:04:05 MST"]

/-- Reads a moment from the arguments of `date`: an optional zone, a text, then an optional
layout and zone name. Without a zone the text is read in UTC. -/
def dateOf (pos : Nat) (args : List Value) : EvalM Value := do
  let (zone, args) := match args with
    | .zone z :: rest => (z, rest)
    | _ => (Time.Zone.utc, args)
  match args with
  | [] => failAt pos "runtime error: index out of range [0] with length 0"
  | v :: rest =>
    let text ← textOf pos v
    match rest with
    | [l] =>
      let layout ← textOf pos l
      pure (.time (← orFail pos (Time.parseTimeIn layout text zone)))
    | [l, z] =>
      let layout ← textOf pos l
      let zone ← orFail pos (Time.loadZone (← textOf pos z))
      pure (.time (← orFail pos (Time.parseTimeIn layout text zone)))
    | _ =>
      match dateLayouts.findSome? fun layout => (Time.parseTimeIn layout text zone).toOption with
      | some t => pure (.time t)
      | none => failAt pos ("invalid date " ++ text)

def timezoneOf (pos : Nat) (v : Value) : EvalM Value := do
  pure (.zone (← orFail pos (Time.loadZone (← textOf pos v))))

/-- A duration argument of a method: a duration, or an integer taken as one. -/
def durationArg (pos : Nat) (v : Value) : EvalM Int :=
  match v with
  | .duration d | .int d => pure d
  | other => failAt pos ("reflect: Call using " ++ other.typeName ++ " as type time.Duration")

def instantArg (pos : Nat) (v : Value) : EvalM Time.Instant :=
  match v with
  | .time t => pure t
  | other => failAt pos ("reflect: Call using " ++ other.typeName ++ " as type time.Time")

def zoneArg (pos : Nat) (v : Value) : EvalM Time.Zone :=
  match v with
  | .zone z => pure z
  | .nil => failAt pos "time: missing Location in call to Time.In"
  | other => failAt pos ("reflect: Call using " ++ other.typeName ++ " as type *time.Location")

def intArg (pos : Nat) (v : Value) : EvalM Int :=
  match v with
  | .int i => pure i
  | other => failAt pos ("reflect: Call using " ++ other.typeName ++ " as type int")

def instantMethod? (pos : Nat) (t : Time.Instant) (name : String) (args : List Value) :
    Option (EvalM Value) :=
  match name, args with
  | "Year", [] => some (pure (.int t.year))
  | "Month", [] => some (pure (.named "time.Month" t.month))
  | "Day", [] => some (pure (.int t.day))
  | "Hour", [] => some (pure (.int t.hour))
  | "Minute", [] => some (pure (.int t.minute))
  | "Second", [] => some (pure (.int t.second))
  | "Nanosecond", [] => some (pure (.int t.nano))
  | "YearDay", [] => some (pure (.int t.yearDay))
  | "Weekday", [] => some (pure (.named "time.Weekday" t.weekday))
  | "Unix", [] => some (pure (.int t.sec))
  | "UnixMilli", [] => some (pure (.int t.unixMillis))
  | "UnixMicro", [] => some (pure (.int t.unixMicros))
  | "UnixNano", [] => some (pure (.int t.unixNanos))
  | "Format", [l] => some do pure (.str (t.format (← textOf pos l)))
  | "String", [] => some (pure (.str t.text))
  | "Add", [d] => some do pure (.time (t.addNanos (← durationArg pos d)))
  | "Sub", [u] => some do pure (.duration (t.sub (← instantArg pos u)))
  | "AddDate", [y, m, d] => some do
    pure (.time (t.addDate (← intArg pos y) (← intArg pos m) (← intArg pos d)))
  | "Before", [u] => some do pure (.bool (t.before (← instantArg pos u)))
  | "After", [u] => some do pure (.bool ((← instantArg pos u).before t))
  | "Equal", [u] => some do pure (.bool (t.same (← instantArg pos u)))
  | "Compare", [u] => some do pure (.int (t.compare (← instantArg pos u)))
  | "IsZero", [] => some (pure (.bool t.isZero))
  | "UTC", [] => some (pure (.time (t.inZone Time.Zone.utc)))
  | "Local", [] => some (pure (.time (t.inZone Time.Zone.local)))
  | "In", [z] => some do pure (.time (t.inZone (← zoneArg pos z)))
  | "Location", [] => some (pure (.zone t.zone))
  | "Truncate", [d] => some do pure (.time (t.truncate (← durationArg pos d)))
  | "Round", [d] => some do pure (.time (t.round (← durationArg pos d)))
  | _, _ => none

def durationMethod? (pos : Nat) (d : Int) (name : String) (args : List Value) :
    Option (EvalM Value) :=
  match name, args with
  | "Hours", [] => some (pure (.float (Time.durationIn d 3600000000000)))
  | "Minutes", [] => some (pure (.float (Time.durationIn d 60000000000)))
  | "Seconds", [] => some (pure (.float (Time.durationIn d 1000000000)))
  | "Milliseconds", [] => some (pure (.int (d.tdiv 1000000)))
  | "Microseconds", [] => some (pure (.int (d.tdiv 1000)))
  | "Nanoseconds", [] => some (pure (.int d))
  | "String", [] => some (pure (.str (Time.durationText d)))
  | "Abs", [] => some (pure (.duration (Time.absDuration d)))
  | "Round", [m] => some do pure (.duration (Time.roundDuration d (← durationArg pos m)))
  | "Truncate", [m] => some do pure (.duration (Time.truncateDuration d (← durationArg pos m)))
  | _, _ => none

/-- Calls a method of a moment, a duration, a month, a day of the week or a zone; none when the
value has no such method. -/
def methodCall? (pos : Nat) (base : Value) (name : String) (args : List Value) :
    Option (EvalM Value) :=
  match base with
  | .time t => instantMethod? pos t name args
  | .duration d => durationMethod? pos d name args
  | .named type i =>
    if type != "int64" && name == "String" && args.isEmpty then some (pure (.str (namedText type i)))
    else none
  | .zone z => if name == "String" && args.isEmpty then some (pure (.str z.name)) else none
  | _ => none

end Bindery.Expr
