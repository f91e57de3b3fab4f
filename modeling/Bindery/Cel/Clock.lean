import Bindery.Cel.Val
import Bindery.Text.Quoted
import Bindery.Time.ZoneLoad

/-!
# Timestamps and durations of the typed expression language

`timestamp` reads RFC 3339 text, keeping the text's offset, or counts seconds from the epoch in
UTC; a timestamp lies within the years 1 to 9999. `duration` reads a duration text. A text that
does not read is a conversion error naming the target type.

A timestamp's accessors read its wall clock, in its own zone or in the one named by an optional
argument: a zone of the time zone database (or UTC, or the local zone, which keeps UTC), or an
offset `±hh:mm`. Months, days of the
month and days of the year count from zero, except `getDate`, the day of the month from one. A
duration's accessors give its length in whole units, rounded toward zero.
-/

namespace Bindery.Cel

/-- The first second since the epoch a timestamp may hold: the start of year 1. -/
def minTimestampSeconds : Int := -62135596800

/-- The last second since the epoch a timestamp may hold: the end of year 9999. -/
def maxTimestampSeconds : Int := 253402300799

/-- A timestamp, or an overflow when it lies outside the years 1 to 9999. -/
def checkedTimestamp (t : Time.Instant) : Val :=
  if t.sec < minTimestampSeconds || t.sec > maxTimestampSeconds then .err "timestamp overflow"
  else .timestamp t

def timestampOfText (s : String) : Val :=
  match Time.parseTime Time.rfc3339 s with
  | .ok t => checkedTimestamp t
  | .error _ => conversionError "string" "google.protobuf.Timestamp"

/-- The timestamp a number of seconds after the epoch, in UTC. -/
def timestampOfSeconds (n : Int) : Val :=
  checkedTimestamp { sec := n, nano := 0, zone := Time.Zone.utc }

def durationOfText (s : String) : Val :=
  match Time.parseDuration s with
  | .ok d => .duration d
  | .error _ => conversionError "string" "google.protobuf.Duration"

/-- The integer of a decimal text with an optional sign, or the reader's complaint. -/
def readWhole (s : String) : Except String Int :=
  let bad (why : String) : Except String Int :=
    .error ("strconv.Atoi: parsing " ++ Text.quoted s ++ ": " ++ why)
  let (neg, digits) := match s.toList with
    | '-' :: rest => (true, rest)
    | '+' :: rest => (false, rest)
    | cs => (false, cs)
  if digits.isEmpty || !digits.all Char.isDigit then bad "invalid syntax" else
  let n : Int := Decimal.decimalValue digits
  let v := if neg then -n else n
  if v < minInt || v > maxInt then bad "value out of range" else .ok v

/-- The zone of a zone argument: a zone name, or an offset `±hh:mm` in hours and minutes. -/
def zoneOfArgument (tz : String) : Except String Time.Zone := do
  let cs := tz.toList
  if !cs.contains ':' then return ← Time.loadZone tz
  let hr ← readWhole (String.ofList (cs.takeWhile (· != ':')))
  let mi ← readWhole (String.ofList ((cs.dropWhile (· != ':')).drop 1))
  let minutes := if cs.head? == some '-' then hr * 60 - mi else hr * 60 + mi
  return Time.Zone.fixed "" (minutes * 60)

def timestampField? (name : String) (t : Time.Instant) : Option Val :=
  match name with
  | "getFullYear" => some (.int t.year)
  | "getMonth" => some (.int (t.month - 1 : Nat))
  | "getDayOfYear" => some (.int (t.yearDay - 1 : Nat))
  | "getDayOfMonth" => some (.int (t.day - 1 : Nat))
  | "getDate" => some (.int t.day)
  | "getDayOfWeek" => some (.int t.weekday)
  | "getHours" => some (.int t.hour)
  | "getMinutes" => some (.int t.minute)
  | "getSeconds" => some (.int t.second)
  | "getMilliseconds" => some (.int (t.nano / 1000000 : Nat))
  | _ => none

def durationField? (name : String) (d : Int) : Option Val :=
  match name with
  | "getHours" => some (.int (d.tdiv 3600000000000))
  | "getMinutes" => some (.int (d.tdiv 60000000000))
  | "getSeconds" => some (.int (d.tdiv 1000000000))
  | "getMilliseconds" => some (.int (d.tdiv 1000000))
  | _ => none

/-- Applies a timestamp or duration function: the conversions `timestamp` and `duration`, and the
accessors; none when the function does not apply to the operands. -/
def applyClock? (fn : String) (vals : List Val) : Option Val :=
  match fn, vals with
  | "timestamp", [.str s] => some (timestampOfText s)
  | "timestamp", [.int n] => some (timestampOfSeconds n)
  | "timestamp", [.timestamp t] => some (.timestamp t)
  | "duration", [.str s] => some (durationOfText s)
  | "duration", [.duration d] => some (.duration d)
  | name, [.timestamp t] => timestampField? name t
  | name, [.timestamp t, .str tz] =>
    (timestampField? name t).map fun _ =>
      match zoneOfArgument tz with
      | .ok zone => (timestampField? name (t.inZone zone)).getD noOverload
      | .error m => .err m
  | name, [.timestamp t, _] => (timestampField? name t).map fun _ => noOverload
  | name, [.duration d] => durationField? name d
  | _, _ => none

end Bindery.Cel
