import Bindery.Time.Civil
import Bindery.Time.Layout
import Bindery.Time.Zone
import Bindery.Decimal.Shortest

/-!
# Instants

An instant is a moment, counted in seconds and nanoseconds from 1970-01-01T00:00:00Z, together
with the zone it is seen in. The zone gives, at that moment, an offset east of UTC and an
abbreviation (empty for an offset with no name). Its wall clock, the civil date and time in its
zone, gives the fields a layout writes. Two instants are the same moment when their counts agree,
whatever their zones.

`Instant.format` writes an instant by a layout; `Instant.text` is the usual form
`2006-01-02 15:04:05.999999999 -0700 MST`.
-/

namespace Bindery.Time

structure Instant where
  sec : Int
  nano : Nat
  zone : Zone
deriving BEq, Inhabited, Repr

def nanosPerSecond : Nat := 1000000000

def secondsPerDay : Int := 86400

def Instant.span (t : Instant) : ZoneSpan := t.zone.lookup t.sec

/-- The offset east of UTC of an instant's zone at that instant, in seconds. -/
def Instant.offset (t : Instant) : Int := t.span.offset

/-- The abbreviation of an instant's zone at that instant; empty for an unnamed offset. -/
def Instant.abbr (t : Instant) : String := t.span.abbr

/-- The seconds since the epoch of a wall clock read as UTC, with the nanoseconds left over.
Each part may overflow into the next larger one, as in 2021-13-01 meaning 2022-01-01 or 25:00
meaning one o'clock the next day. -/
def wallSeconds (y : Int) (month : Int) (d : Int) (h mi s : Int) (ns : Int) : Int × Nat :=
  let m0 := month - 1
  let y := y + m0 / 12
  let m := (m0 % 12 + 1).toNat
  let days := daysFromCivil y m 1 + (d - 1)
  let ns' := ns % (nanosPerSecond : Int)
  let carry := ns / (nanosPerSecond : Int)
  (days * secondsPerDay + h * 3600 + mi * 60 + s + carry, ns'.toNat)

/-- The instant of a civil date and time in a zone; parts overflow as in `wallSeconds`. -/
def Instant.ofCivil (y : Int) (month : Int) (d : Int) (h mi s : Int) (ns : Int) (zone : Zone) :
    Instant :=
  let (wall, nano) := wallSeconds y month d h mi s ns
  { sec := zone.wallToUTC wall, nano, zone }

def Instant.localSeconds (t : Instant) : Int := t.sec + t.offset

def Instant.days (t : Instant) : Int := t.localSeconds / secondsPerDay

def Instant.secondOfDay (t : Instant) : Nat := (t.localSeconds % secondsPerDay).toNat

def Instant.date (t : Instant) : Int × Nat × Nat := civilFromDays t.days

def Instant.year (t : Instant) : Int := t.date.1

def Instant.month (t : Instant) : Nat := t.date.2.1

def Instant.day (t : Instant) : Nat := t.date.2.2

def Instant.hour (t : Instant) : Nat := t.secondOfDay / 3600

def Instant.minute (t : Instant) : Nat := t.secondOfDay % 3600 / 60

def Instant.second (t : Instant) : Nat := t.secondOfDay % 60

def Instant.weekday (t : Instant) : Nat := weekdayOf t.days

def Instant.yearDay (t : Instant) : Nat :=
  let (y, m, d) := t.date
  yearDayOf y m d

def Instant.unixNanos (t : Instant) : Int := t.sec * (nanosPerSecond : Int) + t.nano

def Instant.inZone (t : Instant) (zone : Zone) : Instant := { t with zone }

def Instant.addNanos (t : Instant) (n : Int) : Instant :=
  let total := t.unixNanos + n
  { t with sec := total / (nanosPerSecond : Int), nano := (total % (nanosPerSecond : Int)).toNat }

def Instant.same (a b : Instant) : Bool := a.sec == b.sec && a.nano == b.nano

def Instant.before (a b : Instant) : Bool := a.unixNanos < b.unixNanos

/-- A natural number in decimal, padded with zeros to a width. -/
def padded (width : Nat) (n : Nat) : String :=
  let s := Decimal.natText n
  String.ofList (List.replicate (width - s.length) '0') ++ s

/-- An integer in decimal, its magnitude padded with zeros to a width. -/
def paddedInt (width : Nat) (i : Int) : String :=
  (if i < 0 then "-" else "") ++ padded width i.natAbs

/-- The digits of a fraction of a second, in a field's form: exactly `digits` of them, or at most
that many with trailing zeros and then the separator dropped. -/
def fractionText (trim : Bool) (digits : Nat) (sep : Char) (nano : Nat) : String :=
  if trim && (digits == 0 || nano == 0) then "" else
  let all := (padded 9 nano).toList.take digits
  let kept := if trim then (all.reverse.dropWhile (· == '0')).reverse else all
  if kept.isEmpty then "" else String.singleton sep ++ String.ofList kept

def offsetText (iso : Bool) (parts : OffsetParts) (colon : Bool) (offset : Int) : String :=
  if iso && offset == 0 then "Z" else
  let minutes := offset / 60
  let sign := if minutes < 0 then "-" else "+"
  let zone := minutes.natAbs
  let abs := offset.natAbs
  sign ++ padded 2 (zone / 60) ++
    (if parts != .hours then (if colon then ":" else "") ++ padded 2 (zone % 60) else "") ++
    (if parts == .seconds then (if colon then ":" else "") ++ padded 2 (abs % 60) else "")

def Instant.fieldText (t : Instant) : Field → String
  | .longMonth => monthNames.getD (t.month - 1) ""
  | .shortMonth => String.ofList ((monthNames.getD (t.month - 1) "").toList.take 3)
  | .numMonth => Decimal.natText t.month
  | .zeroMonth => padded 2 t.month
  | .longWeekday => weekdayNames.getD t.weekday ""
  | .shortWeekday => String.ofList ((weekdayNames.getD t.weekday "").toList.take 3)
  | .day => Decimal.natText t.day
  | .underDay => (if t.day < 10 then " " else "") ++ Decimal.natText t.day
  | .zeroDay => padded 2 t.day
  | .underYearDay =>
    let s := Decimal.natText t.yearDay
    String.ofList (List.replicate (3 - s.length) ' ') ++ s
  | .zeroYearDay => padded 3 t.yearDay
  | .hour => padded 2 t.hour
  | .hour12 => Decimal.natText (if t.hour % 12 == 0 then 12 else t.hour % 12)
  | .zeroHour12 => padded 2 (if t.hour % 12 == 0 then 12 else t.hour % 12)
  | .minute => Decimal.natText t.minute
  | .zeroMinute => padded 2 t.minute
  | .second => Decimal.natText t.second
  | .zeroSecond => padded 2 t.second
  | .longYear => paddedInt 4 t.year
  | .shortYear => padded 2 (t.year % 100).toNat
  | .meridiem upper =>
    if t.hour ≥ 12 then (if upper then "PM" else "pm") else (if upper then "AM" else "am")
  | .zoneName =>
    if !t.abbr.isEmpty then t.abbr
    else
      let minutes := t.offset / 60
      (if minutes < 0 then "-" else "+") ++ padded 2 (minutes.natAbs / 60) ++
        padded 2 (minutes.natAbs % 60)
  | .offset iso parts colon => offsetText iso parts colon t.offset
  | .fraction trim digits sep => fractionText trim digits sep t.nano

/-- Writes an instant by a layout, at most `fuel` fields. -/
def Instant.formatWith (t : Instant) : Nat → List Char → String
  | 0, cs => String.ofList cs
  | fuel + 1, cs =>
    match nextField cs with
    | (pre, some (f, _), post) => String.ofList pre ++ t.fieldText f ++ t.formatWith fuel post
    | (pre, none, _) => String.ofList pre

def Instant.format (t : Instant) (layout : String) : String :=
  t.formatWith (layout.length + 1) layout.toList

def Instant.text (t : Instant) : String := t.format "2006-01-02 15:04:05.999999999 -0700 MST"

def rfc3339Nano : String := "2006-01-02T15:04:05.999999999Z07:00"

def rfc3339 : String := "2006-01-02T15:04:05Z07:00"

end Bindery.Time
