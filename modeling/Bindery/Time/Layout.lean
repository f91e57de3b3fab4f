/-!
# Layouts of times

A layout writes out one reference moment, Monday, January 2 15:04:05 MST 2006 (offset -0700), in
the form wanted: each way of writing a part of that moment stands for the same part of any
moment. `nextField` finds the first such field of a layout, with the literal text before it and
the layout after it. Fields are recognised by their text, earliest first: `January` before
`Jan`, `Monday` before `Mon`, `2006` before `2`, and `Jan` or `Mon` only when no lower-case
letter follows. A fraction of a second is a point or comma followed by a run of `0`s (exactly
that many digits) or `9`s (at most that many, trailing zeros dropped) that no other digit
follows.
-/

namespace Bindery.Time

/-- How many parts a written zone offset has: hours, hours and minutes, or hours, minutes and
seconds. -/
inductive OffsetParts where
  | hours
  | minutes
  | seconds
deriving BEq, Inhabited, Repr

inductive Field where
  | longMonth
  | shortMonth
  | numMonth
  | zeroMonth
  | longWeekday
  | shortWeekday
  | day
  | underDay
  | zeroDay
  | underYearDay
  | zeroYearDay
  | hour
  | hour12
  | zeroHour12
  | minute
  | zeroMinute
  | second
  | zeroSecond
  | longYear
  | shortYear
  | meridiem (upper : Bool)
  | zoneName
  | offset (iso : Bool) (parts : OffsetParts) (colon : Bool)
  | fraction (trim : Bool) (digits : Nat) (sep : Char)
deriving BEq, Inhabited, Repr

def startsLower : List Char → Bool
  | c :: _ => 'a' ≤ c && c ≤ 'z'
  | [] => false

/-- The fields written with a leading zero, by the digit after it. -/
def zeroField : Char → Option Field
  | '1' => some .zeroMonth
  | '2' => some .zeroDay
  | '3' => some .zeroHour12
  | '4' => some .zeroMinute
  | '5' => some .zeroSecond
  | '6' => some .shortYear
  | _ => none

/-- The numeric offset fields by their text, longest first within each kind. -/
def offsetFields : List (String × Field) :=
  [("-070000", .offset false .seconds false), ("-07:00:00", .offset false .seconds true),
   ("-0700", .offset false .minutes false), ("-07:00", .offset false .minutes true),
   ("-07", .offset false .hours false),
   ("Z070000", .offset true .seconds false), ("Z07:00:00", .offset true .seconds true),
   ("Z0700", .offset true .minutes false), ("Z07:00", .offset true .minutes true),
   ("Z07", .offset true .hours false)]

/-- The field at the head of a layout, with its length, if one starts there. -/
def fieldAt (cs : List Char) : Option (Field × Nat) :=
  let starts (s : String) : Bool := s.toList.isPrefixOf cs
  match cs with
  | 'J' :: rest =>
    if starts "January" then some (.longMonth, 7)
    else if starts "Jan" && !startsLower (rest.drop 2) then some (.shortMonth, 3)
    else none
  | 'M' :: rest =>
    if starts "Monday" then some (.longWeekday, 6)
    else if starts "Mon" && !startsLower (rest.drop 2) then some (.shortWeekday, 3)
    else if starts "MST" then some (.zoneName, 3)
    else none
  | '0' :: d :: rest =>
    match zeroField d with
    | some f => some (f, 2)
    | none => if d == '0' && rest.head? == some '2' then some (.zeroYearDay, 3) else none
  | '1' :: rest => if rest.head? == some '5' then some (.hour, 2) else some (.numMonth, 1)
  | '2' :: _ => if starts "2006" then some (.longYear, 4) else some (.day, 1)
  | '_' :: rest =>
    match rest with
    | '2' :: _ => if starts "_2006" then none else some (.underDay, 2)
    | '_' :: '2' :: _ => some (.underYearDay, 3)
    | _ => none
  | '3' :: _ => some (.hour12, 1)
  | '4' :: _ => some (.minute, 1)
  | '5' :: _ => some (.second, 1)
  | 'P' :: 'M' :: _ => some (.meridiem true, 2)
  | 'p' :: 'm' :: _ => some (.meridiem false, 2)
  | '-' :: _ | 'Z' :: _ =>
    (offsetFields.find? fun (t, _) => starts t).map fun (t, f) => (f, t.length)
  | sep :: d :: rest =>
    if (sep == '.' || sep == ',') && (d == '0' || d == '9') then
      let run := (d :: rest).takeWhile (· == d)
      let after := (d :: rest).drop run.length
      if after.head?.any Char.isDigit then none
      else some (.fraction (d == '9') run.length sep, run.length + 1)
    else none
  | _ => none

/-- The first field of a layout: the literal text before it, the field with its text, and the
layout after it. A layout with no field is all literal. `_2006` is a literal underscore before a
year. -/
def nextField : List Char → List Char × Option (Field × List Char) × List Char
  | [] => ([], none, [])
  | c :: rest =>
    if c == '_' && "2006".toList.isPrefixOf rest then (['_'], some (.longYear, "2006".toList), rest.drop 4)
    else
      match fieldAt (c :: rest) with
      | some (f, n) => ([], some (f, (c :: rest).take n), (c :: rest).drop n)
      | none =>
        let (pre, found, post) := nextField rest
        (c :: pre, found, post)

end Bindery.Time
