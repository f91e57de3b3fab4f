import Bindery.Time.Instant

/-!
# Reading times by a layout

`parseTime layout value` reads a time written in the form a layout shows. Literal text of the
layout must appear as it is, except that a run of blanks matches any run of blanks. Each field
reads its part: numbers of one or two digits (exactly two for the zero-padded fields, up to three
for days of the year), month and weekday names in any case, `AM`/`PM`, zone offsets, zone
abbreviations (three to five capitals, `GMT` with an hour offset, or a signed hour offset), and
fractions of a second; a fraction may also follow the seconds when the layout has none. Weekdays
are read but not checked against the date.

The parts are then checked: months 1 to 12, hours below 24 (below 13 on a twelve-hour clock),
minutes and seconds below 60, the day within its month, a day of the year within its year and
agreeing with the month and day when they are given. A missing year is year 0, a missing month
January and a missing day the first. An offset or abbreviation read decides the zone, as
`parseTimeIn` says; otherwise the time is a wall clock in the zone it is read in, UTC for
`parseTime`.

A failure is reported the way the host reports it: `parsing time "value" as "layout": cannot
parse "rest" as "field"` for text that does not fit, `parsing time "value": month out of range`
and the like for parts out of range, and `... extra text: "rest"` for text left over.
-/

namespace Bindery.Time

/-- A text quoted for a time message: between double quotes, with quotes and backslashes escaped
and every byte of a character outside printable ASCII written as `\xhh`. -/
def timeQuote (s : String) : String :=
  let hex (n : Nat) : String :=
    let d (k : Nat) : Char := if k < 10 then Char.ofNat (48 + k) else Char.ofNat (87 + k)
    "\\x" ++ String.singleton (d (n / 16)) ++ String.singleton (d (n % 16))
  let one (c : Char) : String :=
    if c.toNat ≥ 0x80 || c.toNat < 0x20 then
      String.join ((String.singleton c).toUTF8.toList.map fun b => hex b.toNat)
    else if c == '"' || c == '\\' then "\\" ++ String.singleton c
    else String.singleton c
  "\"" ++ String.join (s.toList.map one) ++ "\""

structure Reading where
  year : Int := 0
  month : Int := -1
  day : Int := -1
  yearDay : Int := -1
  hour : Int := 0
  minute : Int := 0
  second : Int := 0
  nano : Int := 0
  utc : Bool := false
  zoneOffset : Option Int := none
  zoneName : String := ""
  am : Bool := false
  pm : Bool := false
deriving Inhabited

def digitValue (c : Char) : Int := (c.toNat : Int) - 48

/-- A number of one or two digits at the head of a text (exactly two when `fixed`). -/
def getNum (cs : List Char) (fixed : Bool) : Option (Int × List Char) :=
  match cs with
  | a :: b :: rest =>
    if !a.isDigit then none
    else if b.isDigit then some (digitValue a * 10 + digitValue b, rest)
    else if fixed then none else some (digitValue a, b :: rest)
  | [a] => if a.isDigit && !fixed then some (digitValue a, []) else none
  | [] => none

/-- A number of one to three digits at the head of a text (exactly three when `fixed`). -/
def getNum3 (cs : List Char) (fixed : Bool) : Option (Int × List Char) :=
  let ds := (cs.take 3).takeWhile Char.isDigit
  if ds.isEmpty || (fixed && ds.length != 3) then none
  else some (ds.foldl (fun n c => n * 10 + digitValue c) 0, cs.drop ds.length)

/-- The integer a short text holds: an optional sign, then digits only. -/
def smallInt (cs : List Char) : Option Int :=
  let (neg, ds) := match cs with
    | '-' :: r => (true, r)
    | '+' :: r => (false, r)
    | r => (false, r)
  if ds.isEmpty || !ds.all Char.isDigit then none
  else
    let n := ds.foldl (fun n c => n * 10 + digitValue c) 0
    some (if neg then -n else n)

/-- Whether two texts of one length agree, ignoring the case of ASCII letters. -/
def sameIgnoringCase (a b : List Char) : Bool :=
  a.length == b.length && (a.zip b).all fun (x, y) =>
    x == y || (x.toNat ||| 0x20 == y.toNat ||| 0x20 && 'a'.toNat ≤ x.toNat ||| 0x20 &&
      x.toNat ||| 0x20 ≤ 'z'.toNat)

/-- The index of the first name that begins a text, ignoring case, with the text after it. -/
def lookupName (names : List String) (cs : List Char) : Option (Nat × List Char) :=
  (names.zipIdx.find? fun (n, _) => sameIgnoringCase (cs.take n.length) n.toList).map
    fun (n, i) => (i, cs.drop n.length)

/-- The length of a signed hour offset of at most 23 at the head of a text, 0 when there is
none. -/
def signedOffsetLength : List Char → Nat
  | s :: rest =>
    if s != '+' && s != '-' then 0 else
    let ds := rest.takeWhile Char.isDigit
    if ds.isEmpty || ds.foldl (fun n c => n * 10 + (c.toNat - 48)) 0 > 23 then 0
    else 1 + ds.length
  | [] => 0

/-- The length of a zone abbreviation at the head of a text, if one is there. -/
def zoneNameLength (cs : List Char) : Option Nat :=
  if cs.length < 3 then none
  else if "ChST".toList.isPrefixOf cs || "MeST".toList.isPrefixOf cs then some 4
  else if "GMT".toList.isPrefixOf cs then
    some (3 + (if cs.length == 3 then 0 else signedOffsetLength (cs.drop 3)))
  else match cs with
    | c :: _ =>
      if c == '+' || c == '-' then
        let n := signedOffsetLength cs
        if n > 0 then some n else none
      else
        let upper := ((cs.take 6).takeWhile fun c => 'A' ≤ c && c ≤ 'Z').length
        match upper with
        | 3 => some 3
        | 4 => if cs[3]? == some 'T' || "WITA".toList.isPrefixOf cs then some 4 else none
        | 5 => if cs[4]? == some 'T' then some 5 else none
        | _ => none
    | [] => none

/-- Matches the literal text of a layout: a run of blanks matches any run of blanks, anything
else itself. On failure, the text left where matching stopped. Each step takes at least one
character of the literal, so its length bounds the steps. -/
def skipLiteralFor : Nat → List Char → List Char → Except (List Char) (List Char)
  | 0, _, value => .ok value
  | _, [], value => .ok value
  | fuel + 1, ' ' :: pre, value =>
    match value with
    | c :: _ =>
      if c != ' ' then .error value
      else skipLiteralFor fuel (pre.dropWhile (· == ' ')) (value.dropWhile (· == ' '))
    | [] => skipLiteralFor fuel (pre.dropWhile (· == ' ')) []
  | fuel + 1, p :: pre, value =>
    match value with
    | c :: rest => if c == p then skipLiteralFor fuel pre rest else .error value
    | [] => .error value

def skipLiteral (pre value : List Char) : Except (List Char) (List Char) :=
  skipLiteralFor (pre.length + 1) pre value

/-- Nanoseconds of a fraction written with its separator in the first `n` characters of a text;
only the first nine digits count. -/
def fractionNanos (cs : List Char) (n : Nat) : Option Int :=
  match cs with
  | sep :: rest =>
    if sep != '.' && sep != ',' then none else
    let n := min n 10
    let ds := rest.take (n - 1)
    if ds.length != n - 1 || !ds.all Char.isDigit then none
    else some (ds.foldl (fun v c => v * 10 + digitValue c) 0 * Int.pow 10 (10 - n))
  | [] => none

/-- Why one field could not be read: the text does not fit, or a part is out of range. -/
inductive FieldFault where
  | bad
  | range (what : String)

/-- The next field of a layout after its literal text, if any. -/
def nextFieldOf (layout : List Char) : Option Field := (nextField layout).2.1.map (·.1)

/-- Reads a numeric zone offset in a form, with its sign. -/
def readOffset (parts : OffsetParts) (colon : Bool) (cs : List Char) :
    Except FieldFault (Int × List Char) := do
  let (sign, h, m, s, rest) ← match parts, colon with
    | .minutes, true =>
      if cs.length < 6 || cs[3]? != some ':' then .error .bad
      else pure (cs.take 1, (cs.drop 1).take 2, (cs.drop 4).take 2, ['0', '0'], cs.drop 6)
    | .hours, _ =>
      if cs.length < 3 then .error .bad
      else pure (cs.take 1, (cs.drop 1).take 2, ['0', '0'], ['0', '0'], cs.drop 3)
    | .seconds, true =>
      if cs.length < 9 || cs[3]? != some ':' || cs[6]? != some ':' then .error .bad
      else pure (cs.take 1, (cs.drop 1).take 2, (cs.drop 4).take 2, (cs.drop 7).take 2, cs.drop 9)
    | .seconds, false =>
      if cs.length < 7 then .error .bad
      else pure (cs.take 1, (cs.drop 1).take 2, (cs.drop 3).take 2, (cs.drop 5).take 2, cs.drop 7)
    | .minutes, false =>
      if cs.length < 5 then .error .bad
      else pure (cs.take 1, (cs.drop 1).take 2, (cs.drop 3).take 2, ['0', '0'], cs.drop 5)
  let num (ds : List Char) : Except FieldFault Int :=
    match getNum ds true with
    | some (v, _) => .ok v
    | none => .error .bad
  let hr ← num h
  let mm ← num m
  let ss ← num s
  let total := (hr * 60 + mm) * 60 + ss
  let signed ← match sign with
    | ['+'] => pure total
    | ['-'] => pure (-total)
    | _ => .error .bad
  if hr > 24 then .error (.range "time zone offset hour")
  else if mm > 60 then .error (.range "time zone offset minute")
  else if ss > 60 then .error (.range "time zone offset second")
  else pure (signed, rest)

/-- Reads one field from the head of a text; `after` is the layout after the field. -/
def readField (r : Reading) (f : Field) (after : List Char) (value : List Char) :
    Except FieldFault (Reading × List Char) :=
  let need {α : Type} (x : Option α) : Except FieldFault α :=
    match x with
    | some v => .ok v
    | none => .error .bad
  match f with
  | .shortYear => do
    if value.length < 2 then .error .bad
    let y ← need (smallInt (value.take 2))
    pure ({ r with year := if y ≥ 69 then y + 1900 else y + 2000 }, value.drop 2)
  | .longYear => do
    if value.length < 4 || !(value.head?.any Char.isDigit) then .error .bad
    let y ← need (smallInt (value.take 4))
    pure ({ r with year := y }, value.drop 4)
  | .shortMonth => do
    let (i, rest) ← need (lookupName (monthNames.map fun n => String.ofList (n.toList.take 3)) value)
    pure ({ r with month := i + 1 }, rest)
  | .longMonth => do
    let (i, rest) ← need (lookupName monthNames value)
    pure ({ r with month := i + 1 }, rest)
  | .numMonth | .zeroMonth => do
    let (m, rest) ← need (getNum value (f == .zeroMonth))
    if m ≤ 0 || 12 < m then .error (.range "month")
    pure ({ r with month := m }, rest)
  | .shortWeekday => do
    let (_, rest) ← need (lookupName (weekdayNames.map fun n => String.ofList (n.toList.take 3)) value)
    pure (r, rest)
  | .longWeekday => do
    let (_, rest) ← need (lookupName weekdayNames value)
    pure (r, rest)
  | .day | .underDay | .zeroDay => do
    let value := if f == .underDay && value.head? == some ' ' then value.drop 1 else value
    let (d, rest) ← need (getNum value (f == .zeroDay))
    pure ({ r with day := d }, rest)
  | .underYearDay | .zeroYearDay => do
    let value := if f == .underYearDay then
        (if value.head? == some ' ' then value.drop 1 else value) |> fun v =>
          if v.head? == some ' ' then v.drop 1 else v
      else value
    let (d, rest) ← need (getNum3 value (f == .zeroYearDay))
    pure ({ r with yearDay := d }, rest)
  | .hour => do
    let (h, rest) ← need (getNum value false)
    if h < 0 || 24 ≤ h then .error (.range "hour")
    pure ({ r with hour := h }, rest)
  | .hour12 | .zeroHour12 => do
    let (h, rest) ← need (getNum value (f == .zeroHour12))
    if h < 0 || 12 < h then .error (.range "hour")
    pure ({ r with hour := h }, rest)
  | .minute | .zeroMinute => do
    let (m, rest) ← need (getNum value (f == .zeroMinute))
    if m < 0 || 60 ≤ m then .error (.range "minute")
    pure ({ r with minute := m }, rest)
  | .second | .zeroSecond => do
    let (s, rest) ← need (getNum value (f == .zeroSecond))
    if s < 0 || 60 ≤ s then .error (.range "second")
    let r := { r with second := s }
    match rest with
    | sep :: d :: _ =>
      if (sep == '.' || sep == ',') && d.isDigit then
        match nextFieldOf after with
        | some (.fraction ..) => pure (r, rest)
        | _ =>
          let n := 1 + ((rest.drop 1).takeWhile Char.isDigit).length
          let ns ← need (fractionNanos rest n)
          pure ({ r with nano := ns }, rest.drop n)
      else pure (r, rest)
    | _ => pure (r, rest)
  | .meridiem upper => do
    if value.length < 2 then .error .bad
    let word := String.ofList (value.take 2)
    let (pmWord, amWord) := if upper then ("PM", "AM") else ("pm", "am")
    if word == pmWord then pure ({ r with pm := true }, value.drop 2)
    else if word == amWord then pure ({ r with am := true }, value.drop 2)
    else .error .bad
  | .offset iso parts colon => do
    if iso && value.head? == some 'Z' then pure ({ r with utc := true }, value.drop 1)
    else
      let (off, rest) ← readOffset parts colon value
      pure ({ r with zoneOffset := some off }, rest)
  | .zoneName => do
    if "UTC".toList.isPrefixOf value then pure ({ r with utc := true }, value.drop 3)
    else
      let n ← need (zoneNameLength value)
      pure ({ r with zoneName := String.ofList (value.take n) }, value.drop n)
  | .fraction trim digits _ => do
    if !trim then
      let n := 1 + digits
      if value.length < n then .error .bad
      let ns ← need (fractionNanos value n)
      pure ({ r with nano := ns }, value.drop n)
    else
      match value with
      | sep :: d :: _ =>
        if (sep == '.' || sep == ',') && d.isDigit then
          let n := 1 + ((value.drop 1).takeWhile Char.isDigit).length
          let ns ← need (fractionNanos value n)
          pure ({ r with nano := ns }, value.drop n)
        else pure (r, value)
      | _ => pure (r, value)

def cannotParse (layout value : String) (valueElem layoutElem : List Char) : String :=
  "parsing time " ++ timeQuote value ++ " as " ++ timeQuote layout ++ ": cannot parse " ++
    timeQuote (String.ofList valueElem) ++ " as " ++ timeQuote (String.ofList layoutElem)

/-- Reads the fields of a layout in turn, at most `fuel` of them. -/
def readFields (layoutText valueText : String) :
    Nat → Reading → List Char → List Char → Except String (Reading × List Char)
  | 0, r, _, value => .ok (r, value)
  | fuel + 1, r, layout, value =>
    let (pre, found, post) := nextField layout
    match skipLiteral pre value with
    | .error at_ => .error (cannotParse layoutText valueText at_ pre)
    | .ok value =>
      match found with
      | none =>
        if value.isEmpty then .ok (r, [])
        else .error ("parsing time " ++ timeQuote valueText ++ ": extra text: " ++
          timeQuote (String.ofList value))
      | some (f, ftext) =>
        match readField r f post value with
        | .ok (r, rest) => readFields layoutText valueText fuel r post rest
        | .error .bad => .error (cannotParse layoutText valueText value ftext)
        | .error (.range what) =>
          .error ("parsing time " ++ timeQuote valueText ++ ": " ++ what ++ " out of range")

/-- Reads a time written by a layout, in a zone. A time that gives an offset is in the zone when
the zone has that offset (and abbreviation, if one is given) then, and in a fixed zone of that
offset otherwise. A time that gives only an abbreviation is in the zone when the zone knows the
abbreviation; otherwise its wall clock is taken as UTC and seen in a fixed zone of that name, with
the offset a `GMT+h` name states or none. A time that gives no zone is a wall clock in the zone. -/
def parseTimeIn (layout value : String) (zone : Zone) : Except String Instant := do
  let (r, _) ← readFields layout value (layout.length + 2) {} layout.toList value.toList
  let hour := if r.pm && r.hour < 12 then r.hour + 12 else if r.am && r.hour == 12 then 0 else r.hour
  let (month, day) ← if r.yearDay ≥ 0 then do
      let leap := isLeap r.year
      let (yd, fixed) :=
        if leap && r.yearDay == 31 + 29 then (r.yearDay, some ((2 : Int), (29 : Int)))
        else if leap && r.yearDay > 31 + 29 then (r.yearDay - 1, none)
        else (r.yearDay, none)
      if yd < 1 || yd > 365 then
        .error ("parsing time " ++ timeQuote value ++ ": day-of-year out of range")
      let (m, d) := match fixed with
        | some md => md
        | none =>
          let m0 : Int := (yd - 1) / 31 + 1
          let before (k : Int) : Int := (daysBefore.getD k.toNat 0 : Nat)
          let m := if before m0 < yd then m0 + 1 else m0
          (m, yd - before (m - 1))
      if r.month ≥ 0 && r.month != m then
        .error ("parsing time " ++ timeQuote value ++ ": day-of-year does not match month")
      if r.day ≥ 0 && r.day != d then
        .error ("parsing time " ++ timeQuote value ++ ": day-of-year does not match day")
      pure (m, d)
    else pure (if r.month < 0 then 1 else r.month, if r.day < 0 then 1 else r.day)
  if day < 1 || day > (daysIn month.toNat r.year : Int) then
    return ← .error ("parsing time " ++ timeQuote value ++ ": day out of range")
  let asUTC := Instant.ofCivil r.year month day hour r.minute r.second r.nano Zone.utc
  if r.utc then return asUTC
  if let some off := r.zoneOffset then
    let t := { asUTC with sec := asUTC.sec - off }
    let s := zone.lookup t.sec
    if s.offset == off && (r.zoneName.isEmpty || s.abbr == r.zoneName) then
      return { t with zone }
    return { t with zone := Zone.fixed r.zoneName off }
  if !r.zoneName.isEmpty then
    if let some off := zone.offsetOfAbbrev? r.zoneName asUTC.sec then
      return { asUTC with sec := asUTC.sec - off, zone }
    let off : Int := if r.zoneName.length > 3 && r.zoneName.startsWith "GMT" then
        ((smallInt (r.zoneName.toList.drop 3)).getD 0) * 3600
      else 0
    return { asUTC with zone := Zone.fixed r.zoneName off }
  return Instant.ofCivil r.year month day hour r.minute r.second r.nano zone

/-- Reads a time written by a layout, in UTC unless it gives a zone. -/
def parseTime (layout value : String) : Except String Instant := parseTimeIn layout value Zone.utc

end Bindery.Time
