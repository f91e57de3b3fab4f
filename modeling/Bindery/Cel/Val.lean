import Bindery.Value.Basic
import Bindery.Decimal.Layout
import Bindery.Decimal.Read
import Bindery.Time.Arith

/-!
# Values of the typed expression language

A value is null, a boolean, a signed or unsigned 64-bit integer, a double, a string, bytes, a
timestamp, a duration, a list, a map, a type, or an error. Errors are values: the logical operators absorb them, and
everything else passes the first error of its operands on. Lists and maps that come from the
host remember the host value they were read from, so that handing one back gives the same
value, not a copy.

This module holds the operators on values. Integer arithmetic is checked: a result outside the
64-bit range is an overflow, and division or remainder by zero is an error. Equality compares
numbers across their types and is false between values of different kinds. Ordering is defined
on numbers (across types), strings, bytes, booleans, timestamps and durations. A timestamp moves
by a duration, two timestamps differ by a duration, and durations add and subtract as checked
integers. Operators that need a capability of
their first operand (adding, ordering, measuring a size, …) fail with `no such overload: <op>`
when it lacks it, and with `no such overload` when the operands do not fit each other.
-/

namespace Bindery.Cel

inductive Val where
  | null
  | bool (b : Bool)
  | int (i : Int)
  | uint (n : Nat)
  | double (f : Float)
  | str (s : String)
  | bytes (bs : List Nat)
  | timestamp (t : Time.Instant)
  | duration (ns : Int)
  | list (items : List Val) (origin : Option Value)
  | map (entries : List (Val × Val)) (origin : Option Value)
  | type (name : String)
  | err (msg : String)
deriving Inhabited

def minInt : Int := -(Int.pow 2 63)

def maxInt : Int := Int.pow 2 63 - 1

def maxUint : Nat := Nat.pow 2 64 - 1

def noOverload : Val := .err "no such overload"

def Val.isErr : Val → Bool
  | .err _ => true
  | _ => false

/-- The name of a value's type, as runtime messages show it. -/
def Val.typeName : Val → String
  | .null => "null_type"
  | .bool _ => "bool"
  | .int _ => "int"
  | .uint _ => "uint"
  | .double _ => "double"
  | .str _ => "string"
  | .bytes _ => "bytes"
  | .timestamp _ => "google.protobuf.Timestamp"
  | .duration _ => "google.protobuf.Duration"
  | .list .. => "list"
  | .map .. => "map"
  | .type _ => "type"
  | .err _ => "*types.Err"

/-- The implementation type of a value, as messages about iteration show it. -/
def Val.implName : Val → String
  | .null => "types.Null"
  | .bool _ => "types.Bool"
  | .int _ => "types.Int"
  | .uint _ => "types.Uint"
  | .double _ => "types.Double"
  | .str _ => "types.String"
  | .bytes _ => "types.Bytes"
  | .timestamp _ => "types.Timestamp"
  | .duration _ => "types.Duration"
  | .list .. => "*types.baseList"
  | .map .. => "*types.baseMap"
  | .type _ => "*types.Type"
  | .err _ => "*types.Err"

/-- The text of a double, in the shortest form that reads back. -/
def doubleText (f : Float) : String := Decimal.Layout.plainText.float f

/-- A value as messages print it, looking at most `fuel` levels into lists and maps: null as
the number of its enumeration, a list as `[a, b]` and a map as `\x7bk: v\x7d`. -/
def Val.displayWith : Nat → Val → String
  | 0, _ => "..."
  | fuel + 1, v =>
    match v with
    | .null => "0"
    | .bool b => if b then "true" else "false"
    | .int i => Decimal.intText i
    | .uint n => Decimal.natText n
    | .double f => doubleText f
    | .str s => s
    | .bytes bs => "[" ++ " ".intercalate (bs.map Decimal.natText) ++ "]"
    | .timestamp t => t.text
    | .duration d => Time.durationText d
    | .type n => n
    | .err m => m
    | .list items _ => "[" ++ ", ".intercalate (items.map (Val.displayWith fuel)) ++ "]"
    | .map entries _ =>
      "\x7b" ++ ", ".intercalate (entries.map fun (k, x) =>
        Val.displayWith fuel k ++ ": " ++ Val.displayWith fuel x) ++ "\x7d"

def Val.display (v : Val) : String := Val.displayWith 64 v

/-- A signed result, or an overflow when it leaves the 64-bit range. -/
def checkedInt (i : Int) : Val :=
  if i < minInt || i > maxInt then .err "integer overflow" else .int i

/-- A duration result, or an overflow when it leaves the 64-bit range. -/
def checkedDuration (i : Int) : Val :=
  if i < minInt || i > maxInt then .err "integer overflow" else .duration i

/-- An unsigned result, or an overflow when it leaves the 64-bit range. -/
def checkedUint (i : Int) : Val :=
  if i < 0 || i > maxUint then .err "unsigned integer overflow" else .uint i.toNat

/-- The signed integer a double holds exactly, if it holds one in range. -/
def exactIntOf (f : Float) : Option Int :=
  if f.isNaN || f.isInf then none else
  let r := f.round
  if r != f then none else
  if f ≤ -9223372036854775808.0 || f ≥ 9223372036854775808.0 then none
  else
    let n : Int := if f < 0 then -((-f).toUInt64.toNat : Int) else f.toUInt64.toNat
    some n

/-- The unsigned integer a double holds exactly, if it holds one in range. -/
def exactUintOf (f : Float) : Option Nat :=
  if f.isNaN || f.isInf || f < 0 || f.round != f || f ≥ 18446744073709551616.0 then none
  else some f.toUInt64.toNat

/-- Whether two map keys are the same key: of one kind and equal. -/
def sameKey (k key : Val) : Bool :=
  match k, key with
  | .str x, .str y => x == y
  | .int x, .int y => x == y
  | .uint x, .uint y => x == y
  | .double x, .double y => x == y
  | .bool x, .bool y => x == y
  | .null, .null => true
  | .bytes x, .bytes y => x == y
  | _, _ => false

/-- The value under a key of a map's entries. Host maps are keyed by strings only; literal maps
also find a whole number under its signed or unsigned form. -/
def mapFind (entries : List (Val × Val)) (host : Bool) (key : Val) : Option Val :=
  match entries.find? (sameKey ·.1 key) with
  | some (_, v) => some v
  | none =>
    if host then none else
    let alternatives : List Val := match key with
      | .double d => ((exactIntOf d).map Val.int).toList ++ ((exactUintOf d).map Val.uint).toList
      | .int i => if i ≥ 0 then [.uint i.toNat] else []
      | .uint n => if (n : Int) ≤ maxInt then [.int n] else []
      | _ => []
    alternatives.findSome? fun alt => (entries.find? (sameKey ·.1 alt)).map (·.2)

/-- How a signed integer compares with a double that is not NaN: by the double nearest to the
integer, and past the ends of the 64-bit range by the range. -/
def compareIntDouble (i : Int) (d : Float) : Ordering :=
  if d < -9223372036854775808.0 then .gt
  else if d > 9223372036854775807.0 then .lt
  else let f := Float.ofInt i; if f < d then .lt else if f > d then .gt else .eq

def compareUintDouble (n : Nat) (d : Float) : Ordering :=
  if d < 0 then .gt
  else if d > 18446744073709551615.0 then .lt
  else let f := Float.ofNat n; if f < d then .lt else if f > d then .gt else .eq

/-- Whether two values are equal: numbers by value across types (NaN equals nothing), lists and
maps element by element, other values when they are of one kind and equal. -/
def Val.equal : Nat → Val → Val → Bool
  | 0, _, _ => false
  | fuel + 1, a, b =>
    match a, b with
    | .null, .null => true
    | .bool x, .bool y => x == y
    | .int x, .int y => x == y
    | .uint x, .uint y => x == y
    | .int x, .uint y | .uint y, .int x => x == (y : Int)
    | .double x, .double y => x == y
    | .double x, .int y | .int y, .double x => !x.isNaN && compareIntDouble y x == .eq
    | .double x, .uint y | .uint y, .double x => !x.isNaN && compareUintDouble y x == .eq
    | .str x, .str y => x == y
    | .bytes x, .bytes y => x == y
    | .timestamp x, .timestamp y => x.same y
    | .duration x, .duration y => x == y
    | .type x, .type y => x == y
    | .list xs _, .list ys _ =>
      xs.length == ys.length && (xs.zip ys).all fun (x, y) => Val.equal fuel x y
    | .map xs _, .map ys origin =>
      xs.length == ys.length && xs.all fun (k, v) =>
        match mapFind ys origin.isSome k with
        | some w => Val.equal fuel v w
        | none => false
    | _, _ => false

def equalFuel : Nat := 256

def compareVals (a b : Val) : Except Val Int :=
  let ord (lt gt : Bool) : Except Val Int := .ok (if lt then -1 else if gt then 1 else 0)
  let nan : Except Val Int := .error (.err "NaN values cannot be ordered")
  match a, b with
  | .bool x, .bool y => ord (!x && y) (x && !y)
  | .int x, .int y => ord (x < y) (x > y)
  | .uint x, .uint y => ord (x < y) (x > y)
  | .int x, .uint y => ord (x < (y : Int)) (x > (y : Int))
  | .uint x, .int y => ord ((x : Int) < y) ((x : Int) > y)
  | .double x, .double y => if x.isNaN || y.isNaN then nan else ord (x < y) (x > y)
  | .int x, .double y =>
    if y.isNaN then nan else let o := compareIntDouble x y; ord (o == .lt) (o == .gt)
  | .double x, .int y =>
    if x.isNaN then nan else let o := compareIntDouble y x; ord (o == .gt) (o == .lt)
  | .uint x, .double y =>
    if y.isNaN then nan else let o := compareUintDouble x y; ord (o == .lt) (o == .gt)
  | .double x, .uint y =>
    if x.isNaN then nan else let o := compareUintDouble y x; ord (o == .gt) (o == .lt)
  | .str x, .str y => ord (x < y) (y < x)
  | .bytes x, .bytes y => ord (decide (x < y)) (decide (y < x))
  | .timestamp x, .timestamp y => ord (x.unixNanos < y.unixNanos) (x.unixNanos > y.unixNanos)
  | .duration x, .duration y => ord (x < y) (x > y)
  | _, _ => .error noOverload

def Val.comparable : Val → Bool
  | .bool _ | .int _ | .uint _ | .double _ | .str _ | .bytes _ | .timestamp _ | .duration _ => true
  | _ => false

def Val.addable : Val → Bool
  | .int _ | .uint _ | .double _ | .str _ | .bytes _ | .list .. | .timestamp _ | .duration _ => true
  | _ => false

def Val.subtractable : Val → Bool
  | .int _ | .uint _ | .double _ | .timestamp _ | .duration _ => true
  | _ => false

def Val.arithmetic : Val → Bool
  | .int _ | .uint _ | .double _ => true
  | _ => false

def Val.modular : Val → Bool
  | .int _ | .uint _ => true
  | _ => false

/-- Whether a value can be negated (booleans can, but refuse at run time). -/
def Val.negatable : Val → Bool
  | .int _ | .double _ | .bool _ | .duration _ => true
  | _ => false

def Val.sized : Val → Bool
  | .str _ | .bytes _ | .list .. | .map .. => true
  | _ => false

/-- Runs a binary operator that needs a capability of its first operand: errors pass first,
then the operator runs when the operand has the capability; a string answers that it has no
such method, and anything else that there is no such overload of the operator. -/
def withCapability (op : String) (has : Val → Bool) (impl : Val → Val → Val) (a b : Val) : Val :=
  if a.isErr then a else if b.isErr then b else
  if has a then impl a b
  else match a with
    | .str _ => noOverload
    | _ => .err ("no such overload: " ++ op)

def addVals : Val → Val → Val
  | .int x, .int y => checkedInt (x + y)
  | .uint x, .uint y => checkedUint ((x : Int) + y)
  | .double x, .double y => .double (x + y)
  | .str x, .str y => .str (x ++ y)
  | .bytes x, .bytes y => .bytes (x ++ y)
  | .list xs o, .list ys o' =>
    if xs.isEmpty then .list ys o' else if ys.isEmpty then .list xs o else .list (xs ++ ys) none
  | .duration x, .duration y => checkedDuration (x + y)
  | .timestamp t, .duration d | .duration d, .timestamp t => .timestamp (t.addNanos d)
  | _, _ => noOverload

def subtractVals : Val → Val → Val
  | .int x, .int y => checkedInt (x - y)
  | .uint x, .uint y => checkedUint ((x : Int) - y)
  | .double x, .double y => .double (x - y)
  | .duration x, .duration y => checkedDuration (x - y)
  | .timestamp t, .duration d => .timestamp (t.addNanos (-d))
  | .timestamp x, .timestamp y => checkedDuration (x.unixNanos - y.unixNanos)
  | _, _ => noOverload

def multiplyVals : Val → Val → Val
  | .int x, .int y => checkedInt (x * y)
  | .uint x, .uint y => checkedUint ((x : Int) * y)
  | .double x, .double y => .double (x * y)
  | _, _ => noOverload

def divideVals : Val → Val → Val
  | .int x, .int y =>
    if y == 0 then .err "division by zero" else checkedInt (x.tdiv y)
  | .uint x, .uint y => if y == 0 then .err "division by zero" else .uint (x / y)
  | .double x, .double y => .double (x / y)
  | _, _ => noOverload

/-- The remainder of two values; the sign follows the dividend. -/
def moduloVals : Val → Val → Val
  | .int x, .int y =>
    if y == 0 then .err "modulus by zero"
    else if x == minInt && y == -1 then .err "integer overflow"
    else .int (x.tmod y)
  | .uint x, .uint y => if y == 0 then .err "modulus by zero" else .uint (x % y)
  | _, _ => noOverload

def negateVal (a : Val) : Val :=
  match a with
  | .err _ => a
  | .int x => checkedInt (-x)
  | .double x => .double (-x)
  | .duration x => checkedDuration (-x)
  | .bool _ | .str _ => noOverload
  | _ => .err "no such overload: -_"

/-- The size of a value: characters of a string, bytes, elements or entries. -/
def sizeVal (a : Val) : Val :=
  match a with
  | .err _ => a
  | .str s => .int s.length
  | .bytes bs => .int bs.length
  | .list xs _ => .int xs.length
  | .map es _ => .int es.length
  | _ => .err "no such overload: size"

/-- An ordering operator: holds when the comparison is one of the accepted outcomes. -/
def orderVals (op : String) (accept : Int → Bool) (a b : Val) : Val :=
  withCapability op Val.comparable (fun a b =>
    match compareVals a b with
    | .ok c => .bool (accept c)
    | .error e => e) a b

/-- Whether a value is in a list (by equality) or is a key of a map. -/
def inAggregate (a b : Val) : Val :=
  if a.isErr then a else if b.isErr then b else
  match b with
  | .list xs _ => .bool (xs.any fun x => Val.equal equalFuel a x)
  | .map es origin => .bool (mapFind es origin.isSome a).isSome
  | _ => noOverload

/-- The position a value selects in a list, or why it selects none. -/
def listPosition (i : Val) : Except String Int :=
  match i with
  | .int n => .ok n
  | .double d =>
    match exactIntOf d with
    | some n => .ok n
    | none => .error ("unsupported index value " ++ i.display ++ " in list")
  | .uint n => if (n : Int) ≤ maxInt then .ok n else .error ("unsupported index value " ++ i.display ++ " in list")
  | other => .error ("unsupported index type '" ++ other.typeName ++ "' in list")

def indexVal (a i : Val) : Val :=
  if a.isErr then a else if i.isErr then i else
  match a with
  | .map es origin =>
    match mapFind es origin.isSome i with
    | some v => v
    | none => .err ("no such key: " ++ i.display)
  | .list xs _ =>
    match listPosition i with
    | .error m => .err m
    | .ok n =>
      if n < 0 then .err ("index out of bounds: " ++ i.display) else
      match xs[n.toNat]? with
      | some v => v
      | none => .err ("index out of bounds: " ++ i.display)
  | _ => .err ("no such key: " ++ i.display)

/-- Selects a field of a map, or tests whether it is present. -/
def selectVal (a : Val) (field : String) (test : Bool) : Val :=
  match a with
  | .err _ => a
  | .map es origin =>
    match mapFind es origin.isSome (.str field) with
    | some v => if test then .bool true else v
    | none => if test then .bool false else .err ("no such key: " ++ field)
  | .list .. => .err "unsupported index type 'string' in list"
  | _ => if test then .bool false else .err ("no such key: " ++ field)

/-- The conjunction of two values: false when either is false, otherwise the first error, or
`no such overload` for an operand that is not a boolean. -/
def andVals (a b : Val) : Val :=
  match a, b with
  | .bool false, _ | _, .bool false => .bool false
  | .bool true, .bool true => .bool true
  | .bool true, other | other, _ => if other.isErr then other else noOverload

/-- The disjunction of two values: true when either is true, otherwise the first error, or
`no such overload` for an operand that is not a boolean. -/
def orVals (a b : Val) : Val :=
  match a, b with
  | .bool true, _ | _, .bool true => .bool true
  | .bool false, .bool false => .bool false
  | .bool false, other | other, _ => if other.isErr then other else noOverload

def conversionError (source target : String) : Val :=
  .err ("type conversion error from '" ++ source ++ "' to '" ++ target ++ "'")

def readUnsigned (s : String) : Option Nat :=
  let cs := s.toList
  if cs.isEmpty || !cs.all Char.isDigit then none else
  let n := Decimal.decimalValue cs
  if n > maxUint then none else some n

def toIntVal : Val → Val
  | .int x => .int x
  | .uint x => checkedInt x
  | .double d =>
    if d.isNaN || d.isInf || d ≤ -9223372036854775808.0 || d ≥ 9223372036854775807.0 then
      .err "integer overflow"
    else .int (if d < 0 then -((-d).toUInt64.toNat : Int) else d.toUInt64.toNat)
  | .str s =>
    match Decimal.readDecimalInt s with
    | .ok n => .int n
    | .error _ => conversionError "string" "int"
  | .timestamp t => .int t.sec
  | .duration d => .int d
  | other => conversionError other.typeName "int"

def toUintVal : Val → Val
  | .uint x => .uint x
  | .int x => checkedUint x
  | .double d =>
    if d.isNaN || d.isInf || d < 0 || d ≥ 18446744073709551615.0 then
      .err "unsigned integer overflow"
    else .uint d.toUInt64.toNat
  | .str s =>
    match readUnsigned s with
    | some n => .uint n
    | none => conversionError "string" "uint"
  | other => conversionError other.typeName "uint"

def toDoubleVal : Val → Val
  | .double d => .double d
  | .int x => .double (Float.ofInt x)
  | .uint x => .double (Float.ofNat x)
  | .str s =>
    match Decimal.readFloat s with
    | .ok f => .double f
    | .error _ => conversionError "string" "double"
  | other => conversionError other.typeName "double"

/-- Converts a value to a string; doubles print in their shortest form, timestamps in RFC 3339
form with their offset, and durations as seconds with an `s`. -/
def toStringVal : Val → Val
  | .str s => .str s
  | .bool b => .str (if b then "true" else "false")
  | .int i => .str (Decimal.intText i)
  | .uint n => .str (Decimal.natText n)
  | .double d => .str (doubleText d)
  | .bytes bs =>
    match String.fromUTF8? (ByteArray.mk (bs.map UInt8.ofNat).toArray) with
    | some s => .str s
    | none => .err "invalid UTF-8 in bytes, cannot convert to string"
  | .timestamp t => .str (t.format Time.rfc3339Nano)
  | .duration d => .str (Decimal.Layout.fixed.float (Time.durationIn d 1000000000) ++ "s")
  | other => conversionError other.typeName "string"

/-- Converts a value to bytes; a string gives its UTF-8 encoding. -/
def toBytesVal : Val → Val
  | .bytes bs => .bytes bs
  | .str s => .bytes (s.toUTF8.toList.map UInt8.toNat)
  | other => conversionError other.typeName "bytes"

/-- Converts a value to a boolean; strings name it as the host's boolean reader accepts. -/
def toBoolVal : Val → Val
  | .bool b => .bool b
  | .str s =>
    match Decimal.readBool s with
    | .ok b => .bool b
    | .error _ => conversionError "string" "bool"
  | other => conversionError other.typeName "bool"

def typeOfVal (a : Val) : Val :=
  match a with
  | .err _ => a
  | other => .type other.typeName

def containsText (s t : String) : Bool :=
  let cs := s.toList
  let ts := t.toList
  (List.range (cs.length + 1)).any fun i => ts.isPrefixOf (cs.drop i)

end Bindery.Cel
