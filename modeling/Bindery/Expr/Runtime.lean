import Bindery.Value.Encode
import Bindery.Decimal.Truncate
import Bindery.Text.Base64
import Bindery.Time.Arith

/-!
# Operations of the dynamic expression language

The operators on values at run time. Integers are 64-bit and wrap; an integer meets a float as a
float. `+` also joins texts; `/` always divides as floats; `%` takes integers only; `**` raises as
floats. Moments move by durations and their difference is a duration; durations add, subtract and
multiply as integers. Ordering compares numbers, texts, moments and durations. Equality compares
numbers by value across integers and floats, moments by the instant they name, and everything else
by structure. Member access reads lists by position (negative positions count from the end), tables
by key, and fails on anything else. Each failure is a message naming the dynamic types involved.
-/

namespace Bindery.Expr

def wrapInt (i : Int) : Int :=
  let m : Int := Int.pow 2 64
  let h : Int := Int.pow 2 63
  (i + h) % m - h

def asFloat? : Value → Option Float
  | .int i => some (Float.ofInt i)
  | .uint n => some n.toFloat
  | .float f => some f
  | _ => none

def conversionMessage (v : Value) (want : String) : String :=
  "interface conversion: interface {} is " ++ (match v with
    | .nil => "nil"
    | other => other.typeName) ++ ", not " ++ want

/-- An arithmetic operator on numbers: integers stay integers, anything with a float is a
float. -/
def arith (sym : String) (onInt : Int → Int → Int) (onFloat : Float → Float → Float)
    (a b : Value) : Except String Value :=
  match a, b with
  | .int x, .int y => .ok (.int (wrapInt (onInt x y)))
  | _, _ =>
    match a, b, asFloat? a, asFloat? b with
    | .float _, _, some x, some y | _, .float _, some x, some y => .ok (.float (onFloat x y))
    | _, _, _, _ => .error ("invalid operation: " ++ a.typeName ++ " " ++ sym ++ " " ++ b.typeName)

/-- Addition, joining of texts, and moving a moment by a duration. -/
def add (a b : Value) : Except String Value :=
  match a, b with
  | .str x, .str y => .ok (.str (x ++ y))
  | .time t, .duration d | .duration d, .time t => .ok (.time (t.addNanos d))
  | .duration x, .duration y => .ok (.duration (wrapInt (x + y)))
  | _, _ => arith "+" (· + ·) (· + ·) a b

/-- Subtraction, the span between two moments, and moving a moment back by a duration. -/
def subtract (a b : Value) : Except String Value :=
  match a, b with
  | .time x, .time y => .ok (.duration (Time.clampDuration (x.unixNanos - y.unixNanos)))
  | .time t, .duration d => .ok (.time (t.addNanos (-d)))
  | .duration x, .duration y => .ok (.duration (wrapInt (x - y)))
  | _, _ => arith "-" (· - ·) (· - ·) a b

/-- Multiplication; a duration times an integer or a duration is a duration. -/
def multiply (a b : Value) : Except String Value :=
  match a, b with
  | .duration x, .duration y | .duration x, .int y | .int x, .duration y =>
    .ok (.duration (wrapInt (x * y)))
  | _, _ => arith "*" (· * ·) (· * ·) a b

def divide (a b : Value) : Except String Value :=
  match asFloat? a, asFloat? b with
  | some x, some y => .ok (.float (x / y))
  | _, _ => .error ("invalid operation: " ++ a.typeName ++ " / " ++ b.typeName)

def modulo (a b : Value) : Except String Value :=
  match a, b with
  | .int _, .int 0 => .error "runtime error: integer divide by zero"
  | .int x, .int y => .ok (.int (wrapInt (x.tmod y)))
  | _, _ => .error ("invalid operation: " ++ a.typeName ++ " % " ++ b.typeName)

/-- The float of a number, or the failure of the conversion. -/
def toFloat (v : Value) : Except String Float :=
  match asFloat? v with
  | some f => .ok f
  | none => .error ("invalid operation: float64(" ++ v.typeName ++ ")")

/-- The integer of a number, or the failure of the conversion. -/
def toInt (v : Value) : Except String Int :=
  match v with
  | .int i => .ok i
  | .uint n => .ok n
  | .float f => .ok (Decimal.truncate f)
  | other => .error ("invalid operation: int(" ++ other.typeName ++ ")")

def power (a b : Value) : Except String Value := do
  let x ← toFloat a
  let y ← toFloat b
  pure (.float (x ^ y))

/-- An ordering of numbers, texts, moments or durations, by a comparison of each. -/
def order (sym : String) (onFloat : Float → Float → Bool) (onInt : Int → Int → Bool)
    (onText : String → String → Bool) (a b : Value) : Except String Value :=
  match a, b with
  | .int x, .int y | .duration x, .duration y => .ok (.bool (onInt x y))
  | .time x, .time y => .ok (.bool (onInt x.unixNanos y.unixNanos))
  | .str x, .str y => .ok (.bool (onText x y))
  | _, _ =>
    match asFloat? a, asFloat? b with
    | some x, some y => .ok (.bool (onFloat x y))
    | _, _ => .error ("invalid operation: " ++ a.typeName ++ " " ++ sym ++ " " ++ b.typeName)

/-- Whether two map keys are the same key: of the same type and equal value, floats by IEEE
equality. -/
def keyEquals (a b : Value) : Bool :=
  match a, b with
  | .nil, .nil => true
  | .bool x, .bool y => x == y
  | .int x, .int y => x == y
  | .uint x, .uint y => x == y
  | .float x, .float y => x == y
  | .str x, .str y => x == y
  | .time x, .time y => x == y
  | .duration x, .duration y => x == y
  | .named s x, .named t y => s == t && x == y
  | .zone x, .zone y => x == y
  | _, _ => false

/-- Structural equality, following tables and lists at most `fuel` levels deep: values of
different types differ, floats compare as numbers. -/
def deepEqual : Nat → Value → Value → Run Bool
  | 0, _, _ => pure false
  | fuel + 1, a, b =>
    match a, b with
    | .nil, .nil => pure true
    | .bool x, .bool y => pure (x == y)
    | .int x, .int y => pure (x == y)
    | .uint x, .uint y => pure (x == y)
    | .float x, .float y => pure (x == y)
    | .str x, .str y => pure (x == y)
    | .time x, .time y => pure (x == y)
    | .duration x, .duration y => pure (x == y)
    | .named s x, .named t y => pure (s == t && x == y)
    | .list _ xs, .list _ ys =>
      if xs.length != ys.length then pure false
      else (xs.zip ys).allM fun (x, y) => deepEqual fuel x y
    | .strings xs, .strings ys => pure (xs == ys)
    | .table i, .table j => do
      if i == j then return true
      let xs ← Run.tableEntries i
      let ys ← Run.tableEntries j
      if xs.length != ys.length then return false
      xs.allM fun (k, x) => match ys.find? (·.1 == k) with
        | some (_, y) => deepEqual fuel x y
        | none => pure false
    | .keyed xs _, .keyed ys _ => do
      if xs.length != ys.length then return false
      xs.allM fun (k, x) => match ys.find? (keyEquals k ·.1) with
        | some (_, y) => deepEqual fuel x y
        | none => pure false
    | .box i, .box j | .scope i, .scope j => pure (i == j)
    | _, _ => pure false

/-- Equality: numbers by value across integers and floats, moments by the instant they name,
everything else by structure. -/
def equal (a b : Value) : Run Bool :=
  match a, b with
  | .int x, .int y => pure (x == y)
  | .time x, .time y => pure (x.same y)
  | _, _ =>
    match asFloat? a, asFloat? b with
    | some x, some y => pure (x == y)
    | _, _ => deepEqual 64 a b

/-- The entry of a table under a key: nil stands for the empty key, and a key that is not a text
cannot be looked up. -/
def tableKey (v : Value) : Except String String :=
  match v with
  | .nil => .ok ""
  | .str s => .ok s
  | other => .error ("reflect.Value.MapIndex: value of type " ++ other.typeName ++
      " is not assignable to type string")

/-- The complaint about a map key that cannot be hashed, if it is one: lists and maps cannot. -/
def unhashable? (v : Value) : Option String :=
  match v with
  | .list .. | .strings _ | .bytes _ | .table _ | .keyed .. =>
    some ("runtime error: hash of unhashable type " ++ v.typeName)
  | _ => none

/-- The value a keyed map holds under a key: the value of an equal key, or, when there is none,
an empty list for a map of groups and nil otherwise. -/
def keyedFetch (entries : List (Value × Value)) (groups : Bool) (key : Value) :
    Run (Except String Value) := do
  if let some m := unhashable? key then return .error m
  match entries.find? (keyEquals key ·.1) with
  | some (_, v) => pure (.ok v)
  | none => if groups then pure (.ok (← Run.newList [])) else pure (.ok .nil)

/-- Reads a member of a value: a list or text by position, a table or keyed map by key. -/
def fetch (base key : Value) : Run (Except String Value) := do
  match base with
  | .list _ items => pure (index items.length fun i => items.getD i .nil)
  | .strings items => pure (index items.length fun i => .str (items.getD i ""))
  | .str s =>
    let bytes := s.toUTF8
    pure (index bytes.size fun i => .int (bytes.get! i).toNat)
  | .table id =>
    match tableKey key with
    | .error m => pure (.error m)
    | .ok k => pure (.ok ((← Run.tableEntries id).find? (·.1 == k) |>.map (·.2) |>.getD .nil))
  | .keyed entries groups => keyedFetch entries groups key
  | other => pure (.error ("cannot fetch " ++ (← plainText key) ++ " from " ++ other.typeName))
where
  index (length : Nat) (item : Nat → Value) : Except String Value :=
    match toInt key with
    | .error m => .error m
    | .ok i =>
      let j := if i < 0 then length + i else i
      if j < 0 || j ≥ length then
        .error ("index out of range: " ++ Decimal.intText j ++ " (array length is " ++
          Decimal.natText length ++ ")")
      else .ok (item j.toNat)

/-- Whether a container holds a value: a list an equal item, a table the key. -/
def contains (needle container : Value) : Run (Except String Bool) := do
  match container with
  | .nil => pure (.ok false)
  | .list _ items => pure (.ok (← items.anyM fun x => equal x needle))
  | .strings items => pure (.ok (match needle with
    | .str y => items.contains y
    | _ => false))
  | .table id =>
    match tableKey needle with
    | .error m => pure (.error m)
    | .ok k => pure (.ok ((← Run.tableEntries id).any (·.1 == k)))
  | .keyed entries _ =>
    match unhashable? needle with
    | some m => pure (.error m)
    | none => pure (.ok (entries.any (keyEquals needle ·.1)))
  | other => pure (.error ("operator \"in\" not defined on " ++ other.typeName))

/-- The length a slice without an end runs to: the number of items of a list or table, or of
UTF-8 bytes of a text. -/
def sliceLength (v : Value) : Run (Except String Value) := do
  match v with
  | .str s => pure (.ok (.int s.utf8ByteSize))
  | .list _ items => pure (.ok (.int items.length))
  | .strings items => pure (.ok (.int items.length))
  | .table id => pure (.ok (.int (← Run.tableEntries id).length))
  | .keyed entries _ => pure (.ok (.int entries.length))
  | other => pure (.error ("invalid argument for len (type " ++ other.typeName ++ ")"))

/-- The part of a list or text between two positions, clamped to it; negative positions count
from the end. A text is cut by its UTF-8 bytes, and each byte of a character cut apart reads as
U+FFFD. -/
def slicePart (v : Value) (lo hi : Value) : Run (Except String Value) := do
  let bounds (length : Nat) : Except String (Nat × Nat) := do
    let a ← toInt lo
    let b ← toInt hi
    let a := if a < 0 then max (length + a) 0 else a
    let b := if b < 0 then max (length + b) 0 else b
    let b := min b length
    let a := min a b
    pure (a.toNat, b.toNat)
  match v with
  | .list _ items =>
    match bounds items.length with
    | .ok (a, b) => pure (.ok (← Run.newList ((items.drop a).take (b - a))))
    | .error m => pure (.error m)
  | .str s =>
    let bytes := s.toUTF8
    match bounds bytes.size with
    | .ok (a, b) => pure (.ok (.str (Text.ofUtf8Lossy ((bytes.extract a b).toList.map (·.toNat)))))
    | .error m => pure (.error m)
  | _ => pure (.error ("cannot slice " ++ (← plainText lo)))

end Bindery.Expr
