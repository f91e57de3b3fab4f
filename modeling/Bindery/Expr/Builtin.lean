import Bindery.Expr.Calendar
import Bindery.Json.Marshal
import Bindery.Json.Parse
import Bindery.Text.Base64
import Bindery.Text.Search

/-!
# Builtins of the dynamic expression language

The builtins that take plain argument values. Texts are searched by byte offset; `split`,
`splitAfter` and `replace` take an optional limit. Numbers round to floats (`round`, `floor`,
`ceil`), and `max`, `min`, `mean` and `median` look into lists, and lists in lists. Lists are sorted
by the language's ordering, ascending unless `"desc"` is asked for, keeping equal items in their
order; `uniq` keeps the first of equal items, and `flatten` opens every nested list. Data goes to
and from JSON text (indented by two blanks, numbers read back as floats; moments written in RFC 3339
form, durations as nanoseconds) and texts to and from base64. `date` and `duration` make moments and
durations. Bit operations work on 64-bit integers. A builtin given something it cannot take fails
with a message naming the type or kind it got.
-/

namespace Bindery.Expr

/-- The kind of a value, as messages about what a builtin cannot take name it. -/
def kindName : Value → String
  | .nil => "invalid"
  | .bool _ => "bool"
  | .int _ => "int"
  | .uint _ => "uint64"
  | .float _ => "float64"
  | .str _ => "string"
  | .bytes _ | .list .. | .strings _ | .descriptors _ => "slice"
  | .table _ => "map"
  | .func _ | .invocable .. | .ctor _ => "func"
  | .definition _ false | .time _ => "struct"
  | .duration _ => "int64"
  | .named type _ => if type == "int64" then "int64" else "int"
  | _ => "ptr"

/-- The items of a list value, or none for anything else. -/
def listItems? : Value → Option (List Value)
  | .list _ items => some items
  | .strings items => some (items.map .str)
  | .bytes bs => some (bs.map fun b => .uint b)
  | _ => none

/-- Whether the language orders one value before another; numbers and texts only. -/
def less (pos : Nat) (a b : Value) : EvalM Bool := do
  match ← orFail pos (order "<" (· < ·) (· < ·) (· < ·) a b) with
  | .bool r => pure r
  | _ => pure false

/-- Inserts an item into a sorted run held last item first, moving it past every item it comes
before; `before` compares the item with one of the run. -/
def insertBack (before : α → α → EvalM Bool) (x : α) : List α → EvalM (List α)
  | [] => pure [x]
  | p :: ps => do
    if ← before x p then pure (p :: (← insertBack before x ps)) else pure (x :: p :: ps)

/-- Items sorted by insertion, equal items kept in their order. -/
def insertionSort (before : α → α → EvalM Bool) (xs : List α) : EvalM (List α) := do
  let mut run : List α := []
  for x in xs do run ← insertBack before x run
  pure run.reverse

/-- Whether a sort order is descending: `"asc"` or `"desc"`. -/
def descending (pos : Nat) (order : Value) : EvalM Bool :=
  match order with
  | .str "asc" => pure false
  | .str "desc" => pure true
  | .str other => failAt pos ("invalid order " ++ other ++ ", expected asc or desc")
  | other => failAt pos (conversionMessage other "string")

/-- The better of two numbers for `max` (or `min`): the later one only when strictly better. -/
def better (pos : Nat) (greater : Bool) (best candidate : Value) : EvalM Value := do
  if best matches .nil then return candidate
  let wins ← if greater then less pos best candidate else less pos candidate best
  pure (if wins then candidate else best)

/-- The greatest (or least) number among arguments, looking into lists at most `fuel` levels
deep: nil when there is none. A lone argument that is not a number is its own answer; anything
else that is not a number fails. -/
def extremumOf (pos : Nat) (name : String) (greater : Bool) : Nat → List Value → EvalM Value
  | 0, _ => pure .nil
  | fuel + 1, args => do
    let mut best : Value := .nil
    for arg in args do
      match listItems? arg with
      | some items =>
        for item in items do
          let e ← extremumOf pos name greater fuel [item]
          if (asFloat? e).isNone then
            failAt pos ("invalid argument for " ++ name ++ " (type " ++ e.typeName ++ ")")
          best ← better pos greater best e
      | none =>
        if (asFloat? arg).isSome then best ← better pos greater best arg
        else if args.length == 1 then return arg
        else failAt pos ("invalid argument for " ++ name ++ " (type " ++ arg.typeName ++ ")")
    pure best

/-- The numbers among arguments as floats, looking into lists at most `fuel` levels deep;
anything else fails. -/
def floatsOf (pos : Nat) (name : String) : Nat → List Value → EvalM (List Float)
  | 0, _ => pure []
  | fuel + 1, args => do
    let mut out : List Float := []
    for arg in args do
      match listItems? arg, asFloat? arg with
      | some items, _ => out := out ++ (← floatsOf pos name fuel items)
      | none, some x => out := out ++ [x]
      | none, none => failAt pos ("invalid argument for " ++ name ++ " (type " ++ arg.typeName ++ ")")
    pure out

/-- The items of lists, lists in them opened, at most `fuel` levels deep. -/
def flattenItems : Nat → List Value → List Value
  | 0, items => items
  | fuel + 1, items => items.flatMap fun x =>
    match listItems? x with
    | some inner => flattenItems fuel inner
    | none => [x]

def sortFloats (xs : List Float) : List Float :=
  xs.mergeSort fun a b => a.isNaN || (!b.isNaN && a ≤ b)

def bitArg (pos : Nat) (name : String) (v : Value) : EvalM Int :=
  match v with
  | .int i => pure i
  | other => failAt pos ("cannot use " ++ other.typeName ++ " as argument (type int) to call " ++ name)

def toWord (i : Int) : Nat := (i % Int.pow 2 64).toNat

def ofWord (n : Nat) : Int := if n < Nat.pow 2 63 then n else (n : Int) - Int.pow 2 64

/-- A value as a document for JSON text, at most `fuel` levels deep: bytes become base64 text,
and a map keyed by any values an object keyed by the printed keys, in order; a NaN or infinite
float and anything that is not data cannot be written. -/
def documentOf : Nat → Value → Run (Except String Json)
  | 0, _ => pure (.ok .null)
  | fuel + 1, v => do
    match v with
    | .nil => pure (.ok .null)
    | .bool b => pure (.ok (.bool b))
    | .int i => pure (.ok (.int i))
    | .uint n => pure (.ok (.int n))
    | .float f =>
      if f.isNaN then pure (.error "json: unsupported value: NaN")
      else if f.isInf then pure (.error ("json: unsupported value: " ++ (if f > 0 then "+Inf" else "-Inf")))
      else pure (.ok (.float f))
    | .str s => pure (.ok (.str s))
    | .bytes bs => pure (.ok (.str (Text.base64Encode bs)))
    | .time t =>
      if t.year < 0 || t.year > 9999 then
        pure (.error ("json: error calling MarshalJSON for type time.Time: " ++
          "Time.MarshalJSON: year outside of range [0,9999]"))
      else pure (.ok (.str (t.format Time.rfc3339Nano)))
    | .duration d | .named _ d => pure (.ok (.int d))
    | .strings items => pure (.ok (.arr (items.map .str)))
    | .list _ items => do
      let mut out : List Json := []
      for x in items do
        match ← documentOf fuel x with
        | .ok j => out := out ++ [j]
        | .error e => return .error e
      pure (.ok (.arr out))
    | .table id => do
      let mut out : List (String × Json) := []
      for (k, x) in ← Run.tableEntries id do
        match ← documentOf fuel x with
        | .ok j => out := out ++ [(k, j)]
        | .error e => return .error e
      pure (.ok (.obj out))
    | .keyed entries _ => do
      let mut out : List (String × Json) := []
      for (k, x) in entries do
        match ← documentOf fuel x with
        | .ok j => out := out ++ [((← encode k).plainText, j)]
        | .error e => return .error e
      pure (.ok (.obj (out.mergeSort fun a b => decide (a.1 ≤ b.1))))
    | other => pure (.error ("json: unsupported type: " ++ other.typeName))

/-- The value of a document read from JSON text, at most `fuel` levels deep: objects become new
tables, arrays new lists. -/
def valueOfDocument : Nat → Json → Run Value
  | 0, _ => pure .nil
  | fuel + 1, j =>
    match j with
    | .null => pure .nil
    | .bool b => pure (.bool b)
    | .int i => pure (.int i)
    | .float f => pure (.float f)
    | .str s => pure (.str s)
    | .arr items => do Run.newList (← items.mapM (valueOfDocument fuel))
    | .obj fields => do
      Run.newTable (← fields.mapM fun (k, x) => do pure (k, ← valueOfDocument fuel x))

/-- A keyed map from a list of pairs, later pairs replacing earlier ones of the same key. -/
def mapOfPairs (pos : Nat) (pairs : List Value) : EvalM Value := do
  let mut entries : List (Value × Value) := []
  for pair in pairs do
    match listItems? pair with
    | some [k, v] =>
      if let some m := unhashable? k then failAt pos m
      entries := if entries.any (keyEquals k ·.1) then
        entries.map fun e => if keyEquals k e.1 then (e.1, v) else e
        else entries ++ [(k, v)]
    | some _ => failAt pos ("invalid pair length " ++ (← plainText pair))
    | none => failAt pos ("invalid pair " ++ (← plainText pair))
  pure (.keyed entries false)

/-- An optional limit argument of a text builtin: all when absent. -/
def limitOf (pos : Nat) : List Value → EvalM Int
  | [] => pure (-1)
  | n :: _ => orFail pos (toInt n)

def builtinCall (pos : Nat) (name : String) (args : List Value) : EvalM Value := do
  let depth := 10000
  match name, args with
  | "len", [v] =>
    match v with
    | .str s => pure (.int s.length)
    | .list _ items => pure (.int items.length)
    | .strings items => pure (.int items.length)
    | .table id => pure (.int (← Run.tableEntries id).length)
    | .keyed entries _ => pure (.int entries.length)
    | other => failAt pos ("invalid argument for len (type " ++ other.typeName ++ ")")
  | "type", [v] =>
    pure (.str (match v with
      | .nil => "nil" | .bool _ => "bool" | .int _ | .uint _ => "int" | .float _ => "float"
      | .str _ => "string" | .list .. | .strings _ => "array" | .table _ | .keyed .. => "map"
      | .func _ => "func" | .time _ | .duration _ | .named .. => v.typeName | _ => "unknown"))
  | "abs", [v] =>
    match v with
    | .int i => pure (.int (if i < 0 then wrapInt (-i) else i))
    | .float f => pure (.float f.abs)
    | other => failAt pos ("invalid argument for abs (type " ++ other.typeName ++ ")")
  | "ceil", [v] | "floor", [v] | "round", [v] =>
    match asFloat? v with
    | some x => pure (.float (if name == "ceil" then x.ceil else if name == "floor" then x.floor
        else x.round))
    | none => failAt pos ("invalid argument for " ++ name ++ " (type " ++ v.typeName ++ ")")
  | "int", [v] =>
    match v with
    | .str s => match Decimal.readDecimalInt s with
      | .ok i => pure (.int i)
      | .error _ => failAt pos ("invalid operation: int(" ++ s ++ ")")
    | other => pure (.int (← orFail pos (toInt other)))
  | "float", [v] =>
    match v with
    | .str s => match Decimal.readFloat s with
      | .ok f => pure (.float f)
      | .error _ => failAt pos ("invalid operation: float(" ++ s ++ ")")
    | other => match asFloat? other with
      | some f => pure (.float f)
      | none => failAt pos ("invalid operation: float(" ++ other.typeName ++ ")")
  | "string", [v] => pure (.str (← plainText v))
  | "duration", [v] => do pure (.duration (← orFail pos (Time.parseDuration (← textOf pos v))))
  | "date", vs => dateOf pos vs
  | "timezone", [v] => timezoneOf pos v
  | "upper", [v] => pure (.str (Text.upper (← textOf pos v)))
  | "lower", [v] => pure (.str (Text.lower (← textOf pos v)))
  | "trim", [v] => pure (.str (Text.trim (← textOf pos v)))
  | "trim", [v, cs] => do pure (.str (Text.trimSet (← textOf pos v) (← textOf pos cs).toList))
  | "trimPrefix", v :: rest => do
    let pre ← match rest with
      | p :: _ => textOf pos p
      | [] => pure " "
    pure (.str (Text.dropPrefix (← textOf pos v) pre))
  | "trimSuffix", v :: rest => do
    let suf ← match rest with
      | p :: _ => textOf pos p
      | [] => pure " "
    pure (.str (Text.dropSuffix (← textOf pos v) suf))
  | "hasPrefix", [v, p] => do pure (.bool ((← textOf pos v).startsWith (← textOf pos p)))
  | "hasSuffix", [v, p] => do pure (.bool ((← textOf pos v).endsWith (← textOf pos p)))
  | "split", v :: sep :: rest | "splitAfter", v :: sep :: rest => do
    let s ← textOf pos v
    let d ← textOf pos sep
    let limit ← limitOf pos rest
    pure (.strings (Text.splitLimited s d limit (name == "splitAfter")))
  | "replace", v :: old :: new :: rest => do
    let s ← textOf pos v
    let o ← textOf pos old
    let n ← textOf pos new
    let limit ← limitOf pos rest
    pure (.str (Text.replaceLimited s o n limit))
  | "repeat", [v, n] => do
    let s ← textOf pos v
    let k ← orFail pos (toInt n)
    if k < 0 then
      failAt pos ("invalid argument for repeat (expected positive integer, got " ++
        Decimal.intText k ++ ")")
    if k > 1000000 then failAt pos "memory budget exceeded"
    grow pos (s.utf8ByteSize * k.toNat)
    pure (.str (String.join (List.replicate k.toNat s)))
  | "indexOf", [v, sub] => do pure (.int (Text.byteIndex (← textOf pos v) (← textOf pos sub)))
  | "lastIndexOf", [v, sub] => do
    pure (.int (Text.lastByteIndex (← textOf pos v) (← textOf pos sub)))
  | "join", v :: rest => do
    let glue ← match rest with
      | g :: _ => textOf pos g
      | [] => pure ""
    match v with
    | .strings items => pure (.str (glue.intercalate items))
    | .list _ items => pure (.str (glue.intercalate (← items.mapM (textOf pos))))
    | other => failAt pos ("invalid argument for join (type " ++ other.typeName ++ ")")
  | "max", vs => extremumOf pos "max" true depth vs
  | "min", vs => extremumOf pos "min" false depth vs
  | "mean", vs => do
    let xs ← floatsOf pos "mean" depth vs
    pure (.float (if xs.isEmpty then 0 else xs.foldl (· + ·) 0 / xs.length.toFloat))
  | "median", vs => do
    let xs := sortFloats (← floatsOf pos "median" depth vs)
    let n := xs.length
    if n == 0 then return .float 0
    if n % 2 == 1 then pure (.float (xs.getD (n / 2) 0))
    else pure (.float ((xs.getD (n / 2 - 1) 0 + xs.getD (n / 2) 0) / 2))
  | "toJSON", [v] => do
    match ← documentOf depth v with
    | .ok j => pure (.str (Json.indented true "  " 0 j))
    | .error e => failAt pos e
  | "fromJSON", [v] => do
    match Json.parse (← textOf pos v) with
    | .ok j => valueOfDocument depth j
    | .error e => failAt pos e
  | "toBase64", [v] => do pure (.str (Text.base64Encode ((← textOf pos v).toUTF8.toList.map (·.toNat))))
  | "fromBase64", [v] => do
    match Text.base64Decode (← textOf pos v) with
    | .ok bytes => pure (.str (Text.ofUtf8Lossy bytes))
    | .error offset => failAt pos ("illegal base64 data at input byte " ++ Decimal.natText offset)
  | "first", [v] => do
    match ← fetch v (.int 0) with
    | .ok r => pure r
    | .error _ => pure .nil
  | "last", [v] => do
    match ← fetch v (.int (-1)) with
    | .ok r => pure r
    | .error _ => pure .nil
  | "take", [v, n] => do
    let some items := listItems? v | failAt pos ("cannot take from " ++ kindName v)
    let k ← match n with
      | .int k => pure k
      | other => failAt pos ("cannot take " ++ kindName other ++ " elements")
    if k < 0 then failAt pos "reflect: slice index out of range"
    Run.newList (items.take k.toNat)
  | "concat", vs => do
    let mut out : List Value := []
    for v in vs do
      let some items := listItems? v | failAt pos ("cannot concat " ++ kindName v)
      out := out ++ items
    Run.newList out
  | "get", [v, key] => do
    match ← fetch v key with
    | .ok r => pure r
    | .error _ => pure .nil
  | "keys", [v] => do
    match v with
    | .table id => Run.newList ((← Run.tableEntries id).map fun (k, _) => .str k)
    | .keyed entries _ => Run.newList (entries.map (·.1))
    | _ => failAt pos ("cannot get keys from " ++ kindName v)
  | "values", [v] => do
    match v with
    | .table id => Run.newList ((← Run.tableEntries id).map (·.2))
    | .keyed entries _ => Run.newList (entries.map (·.2))
    | _ => failAt pos ("cannot get values from " ++ kindName v)
  | "toPairs", [v] => do
    match v with
    | .table id => Run.newList (← (← Run.tableEntries id).mapM fun (k, x) => Run.newList [.str k, x])
    | .keyed entries _ => Run.newList (← entries.mapM fun (k, x) => Run.newList [k, x])
    | _ => failAt pos ("cannot transform " ++ kindName v ++ " to pairs")
  | "fromPairs", [v] => do
    let some pairs := listItems? v | failAt pos ("cannot transform " ++ (← plainText v) ++ " from pairs")
    mapOfPairs pos pairs
  | "reverse", [v] => do
    let some items := listItems? v | failAt pos ("cannot reverse " ++ kindName v)
    Run.newList items.reverse
  | "uniq", [v] => do
    let some items := listItems? v | failAt pos ("cannot uniq " ++ kindName v)
    let mut kept : List Value := []
    for x in items do
      if !(← kept.anyM fun y => equal x y) then kept := kept ++ [x]
    Run.newList kept
  | "flatten", [v] => do
    let some items := listItems? v | failAt pos ("cannot flatten " ++ kindName v)
    Run.newList (flattenItems depth items)
  | "sort", v :: rest => do
    let items ← match v with
      | .list _ items => pure items
      | .strings items => pure (items.map .str)
      | other => failAt pos ("invalid argument for sort (type " ++ other.typeName ++ ")")
    let desc ← match rest with
      | order :: _ => descending pos order
      | [] => pure false
    Run.newList (← insertionSort (fun a b => if desc then less pos b a else less pos a b) items)
  | "bitand", [a, b] | "bitor", [a, b] | "bitxor", [a, b] | "bitnand", [a, b] => do
    let x := toWord (← bitArg pos name a)
    let y := toWord (← bitArg pos name b)
    let r := match name with
      | "bitand" => x &&& y
      | "bitor" => x ||| y
      | "bitxor" => x ^^^ y
      | _ => x &&& (x ^^^ (x &&& y))
    pure (.int (ofWord r))
  | "bitnot", [a] => do pure (.int (-(← bitArg pos name a) - 1))
  | "bitshl", [a, b] | "bitshr", [a, b] | "bitushr", [a, b] => do
    let x ← bitArg pos name a
    let y ← bitArg pos name b
    if y < 0 then failAt pos ("invalid operation: negative shift count " ++ Decimal.intText y ++
      " (type int)")
    let k := y.toNat
    match name with
    | "bitshl" => pure (.int (if k ≥ 64 then 0 else ofWord (toWord x * Nat.pow 2 k % Nat.pow 2 64)))
    | "bitshr" => pure (.int (if k ≥ 64 then (if x < 0 then -1 else 0) else x / Int.pow 2 k))
    | _ => pure (.int (if k ≥ 64 then 0 else ofWord (toWord x / Nat.pow 2 k)))
  | _, _ => failAt pos ("invalid number of arguments to call " ++ name)

end Bindery.Expr
