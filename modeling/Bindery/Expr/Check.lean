import Bindery.Expr.Parse
import Bindery.Regex.Match

/-!
# Checking terms of the dynamic expression language

Before a term runs, the types of its parts are worked out as far as the source tells them:
literals have their types, variables and anything read from them have an unknown type, and
operators combine types. An operation on known types that cannot apply to them, a condition that
is not a boolean, or a builtin given arguments it cannot take is an error, reported at the part
of the term it concerns. Anything involving an unknown type is left to run time. Inside a
predicate, `#` has the item type of the list the builtin runs over; `#index` exists only in the
predicates of `map` and `reduce`, `#acc` only in that of `reduce`.
-/

namespace Bindery.Expr

inductive Nature where
  | unknown
  | nil
  | bool
  | int
  | float
  | string
  | array (elem : Nature)
  | map
  | func
  | time
  | duration
  | named (type : String)
  | zone
  | keyedMap (groups : Bool)
deriving BEq, Inhabited

def Nature.name : Nature → String
  | .unknown => "interface {}"
  | .nil => "unknown"
  | .bool => "bool"
  | .int => "int"
  | .float => "float64"
  | .string => "string"
  | .array _ => "[]interface {}"
  | .map => "map[string]interface {}"
  | .func => "func(...interface {}) (interface {}, error)"
  | .time => "time.Time"
  | .duration => "time.Duration"
  | .named type => type
  | .zone => "*time.Location"
  | .keyedMap true => "map[interface {}][]interface {}"
  | .keyedMap false => "map[interface {}]interface {}"

/-- The spelling of a type in the messages of builtins, which print a missing type as a failed
format verb. -/
def Nature.shown : Nature → String
  | .nil => "%!s(<nil>)"
  | n => n.name

/-- Whether a type is an integer type: durations and named integers are. -/
def Nature.isInteger : Nature → Bool
  | .int | .duration | .named _ => true
  | _ => false

def Nature.isNumber (n : Nature) : Bool := n.isInteger || n == .float

def Nature.isArray : Nature → Bool
  | .array _ => true
  | _ => false

/-- The kind of a type, as array literals compare their items. -/
def Nature.kind : Nature → Nat
  | .unknown => 0
  | .nil => 1
  | .bool => 2
  | .int => 3
  | .float => 4
  | .string => 5
  | .array _ => 6
  | .map => 7
  | .func => 8
  | .time => 9
  | .duration => 10
  | .named type => if type == "int64" then 10 else 3
  | .zone => 11
  | .keyedMap _ => 7

def Nature.assignableTo (a b : Nature) : Bool := b == .unknown || a == b

/-- When either type is unknown, whether the other one satisfies a test. -/
def eitherUnknown (l r : Nature) (p : Nature → Bool) : Bool :=
  (l == .unknown && r == .unknown) || (l == .unknown && p r) || (r == .unknown && p l)

def comparable (l r : Nature) : Bool :=
  l == .unknown || r == .unknown || l == .nil || r == .nil || (l.isNumber && r.isNumber) ||
    (l.isArray && r.isArray) || l.assignableTo r

def combined (l r : Nature) : Nature :=
  if l == .float || r == .float then .float else .int

/-- The type of a binary operation on two types, or none when it does not apply to them. -/
def binaryNature (op : String) (l r : Nature) : Option Nature :=
  let num (n : Nature) := n.isNumber
  let str (n : Nature) := n == .string
  match op with
  | "==" | "!=" => if comparable l r then some .bool else none
  | "or" | "||" | "and" | "&&" =>
    if (l == .bool && r == .bool) || eitherUnknown l r (· == .bool) then some .bool else none
  | "<" | ">" | ">=" | "<=" =>
    if (num l && num r) || (str l && str r) || (l == .time && r == .time) ||
        eitherUnknown l r (fun n => num n || str n || n == .time) then
      some .bool else none
  | "-" =>
    if num l && num r then some (combined l r)
    else if l == .time && r == .time then some .duration
    else if l == .time && r == .duration then some .time
    else if eitherUnknown l r (fun n => num n || n == .time) then some .unknown else none
  | "*" =>
    if num l && num r then some (combined l r)
    else if eitherUnknown l r num then some .unknown else none
  | "/" | "**" | "^" =>
    if (num l && num r) || eitherUnknown l r num then some .float else none
  | "%" =>
    if (l.isInteger && r.isInteger) || eitherUnknown l r Nature.isInteger then some .int else none
  | "+" =>
    if num l && num r then some (combined l r)
    else if str l && str r then some .string
    else if (l == .time && r == .duration) || (l == .duration && r == .time) then some .time
    else if eitherUnknown l r (fun n => num n || str n || n == .time) then some .unknown
    else none
  | "in" =>
    if r == .map || r matches .keyedMap _ then some .bool
    else if r.isArray then some .bool
    else if l == .unknown && (str r || r == .map) then some .bool
    else if r == .unknown then some .bool else none
  | "matches" | "contains" | "startsWith" | "endsWith" =>
    if (str l && str r) || eitherUnknown l r str then some .bool else none
  | ".." =>
    if (l == .int && r == .int) || eitherUnknown l r (· == .int) then some (.array .int) else none
  | "??" =>
    if l == .nil && r != .nil then some r
    else if l != .nil && r == .nil then some l
    else if l == .nil && r == .nil then some .nil
    else if r.assignableTo l then some l else some .unknown
  | _ => none

abbrev CheckM := StateM (Option Diag)

/-- Records an error, unless one was recorded already; the type is then unknown. -/
def report (pos : Nat) (message : String) : CheckM Nature := do
  modify fun e => match e with
    | some d => some d
    | none => some ⟨pos, message⟩
  pure .unknown

/-- The parameter lists a builtin checked by signature accepts, tried in order, each with the type
of the result. -/
def builtinSignatures? : String → Option (List (List Nature × Nature))
  | "upper" | "lower" => some [([.string], .string)]
  | "trim" => some [([.string], .string), ([.string, .string], .string)]
  | "trimPrefix" | "trimSuffix" => some [([.string, .string], .string), ([.string], .string)]
  | "split" | "splitAfter" =>
    some [([.string, .string], .array .string), ([.string, .string, .int], .array .string)]
  | "replace" =>
    some [([.string, .string, .string, .int], .string), ([.string, .string, .string], .string)]
  | "repeat" => some [([.string, .int], .string)]
  | "indexOf" | "lastIndexOf" => some [([.string, .string], .int)]
  | "hasPrefix" | "hasSuffix" => some [([.string, .string], .bool)]
  | "join" =>
    some [([.array .unknown, .string], .string), ([.array .unknown], .string),
      ([.array .string, .string], .string), ([.array .string], .string)]
  | "toJSON" | "string" | "type" => some [([.unknown], .string)]
  | "fromJSON" => some [([.string], .unknown)]
  | "toBase64" | "fromBase64" => some [([.string], .string)]
  | "bitand" | "bitor" | "bitxor" | "bitnand" | "bitshl" | "bitshr" | "bitushr" =>
    some [([.int, .int], .int)]
  | "bitnot" => some [([.int], .int)]
  | "duration" => some [([.string], .duration)]
  | "timezone" => some [([.string], .zone)]
  | _ => none

/-- The parameters and result of a method of a type, when the type has it: moments tell their
fields, move and compare; durations tell their length in units. -/
def methodSignature? : Nature → String → Option (List Nature × Nature)
  | .time, name =>
    match name with
    | "Year" | "Day" | "Hour" | "Minute" | "Second" | "Nanosecond" | "YearDay" => some ([], .int)
    | "Month" => some ([], .named "time.Month")
    | "Weekday" => some ([], .named "time.Weekday")
    | "Unix" | "UnixMilli" | "UnixMicro" | "UnixNano" => some ([], .named "int64")
    | "Format" => some ([.string], .string)
    | "String" => some ([], .string)
    | "Add" | "Truncate" | "Round" => some ([.duration], .time)
    | "Sub" => some ([.time], .duration)
    | "AddDate" => some ([.int, .int, .int], .time)
    | "Before" | "After" | "Equal" => some ([.time], .bool)
    | "Compare" => some ([.time], .int)
    | "IsZero" => some ([], .bool)
    | "UTC" | "Local" => some ([], .time)
    | "In" => some ([.zone], .time)
    | "Location" => some ([], .zone)
    | _ => none
  | .duration, name =>
    match name with
    | "Hours" | "Minutes" | "Seconds" => some ([], .float)
    | "Milliseconds" | "Microseconds" | "Nanoseconds" => some ([], .named "int64")
    | "String" => some ([], .string)
    | "Abs" => some ([], .duration)
    | "Round" | "Truncate" => some ([.duration], .duration)
    | _ => none
  | .named type, "String" => if type == "int64" then none else some ([], .string)
  | .zone, "String" => some ([], .string)
  | _, _ => none

/-- Whether an argument of a type can be passed for a parameter of another: anything for an
unknown parameter, an unknown argument for anything, an integer for any integer type or a float,
and a list for a list. -/
def Nature.passesFor (arg param : Nature) : Bool :=
  param == .unknown || arg == .unknown || arg == param || (arg.isInteger && param.isInteger) ||
    (arg.isInteger && param == .float) || (arg.isArray && param.isArray)

/-- Checks arguments against one parameter list: the problem found, at the call or at the
argument at fault. -/
def signatureProblem (name : String) (pos : Nat) (args : List Term) (natures : List Nature)
    (params : List Nature) : Option Diag :=
  if natures.length > params.length then some ⟨pos, "too many arguments to call " ++ name⟩
  else if natures.length < params.length then some ⟨pos, "not enough arguments to call " ++ name⟩
  else
    ((args.zip natures).zip params).findSome? fun ((arg, n), p) =>
      if n == .nil then
        if p == .unknown || p == .zone then none
        else some ⟨arg.pos, "cannot use nil as argument (type " ++ p.name ++ ") to call " ++ name⟩
      else if n.passesFor p then none
      else some ⟨arg.pos, "cannot use " ++ n.name ++ " as argument (type " ++ p.name ++
        ") to call " ++ name ++ " "⟩

def argumentCount (expected : String) (got : Nat) : String :=
  "invalid number of arguments (expected " ++ expected ++ ", got " ++ Decimal.natText got ++ ")"

def Nature.mayBeArray (n : Nature) : Bool := n == .unknown || n.isArray

/-- The type of a member `key` of a value of type `base`, the key having type `prop`; `method`
tells whether the member is called. Tables give anything for a text key, maps keyed by any values
anything (lists for groups) for any key, lists their item type for an integer; a named member of
anything else is missing. -/
def memberNature (base prop : Nature) (key : Term) (pos : Nat) (method : Bool) : CheckM Nature := do
  let name? := match key with
    | .str s _ => some s
    | _ => none
  if base == .nil then
    if let some name := name? then return ← report pos ("type nil has no field " ++ name)
  match base with
  | .unknown => pure .unknown
  | .map =>
    if prop != .unknown && prop != .string && prop != .nil then
      report key.pos ("cannot use " ++ prop.name ++ " to get an element from " ++ base.name)
    else pure .unknown
  | .keyedMap groups => pure (if groups then .array .unknown else .unknown)
  | .array e =>
    if prop != .int && prop != .unknown then
      report key.pos ("array elements can only be selected using an integer (got " ++
        prop.name ++ ")")
    else pure e
  | _ =>
    match name? with
    | some name =>
      report pos ("type " ++ base.name ++ " has no " ++ (if method then "method " else "field ") ++
        name)
    | none => report pos ("type " ++ base.name ++ "[" ++ prop.name ++ "] is undefined")

/-- The names a predicate of a builtin sees, besides those bound around it: the item `#` (bound to
the type of the list the builtin runs over), its position `#index` for `map` and `reduce`, and
the accumulator `#acc` for `reduce`. The names of an enclosing predicate are hidden. -/
def predicateScope (builtin : String) (collection : Nature) (vars : List (String × Nature)) :
    List (String × Nature) :=
  [("#", collection)] ++
    (if builtin == "map" || builtin == "reduce" then [("#index", .int)] else []) ++
    (if builtin == "reduce" then [("#acc", .unknown)] else []) ++
    vars.filter fun v => !v.1.startsWith "#"

/-- The type of a term, given the types of the names bound around it and the names of the
functions given to the engine. -/
def checkTerm (functions : List String) : Nat → List (String × Nature) → Term → CheckM Nature
  | 0, _, _ => pure .unknown
  | fuel + 1, vars, t =>
    let go := checkTerm functions fuel
    match t with
    | .nil _ => pure .nil
    | .bool _ _ => pure .bool
    | .int _ _ => pure .int
    | .float _ _ => pure .float
    | .str _ _ => pure .string
    | .ident name _ =>
      match vars.find? (·.1 == name) with
      | some (_, n) => pure n
      | none => pure (if functions.contains name then .func else .unknown)
    | .pointer name pos =>
      match vars.find? (·.1 == "#") with
      | none => report pos "cannot use pointer accessor outside predicate"
      | some (_, collection) =>
        if name.isEmpty then
          match collection with
          | .array e => pure e
          | _ => pure .unknown
        else
          match vars.find? (·.1 == "#" ++ name) with
          | some (_, n) => pure n
          | none => report pos ("unknown pointer #" ++ name)
    | .unary op arg pos => do
      let n ← go vars arg
      match op with
      | "!" | "not" =>
        if n == .bool || n == .unknown then pure .bool
        else report pos ("invalid operation: " ++ op ++ " (mismatched type " ++ n.name ++ ")")
      | _ =>
        if n.isNumber then pure n
        else if n == .unknown then pure .unknown
        else report pos ("invalid operation: " ++ op ++ " (mismatched type " ++ n.name ++ ")")
    | .binary op lhs rhs pos => do
      let l ← go vars lhs
      let r ← go vars rhs
      if op == "matches" then
        if let .str source _ := rhs then
          if let .error e := Regex.parse source then return ← report pos e.message
      match binaryNature op l r with
      | some n => pure n
      | none => report pos ("invalid operation: " ++ op ++ " (mismatched types " ++ l.name ++
          " and " ++ r.name ++ ")")
    | .member target key _ pos => do
      let base ← go vars target
      memberNature base (← go vars key) key pos false
    | .slice target lo hi pos => do
      let n ← go vars target
      if n == .unknown then return .unknown
      match n with
      | .string | .array _ => pure ()
      | _ => return ← report pos ("cannot slice " ++ n.name)
      for bound in [lo, hi] do
        if let some b := bound then
          let bn ← go vars b
          if bn != .int && bn != .unknown then
            return ← report b.pos ("non-integer slice index " ++ bn.name)
      pure n
    | .call callee args pos => do
      let step : Sum Nature Nature ← match callee with
        | .member target key _ mpos => do
          let base ← go vars target
          let sig := match key with
            | .str name _ => (methodSignature? base name).map (name, ·)
            | _ => none
          match sig with
          | some (name, params, result) =>
            let natures ← args.mapM (go vars)
            match signatureProblem name pos args natures params with
            | some d => pure (.inl (← report d.pos d.message))
            | none => pure (.inl result)
          | none => pure (.inr (← memberNature base (← go vars key) key mpos true))
        | _ => pure (.inr (← go vars callee))
      let n ← match step with
        | .inl result => return result
        | .inr n => pure n
      match n with
      | .func =>
        for a in args do let _ ← go vars a
        pure .unknown
      | .unknown => pure .unknown
      | .nil =>
        let name := match callee with
          | .ident s _ => s
          | _ => "function"
        report pos (name ++ " is nil; cannot call nil as function")
      | other => report pos (other.name ++ " is not callable")
    | .builtin name args pos => do
      let mut natures : List Nature := []
      for a in args do
        let scope := match a with
          | .predicate .. => predicateScope name (natures.headD .unknown) vars
          | _ => vars
        natures := natures ++ [← go scope a]
      match name, natures with
      | "len", [n] =>
        match n with
        | .array _ | .map | .keyedMap _ | .string | .unknown => pure .int
        | other => report pos ("invalid argument for len (type " ++ other.shown ++ ")")
      | "len", ns => report pos ("invalid number of arguments (expected 1, got " ++
          Decimal.natText ns.length ++ ")")
      | "abs", [n] =>
        if n.isNumber || n == .unknown then pure n
        else report pos ("invalid argument for abs (type " ++ n.shown ++ ")")
      | "int", [n] =>
        match n with
        | .int | .float | .string | .unknown => pure .int
        | other => report pos ("invalid argument for int (type " ++ other.shown ++ ")")
      | "float", [n] =>
        match n with
        | .int | .float | .string | .unknown => pure .float
        | other => report pos ("invalid argument for float (type " ++ other.shown ++ ")")
      | "string", [_] => pure .string
      | "abs", ns => report pos (argumentCount "1" ns.length)
      | "ceil", ns | "floor", ns | "round", ns =>
        match ns with
        | [n] =>
          if n.isNumber || n == .unknown then pure .float
          else report pos ("invalid argument for " ++ name ++ " (type " ++ n.shown ++ ")")
        | _ => report pos (argumentCount "1" ns.length)
      | "int", ns | "float", ns => report pos (argumentCount "1" ns.length)
      | "max", ns | "min", ns | "mean", ns | "median", ns =>
        match ns with
        | [] => report pos ("not enough arguments to call " ++ name)
        | first :: _ =>
          match ns.find? (fun n => !(n.mayBeArray || n.isNumber)) with
          | some bad => report pos ("invalid argument for " ++ name ++ " (type " ++ bad.shown ++ ")")
          | none =>
            if ns.any Nature.mayBeArray then pure .unknown
            else pure (if name == "mean" || name == "median" then .float else first)
      | "first", ns | "last", ns =>
        match ns with
        | [n] =>
          match n with
          | .unknown => pure .unknown
          | .array e => pure e
          | other => report pos ("cannot get " ++ name ++ " element from " ++ other.shown)
        | _ => report pos (argumentCount "1" ns.length)
      | "take", ns =>
        match ns with
        | [a, k] =>
          if !a.mayBeArray then report pos ("cannot take from " ++ a.shown)
          else if k != .int && k != .unknown then report pos ("cannot take " ++ k.shown ++ " elements")
          else pure a
        | _ => report pos (argumentCount "2" ns.length)
      | "keys", ns | "values", ns =>
        match ns with
        | [n] =>
          if n == .unknown || n == .map || n matches .keyedMap _ then pure (.array .unknown)
          else report pos ("cannot get " ++ name ++ " from " ++ n.shown)
        | _ => report pos (argumentCount "1" ns.length)
      | "toPairs", ns =>
        match ns with
        | [n] =>
          if n == .unknown || n == .map || n matches .keyedMap _ then pure (.array .unknown)
          else report pos ("cannot transform " ++ n.shown ++ " to pairs")
        | _ => report pos (argumentCount "1" ns.length)
      | "fromPairs", ns =>
        match ns with
        | [n] =>
          if n.mayBeArray then pure (.keyedMap false)
          else report pos ("cannot transform " ++ n.shown ++ " from pairs")
        | _ => report pos (argumentCount "1" ns.length)
      | "reverse", ns | "uniq", ns | "flatten", ns =>
        match ns with
        | [n] =>
          if n.mayBeArray then pure (.array .unknown)
          else report pos ("cannot " ++ name ++ " " ++ n.shown)
        | _ => report pos (argumentCount "1" ns.length)
      | "concat", ns =>
        match ns with
        | [] => report pos (argumentCount "at least 1" 0)
        | _ =>
          match ns.find? (fun n => !n.mayBeArray) with
          | some bad => report pos ("cannot concat " ++ bad.shown)
          | none => pure (.array .unknown)
      | "sort", ns =>
        match ns with
        | [a] | [a, _] =>
          if !a.mayBeArray then report pos ("invalid argument for sort (type " ++ a.shown ++ ")")
          else
            match ns with
            | [_, o] =>
              if o == .string || o == .unknown then pure (.array .unknown)
              else report pos ("invalid argument for sort (type " ++ o.shown ++ ")")
            | _ => pure (.array .unknown)
        | _ => report pos ("invalid number of arguments (expected 1 or 2, got " ++
            Decimal.natText ns.length ++ ")")
      | "date", ns =>
        if ns.isEmpty then report pos (argumentCount "at least 1" 0)
        else if ns.length > 3 then report pos (argumentCount "at most 3" ns.length)
        else pure .time
      | "now", ns =>
        if ns.isEmpty then pure .time else report pos (argumentCount "0" ns.length)
      | "all", _ | "none", _ | "any", _ | "one", _ => pure .bool
      | "filter", _ => pure (.array .unknown)
      | "groupBy", _ => pure (.keyedMap true)
      | "map", _ => pure (.array .unknown)
      | "count", _ | "findIndex", _ | "findLastIndex", _ => pure .int
      | _, ns =>
        match builtinSignatures? name with
        | none => pure .unknown
        | some alternatives =>
          let tried := alternatives.map fun (params, result) =>
            (signatureProblem name pos args ns params, result)
          match tried.find? (·.1.isNone) with
          | some (_, result) => pure result
          | none =>
            match tried.getLast? with
            | some (some d, _) => report d.pos d.message
            | _ => pure .unknown
    | .predicate body _ => go vars body
    | .cond test yes no _ => do
      let c ← go vars test
      if c != .bool && c != .unknown then
        return ← report test.pos ("non-bool expression (type " ++ c.name ++ ") used as condition")
      let a ← go vars yes
      let b ← go vars no
      if a == .nil && b != .nil then pure b
      else if a != .nil && b == .nil then pure a
      else if a == .nil && b == .nil then pure .nil
      else if a.assignableTo b then pure a else pure .unknown
    | .array items _ | .constList items _ => do
      let natures ← items.mapM (go vars)
      match natures.getLast? with
      | some last =>
        if natures.all (·.kind == last.kind) then pure (.array last) else pure (.array .unknown)
      | none => pure (.array .unknown)
    | .map pairs _ => do
      for (k, v) in pairs do
        let _ ← go vars k
        let _ ← go vars v
      pure .map
    | .sequence items _ => do
      let natures ← items.mapM (go vars)
      pure (natures.getLastD .unknown)
    | .letIn name value body _ => do
      let n ← go vars value
      go ((name, n) :: vars) body
    | .chain inner _ => go vars inner
    | .textSet _ _ => pure (.array .string)
    | .pick .. => pure .unknown
    | .filterMap .. => pure (.array .unknown)

def check (functions : List String) (t : Term) (size : Nat) : Option Diag :=
  ((checkTerm functions (size + 2) [] t).run none).2

/-- The type of a term, given the types of the names bound around it. -/
def natureIn (functions : List String) (fuel : Nat) (vars : List (String × Nature)) (t : Term) :
    Nature :=
  ((checkTerm functions fuel vars t).run none).1

end Bindery.Expr
