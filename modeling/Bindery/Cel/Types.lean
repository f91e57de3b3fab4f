import Bindery.Cel.Syntax

/-!
# Types of the typed expression language

The checker's types: the primitive types, `null_type`, the wildcard `dyn`, the error type
(which, like `dyn`, fits everywhere so one error does not cascade), timestamps and durations,
lists, maps, type variables and the types of types. Type variables are bound by a list of
bindings, the first binding of a name being the one that counts.

Assignability extends the bindings: a variable fits any type its binding fits, and an unbound
variable is bound to the type it is compared with unless that type mentions it. When a bound
variable meets a compatible type, the binding is widened to the more general of the two. Every
function here takes a fuel argument; the wrappers give it far more than any type of a real
expression needs.

The standard functions are declared here with their overloads, in the order the checker tries
them.
-/

namespace Bindery.Cel

inductive CType where
  | int
  | uint
  | double
  | bool
  | string
  | bytes
  | null
  | dyn
  | error
  | timestamp
  | duration
  | list (elem : CType)
  | map (key value : CType)
  | param (name : String)
  | type (of : Option CType)
deriving BEq, Inhabited, Repr

def CType.text : CType → String
  | .int => "int"
  | .uint => "uint"
  | .double => "double"
  | .bool => "bool"
  | .string => "string"
  | .bytes => "bytes"
  | .null => "null"
  | .dyn => "dyn"
  | .error => "!error!"
  | .timestamp => "timestamp"
  | .duration => "duration"
  | .list e => "list(" ++ e.text ++ ")"
  | .map k v => "map(" ++ k.text ++ ", " ++ v.text ++ ")"
  | .param n => n
  | .type none => "type"
  | .type (some t) => "type(" ++ t.text ++ ")"

/-- The name a type is declared under: its printed form without parameters. -/
def CType.declaredName : CType → String
  | .list _ => "list"
  | .map _ _ => "map"
  | .type _ => "type"
  | .null => "null_type"
  | .error => "*error*"
  | .timestamp => "google.protobuf.Timestamp"
  | .duration => "google.protobuf.Duration"
  | t => t.text

/-- Whether a type fits everywhere: `dyn` or the error type. -/
def CType.isWildcard : CType → Bool
  | .dyn | .error => true
  | _ => false

def CType.nullable : CType → Bool
  | .timestamp | .duration => true
  | _ => false

/-- Bindings of type variables; the first binding of a name counts. -/
abbrev Bindings := List (String × CType)

def Bindings.find? (m : Bindings) (name : String) : Option CType :=
  (List.find? (fun p => p.1 == name) m).map (·.2)

def Bindings.bind (m : Bindings) (name : String) (t : CType) : Bindings := (name, t) :: m

def typeFuel : Nat := 512

/-- Replaces bound type variables by their bindings; with `toDyn`, unbound ones by `dyn`. -/
def substituteWith (m : Bindings) (toDyn : Bool) : Nat → CType → CType
  | 0, t => t
  | fuel + 1, t =>
    match t with
    | .param n =>
      match m.find? n with
      | some s => substituteWith m toDyn fuel s
      | none => if toDyn then .dyn else t
    | .list e => .list (substituteWith m toDyn fuel e)
    | .map k v => .map (substituteWith m toDyn fuel k) (substituteWith m toDyn fuel v)
    | .type (some p) => .type (some (substituteWith m toDyn fuel p))
    | other => other

def CType.subst (m : Bindings) (t : CType) : CType := substituteWith m false typeFuel t

def CType.substDyn (m : Bindings) (t : CType) : CType := substituteWith m true typeFuel t

/-- Whether a type is not mentioned in another, following bindings. -/
def notReferencedIn (m : Bindings) (t : CType) : Nat → CType → Bool
  | 0, _ => true
  | fuel + 1, w =>
    if t == w then false else
    match w with
    | .param n =>
      match m.find? n with
      | none => true
      | some s => notReferencedIn m t fuel s
    | .list e => notReferencedIn m t fuel e
    | .map k v => notReferencedIn m t fuel k && notReferencedIn m t fuel v
    | .type (some p) => notReferencedIn m t fuel p
    | _ => true

/-- Whether the first type is at most as specific as the second. -/
def lessSpecific : Nat → CType → CType → Bool
  | 0, _, _ => true
  | fuel + 1, t1, t2 =>
    match t1, t2 with
    | .dyn, _ | .param _, _ => true
    | _, .dyn | _, .param _ => false
    | .list a, .list b => lessSpecific fuel a b
    | .map k1 v1, .map k2 v2 => lessSpecific fuel k1 k2 && lessSpecific fuel v1 v2
    | .type _, .type _ => true
    | a, b => a == b

def mostGeneral (t1 t2 : CType) : CType := if lessSpecific typeFuel t1 t2 then t1 else t2

mutual

/-- Tries a type as the substitution of a type variable: the extended bindings when it fits
(none when it does not), and whether the variable was bound already. -/
def substitution : Nat → Bindings → CType → String → Option Bindings × Bool
  | 0, _, _, _ => (none, false)
  | fuel + 1, m, t1, name =>
    let t2 := CType.param name
    if t1 == t2 then (some m, true) else
    match m.find? name with
    | some sub =>
      if t1 == sub then (some m, true) else
      match assignableIn fuel m t1 sub with
      | some m' =>
        let wider := mostGeneral t1 sub
        (some (if notReferencedIn m' t2 typeFuel wider then m'.bind name wider else m'), true)
      | none => (none, true)
    | none =>
      if notReferencedIn m t2 typeFuel t1 then (some (m.bind name t1), false) else (none, false)

/-- Whether a value of the first type may stand where the second is expected: the extended
bindings when it may. -/
def assignableIn : Nat → Bindings → CType → CType → Option Bindings
  | 0, _, _, _ => none
  | fuel + 1, m, t1, t2 =>
    let viaVariable : Option (Option Bindings) :=
      match t2 with
      | .param n =>
        match substitution fuel m t1 n with
        | (some m', _) => some (some m')
        | (none, true) => some none
        | (none, false) => none
      | _ => none
    match viaVariable with
    | some r => r
    | none =>
      match t1 with
      | .param n => (substitution fuel m t2 n).1
      | _ =>
        if t1.isWildcard || t2.isWildcard then some m
        else if t1 == .null then (if t2.nullable then some m else none)
        else if t2 == .null then (if t1.nullable then some m else none)
        else
          match t1, t2 with
          | .type _, .type _ => some m
          | .list a, .list b => assignableIn fuel m a b
          | .map k1 v1, .map k2 v2 =>
            match assignableIn fuel m k1 k2 with
            | some m' => assignableIn fuel m' v1 v2
            | none => none
          | a, b => if a == b then some m else none

end

/-- Whether each type of a list may stand for the type at its place in another. -/
def assignableList (m : Bindings) : List CType → List CType → Option Bindings
  | [], [] => some m
  | a :: as, b :: bs =>
    match assignableIn typeFuel m a b with
    | some m' => assignableList m' as bs
    | none => none
  | _, _ => none

/-- Whether a value of the first type may stand where the second is expected. -/
def assignable (m : Bindings) (t1 t2 : CType) : Option Bindings := assignableIn typeFuel m t1 t2

/-- An overload of a function: its name, whether it is called as a method (the receiver being
its first parameter), its parameters and its result. -/
structure Overload where
  id : String
  member : Bool
  params : List CType
  result : CType

/-- A function: its name and its overloads in the order they are tried. -/
structure FunctionDecl where
  name : String
  overloads : List Overload

/-- The names of the type variables of a type, in order of appearance. -/
def CType.variables : CType → List String
  | .param n => [n]
  | .list e => e.variables
  | .map k v => k.variables ++ v.variables
  | .type (some p) => p.variables
  | _ => []

def Overload.typeParams (o : Overload) : List String :=
  ((o.params.flatMap CType.variables) ++ o.result.variables).eraseDups

section Declarations

def globalOverload (id : String) (params : List CType) (result : CType) : Overload :=
  ⟨id, false, params, result⟩

def memberOverload (id : String) (params : List CType) (result : CType) : Overload :=
  ⟨id, true, params, result⟩

def paramA : CType := .param "A"

def paramB : CType := .param "B"

/-- The overloads of an ordering: same-type ones for the ordered types. -/
def orderingOverloads (opName : String) : List Overload :=
  [("bool", CType.bool), ("int64", .int), ("uint64", .uint), ("double", .double),
    ("string", .string), ("bytes", .bytes), ("timestamp", .timestamp),
    ("duration", .duration)].map fun (n, t) => globalOverload (opName ++ "_" ++ n) [t, t] .bool

/-- The overloads of a conversion to a type, from the types it accepts. -/
def conversion (target : String) (result : CType) (sources : List (String × CType)) :
    FunctionDecl :=
  ⟨target, sources.map fun (n, t) => globalOverload (n ++ "_to_" ++ target) [t] result⟩

/-- An accessor of timestamps, read in their own zone or in a named one, and, when `onDurations`
is set, of durations too. -/
def timeAccessor (name part : String) (onDurations : Bool) : FunctionDecl :=
  ⟨name, [memberOverload ("timestamp_to_" ++ part) [.timestamp] .int,
    memberOverload ("timestamp_to_" ++ part ++ "_with_tz") [.timestamp, .string] .int] ++
    (if onDurations then [memberOverload ("duration_to_" ++ part) [.duration] .int] else [])⟩

def standardFunctions : List FunctionDecl :=
  [ ⟨"_?_:_", [globalOverload "conditional" [.bool, paramA, paramA] paramA]⟩,
    ⟨"_&&_", [globalOverload "logical_and" [.bool, .bool] .bool]⟩,
    ⟨"_||_", [globalOverload "logical_or" [.bool, .bool] .bool]⟩,
    ⟨"!_", [globalOverload "logical_not" [.bool] .bool]⟩,
    ⟨"@not_strictly_false", [globalOverload "not_strictly_false" [.bool] .bool]⟩,
    ⟨"_==_", [globalOverload "equals" [paramA, paramA] .bool]⟩,
    ⟨"_!=_", [globalOverload "not_equals" [paramA, paramA] .bool]⟩,
    ⟨"_+_", [globalOverload "add_bytes" [.bytes, .bytes] .bytes,
      globalOverload "add_double" [.double, .double] .double,
      globalOverload "add_duration_duration" [.duration, .duration] .duration,
      globalOverload "add_duration_timestamp" [.duration, .timestamp] .timestamp,
      globalOverload "add_timestamp_duration" [.timestamp, .duration] .timestamp,
      globalOverload "add_int64" [.int, .int] .int,
      globalOverload "add_list" [.list paramA, .list paramA] (.list paramA),
      globalOverload "add_string" [.string, .string] .string,
      globalOverload "add_uint64" [.uint, .uint] .uint]⟩,
    ⟨"_-_", [globalOverload "subtract_double" [.double, .double] .double,
      globalOverload "subtract_duration_duration" [.duration, .duration] .duration,
      globalOverload "subtract_int64" [.int, .int] .int,
      globalOverload "subtract_timestamp_duration" [.timestamp, .duration] .timestamp,
      globalOverload "subtract_timestamp_timestamp" [.timestamp, .timestamp] .duration,
      globalOverload "subtract_uint64" [.uint, .uint] .uint]⟩,
    ⟨"_*_", [globalOverload "multiply_double" [.double, .double] .double,
      globalOverload "multiply_int64" [.int, .int] .int,
      globalOverload "multiply_uint64" [.uint, .uint] .uint]⟩,
    ⟨"_/_", [globalOverload "divide_double" [.double, .double] .double,
      globalOverload "divide_int64" [.int, .int] .int,
      globalOverload "divide_uint64" [.uint, .uint] .uint]⟩,
    ⟨"_%_", [globalOverload "modulo_int64" [.int, .int] .int,
      globalOverload "modulo_uint64" [.uint, .uint] .uint]⟩,
    ⟨"-_", [globalOverload "negate_int64" [.int] .int,
      globalOverload "negate_double" [.double] .double]⟩,
    ⟨"_[_]", [globalOverload "index_list" [.list paramA, .int] paramA,
      globalOverload "index_map" [.map paramA paramB, paramA] paramB]⟩,
    ⟨"@in", [globalOverload "in_list" [paramA, .list paramA] .bool,
      globalOverload "in_map" [paramA, .map paramA paramB] .bool]⟩,
    ⟨"size", [globalOverload "size_bytes" [.bytes] .int,
      memberOverload "bytes_size" [.bytes] .int,
      globalOverload "size_list" [.list paramA] .int,
      memberOverload "list_size" [.list paramA] .int,
      globalOverload "size_map" [.map paramA paramB] .int,
      memberOverload "map_size" [.map paramA paramB] .int,
      globalOverload "size_string" [.string] .int,
      memberOverload "string_size" [.string] .int]⟩,
    ⟨"_<_", orderingOverloads "less"⟩,
    ⟨"_<=_", orderingOverloads "less_equals"⟩,
    ⟨"_>_", orderingOverloads "greater"⟩,
    ⟨"_>=_", orderingOverloads "greater_equals"⟩,
    conversion "int" .int [("int64", .int), ("uint64", .uint), ("double", .double),
      ("string", .string), ("timestamp", .timestamp), ("duration", .duration)],
    conversion "uint" .uint [("uint64", .uint), ("int64", .int), ("double", .double),
      ("string", .string)],
    conversion "double" .double [("double", .double), ("int64", .int), ("uint64", .uint),
      ("string", .string)],
    conversion "string" .string [("string", .string), ("bool", .bool), ("bytes", .bytes),
      ("double", .double), ("int64", .int), ("uint64", .uint), ("timestamp", .timestamp),
      ("duration", .duration)],
    conversion "bytes" .bytes [("bytes", .bytes), ("string", .string)],
    conversion "bool" .bool [("bool", .bool), ("string", .string)],
    conversion "timestamp" .timestamp [("timestamp", .timestamp), ("string", .string),
      ("int64", .int)],
    conversion "duration" .duration [("duration", .duration), ("string", .string)],
    timeAccessor "getFullYear" "year" false,
    timeAccessor "getMonth" "month" false,
    timeAccessor "getDayOfYear" "day_of_year" false,
    timeAccessor "getDayOfMonth" "day_of_month_zero_based" false,
    timeAccessor "getDate" "day_of_month_one_based" false,
    timeAccessor "getDayOfWeek" "day_of_week" false,
    timeAccessor "getHours" "hours" true,
    timeAccessor "getMinutes" "minutes" true,
    timeAccessor "getSeconds" "seconds" true,
    timeAccessor "getMilliseconds" "milliseconds" true,
    ⟨"dyn", [globalOverload "to_dyn" [paramA] .dyn]⟩,
    ⟨"type", [globalOverload "type" [paramA] (.type (some paramA))]⟩,
    ⟨"contains", [memberOverload "contains_string" [.string, .string] .bool]⟩,
    ⟨"endsWith", [memberOverload "ends_with_string" [.string, .string] .bool]⟩,
    ⟨"startsWith", [memberOverload "starts_with_string" [.string, .string] .bool]⟩,
    ⟨"matches", [globalOverload "matches" [.string, .string] .bool,
      memberOverload "matches_string" [.string, .string] .bool]⟩ ]

def helperFunction : FunctionDecl :=
  ⟨"call", [globalOverload "call_dyn" [.string, .list .dyn] .dyn]⟩

end Declarations

def typeIdentifier : String → Option CType
  | "bool" => some .bool
  | "bytes" => some .bytes
  | "double" => some .double
  | "google.protobuf.Duration" => some .duration
  | "int" => some .int
  | "list" => some (.list .dyn)
  | "map" => some (.map .dyn .dyn)
  | "null_type" => some .null
  | "string" => some .string
  | "google.protobuf.Timestamp" => some .timestamp
  | "type" => some (.type none)
  | "uint" => some .uint
  | _ => none

end Bindery.Cel
