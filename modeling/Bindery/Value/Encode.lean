import Bindery.World
import Bindery.Decimal.Layout
import Bindery.Json.Plain
import Bindery.Time.Duration

/-!
# Type names, answers and printed text of values

`Value.typeName` spells the dynamic type of a value as messages show it. `encode` writes a value
as an answer document: data as JSON, objects as small tagged objects (`{"$box": …}`,
`{"$scope": "s0"}`, …). `Json.plainText` prints an encoded value the way the host prints data
(`[1 2]`, `map[a:1]`, `<nil>`).
-/

namespace Bindery

def Value.typeName : Value → String
  | .nil => "<nil>"
  | .bool _ => "bool"
  | .int _ => "int"
  | .uint _ => "uint64"
  | .float _ => "float64"
  | .str _ => "string"
  | .bytes _ => "[]uint8"
  | .list .. => "[]interface {}"
  | .strings _ => "[]string"
  | .table _ => "map[string]interface {}"
  | .box _ => "*main.Box"
  | .setting _ => "*main.ConfProvider"
  | .container _ => "*injector.Container"
  | .provide => "*injector.Provide"
  | .registry _ => "*compile.Provider"
  | .compiler _ => "*compile.Compiler"
  | .rootProvider _ => "*scope.Provider"
  | .translatorProvider _ => "*parse.Provider"
  | .translator _ => "*parse.Parser"
  | .scope _ => "*scope.Scope"
  | .node _ => "*main.Node"
  | .descriptors _ => "[]compile.Descriptor"
  | .definition _ true => "*compile.Definition"
  | .definition _ false => "compile.Definition"
  | .noDefinition => "*compile.Definition"
  | .directive _ => "*main.dirImpl"
  | .app => "*opular.App"
  | .invocable .. => "injector.Fn"
  | .ctor _ => "injector.Constructor"
  | .func f => f.signature.text
  | .factoryProvider _ => "injector.factoryProvider"
  | .providerFunc _ => "injector.ProviderFunc"
  | .brokenProvider _ => "*main.PanicProvider"
  | .error _ => "*errors.errorString"
  | .time _ => "time.Time"
  | .duration _ => "time.Duration"
  | .named type _ => type
  | .zone _ => "*time.Location"
  | .keyed _ true => "map[interface {}][]interface {}"
  | .keyed _ false => "map[interface {}]interface {}"

/-- Whether a value is an invocable or a function, that is, whether it can be invoked. -/
def Value.isInvocable : Value → Bool
  | .invocable .. | .func _ | .providerFunc _ => true
  | _ => false

/-- Whether a value has a resolver, that is, whether it is a provider. -/
def Value.isProvider : Value → Bool
  | .setting _ | .factoryProvider _ | .providerFunc _ | .registry _ | .rootProvider _
  | .translatorProvider _ | .brokenProvider _ => true
  | _ => false

/-- The label of a scope: `s` and the order in which the scope was first shown. -/
def scopeLabel (id : Nat) : Run String := do
  let w ← get
  match w.scopeLabels.find? (·.1 == id) with
  | some (_, n) => pure ("s" ++ Decimal.natText n)
  | none =>
    let n := w.scopeLabels.length
    set { w with scopeLabels := w.scopeLabels ++ [(id, n)] }
    pure ("s" ++ Decimal.natText n)

def scopeOfLabel? (label : String) : Run (Option Nat) := do
  let w ← get
  pure ((w.scopeLabels.find? fun (_, n) => "s" ++ Decimal.natText n == label).map (·.1))

def nodeLabel (id : Nat) : Run String := do
  pure (((← get).nodes[id]?.map (·.label)).getD "")

/-- A float in an answer: NaN and the infinities as tagged objects. -/
def encodeFloat (f : Float) : Json :=
  if f.isNaN then .obj [("$float", .str "NaN")]
  else if f.isInf then .obj [("$float", .str (if f > 0 then "Inf" else "-Inf"))]
  else .float f

def Descriptor.encode (d : Descriptor) : Json :=
  .obj [("name", .str d.name), ("restrict", .str d.restrict.text), ("priority", .int d.priority),
    ("terminal", .bool d.terminal), ("multi_element", .bool d.multiElement),
    ("index", .int d.index)]

/-- Whether a key is cached on a tier or has a provider there. -/
def Injector.State.has (s : Injector.State) (t : Tier) (key : String) : Bool :=
  (s.cache t |>.find? key).isSome || (s.providerCache.find? (key ++ "_provider")).isSome

def encodeWith : Nat → Value → Run Json
  | 0, _ => pure .null
  | depth + 1, v =>
    match v with
    | .nil => pure .null
    | .bool b => pure (.bool b)
    | .int i => pure (.int i)
    | .uint n => pure (.int n)
    | .float f => pure (encodeFloat f)
    | .str s => pure (.str s)
    | .bytes bs => pure (.arr (bs.map fun b => .int (Int.ofNat b)))
    | .list _ items => do pure (.arr (← items.mapM (encodeWith depth)))
    | .strings items => pure (.arr (items.map .str))
    | .table id => do
      let entries ← Run.tableEntries id
      pure (.obj (← entries.mapM fun (k, x) => do pure (k, ← encodeWith depth x)))
    | .keyed entries _ => do
      pure (.obj (← entries.mapM fun (k, x) => do
        pure ((← encodeWith depth k).plainText, ← encodeWith depth x)))
    | .box id => do
      let b ← Run.box id
      pure (.obj [("$box", .str b.label), ("items", .arr (← b.items.mapM (encodeWith depth)))])
    | .setting id => do
      let s ← Run.setting id
      pure (.obj [("$conf_provider", ← encodeWith depth s.value)])
    | .container t => do
      let s := (← get).injector
      pure (.obj [("$container", .str (if s.has t "_provide" then "provider" else "instance"))])
    | .provide => pure (.obj [("$provide", .bool true)])
    | .registry id => do
      let r := (← get).registries[id]?.getD {}
      let names := (r.factories.map (·.1)).mergeSort (fun a b => decide (a ≤ b))
      pure (.obj [("$compile_provider", .arr (names.map .str))])
    | .compiler _ => pure (.obj [("$compiler", .bool true)])
    | .rootProvider id => do
      let p := (← get).rootProviders[id]?.getD ⟨10, []⟩
      pure (.obj [("$root_scope_provider", .int p.ttl)])
    | .translatorProvider _ => pure (.obj [("$parse_provider", .bool true)])
    | .translator t => pure (.obj [("$parser", .str t.engine.language.name)])
    | .scope id => do pure (.obj [("$scope", .str (← scopeLabel id))])
    | .node id => do pure (.obj [("$node", .str (← nodeLabel id))])
    | .descriptors ds => pure (.arr (ds.map Descriptor.encode))
    | .func _ | .providerFunc _ => pure (.obj [("$func", .bool true)])
    | .error e => pure (.obj [("$error", .str e.message)])
    | .duration ns | .named _ ns => pure (.int ns)
    | other => pure (.obj [("$type", .str other.typeName)])

def encode (v : Value) : Run Json := encodeWith 64 v

def encodeAll (vs : List Value) : Run Json := do pure (.arr (← vs.mapM encode))

/-- The printed text of an integer of a named type: months and days of the week by name. -/
def namedText (type : String) (i : Int) : String :=
  let names := match type with
    | "time.Month" => "" :: Time.monthNames
    | "time.Weekday" => Time.weekdayNames
    | _ => []
  (names[i.toNat]?.filter fun n => 0 ≤ i && !n.isEmpty).getD (Decimal.intText i)

/-- The order map keys print in: by kind (nil, booleans, integers, floats, texts, others), then
by value within a kind. -/
def keyOrder (a b : Value) : Bool :=
  let rank : Value → Nat
    | .nil => 0 | .bool _ => 1 | .int _ => 2 | .uint _ => 3 | .float _ => 4 | .str _ => 5
    | _ => 6
  match a, b with
  | .bool x, .bool y => !x || y
  | .int x, .int y => x ≤ y
  | .uint x, .uint y => x ≤ y
  | .float x, .float y => x ≤ y
  | .str x, .str y => decide (x ≤ y)
  | _, _ => rank a ≤ rank b

/-- The printed text of a value, following lists and tables at most `depth` levels deep: items
separated by blanks in brackets, tables as `map[k:v …]` in key order, moments and durations in
their usual text, zones by name. -/
def plainTextWith : Nat → Value → Run String
  | 0, _ => pure "<nil>"
  | depth + 1, v =>
    match v with
    | .nil => pure "<nil>"
    | .str s => pure s
    | .float f => pure (Decimal.Layout.plainText.float f)
    | .time t => pure t.text
    | .duration d => pure (Time.durationText d)
    | .named type i => pure (namedText type i)
    | .zone z => pure z.name
    | .list _ items => do
      pure ("[" ++ " ".intercalate (← items.mapM (plainTextWith depth)) ++ "]")
    | .table id => do
      let entries ← Run.tableEntries id
      let sorted := entries.mergeSort fun a b => decide (a.1 ≤ b.1)
      let parts ← sorted.mapM fun (k, x) => do pure (k ++ ":" ++ (← plainTextWith depth x))
      pure ("map[" ++ " ".intercalate parts ++ "]")
    | .keyed entries _ => do
      let sorted := entries.mergeSort fun a b => keyOrder a.1 b.1
      let parts ← sorted.mapM fun (k, x) => do
        pure ((← plainTextWith depth k) ++ ":" ++ (← plainTextWith depth x))
      pure ("map[" ++ " ".intercalate parts ++ "]")
    | other => do pure (← encode other).plainText

def plainText (v : Value) : Run String := plainTextWith 64 v

end Bindery
