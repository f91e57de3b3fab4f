import Bindery.Fixture.Spec
import Bindery.Directive.Describe
import Bindery.Host.Fixture

/-!
# Scripted bodies

A scripted function counts its calls per label, logs each call with its arguments (and its
receiver when there is one), fails or panics while it is still failing, appends its label to the
boxes among its arguments when asked, and returns what its `ret` field chooses: a value, its
arguments, its call count, its receiver, a new box, a built function, the outcome of
registrations, of operations on a container, or of changes to a setting, a root scope provider,
a translator provider or a directive registry found among its receiver and arguments.

Scripted constructors initialise boxes, settings and directive objects the same way: they log the
construction, fill the object from the dependencies, then fail as described.
-/

namespace Bindery.Fixture

def notContainer (v : Value) : String :=
  "interface conversion: interface {} is " ++ v.typeName ++ ", not *injector.Container"

def containerTier (args : List Value) : Run Tier :=
  match args with
  | .container t :: _ => pure t
  | v :: _ => Run.panicWith (notContainer v)
  | [] => Run.panicWith "runtime error: index out of range [0] with length 0"

/-- Logs a scripted call, counts it and fails while failing; returns the call count. -/
def enter (spec : Json) (receiver : Value) (args : List Value) : Run Nat := do
  let label := spec.strD "label"
  let n ← Run.tickLabel label
  if !label.isEmpty then
    let base := [("call", Json.str label), ("args", ← encodeAll args)]
    let shown ← match receiver with
      | .nil => pure base
      | r => do pure (base ++ [("receiver", ← encode r)])
    Run.log (.obj shown)
  let failing := match spec.num? "fail_times" with
    | none => true
    | some t => (n : Int) ≤ t
  if failing then
    if let some p := spec.str? "panic" then Run.panicWith p
    if let some e := spec.str? "error" then Run.fail (.text e)
  pure n

def appendToBoxes (label : String) (vs : List Value) : Run Unit := do
  for v in vs do
    if let .box id := v then
      let b ← Run.box id
      Run.setBox id { b with items := b.items ++ [.str label] }

/-- Applies one registration call; a call that is not a registration fails. -/
def provideCall (k : Knot) (call : Json) : Run Unit := do
  match ← registrationOf call with
  | some r => Injector.register k r
  | none => Run.fail (.text ("driver: unknown provide call " ++ Text.quoted (call.strD "m")))

/-- Applies registration calls in order, stopping at the first failure. -/
def registerAll (k : Knot) (calls : List Json) : Run Unit := do
  for call in calls do provideCall k call

/-- The container operation a `ret` field asks for, if any. -/
def containerOp (k : Knot) (ret : Json) (tier : Tier) : Run (Option Value) := do
  if let some key := ret.str? "get" then return some (← k.get tier key)
  if let some key := ret.str? "has" then return some (.bool (← Injector.hasOn tier key))
  if let some fn := ret.field? "invoke" then
    let locals ← (ret.fieldsOf "locals").mapM fun (name, j) => do pure (name, ← Value.ofJson j)
    return some (← k.invoke tier (← fnOfSpec fn) .nil locals)
  if let some c := ret.field? "instantiate" then
    return some (← Injector.instantiateWith k tier (ctorOfSpec c) [])
  if ret.flag "path" then return some (.strings ((← Injector.state).path tier))
  return none

/-- The registry operation a `ret` field asks for, if any. -/
def registryOp (k : Knot) (ret : Json) (id : Nat) : Run (Option Value) := do
  if let some name := ret.field? "directive" then
    Directive.registerWith k id name.text (← directiveFactoryOf ((ret.field? "factory").getD .null))
    return some .nil
  if let some table := ret.field? "directives" then
    let .obj entries := table
      | Run.panicWith ("interface conversion: interface {} is " ++ table.goTypeName ++
          ", not map[string]interface {}")
    let factories ← (Json.dedupFields entries).mapM fun (name, j) => do pure (name, ← directiveFactoryOf j)
    Directive.registerAllWith k id factories
    return some .nil
  if ret.flag "names" then return some (.strings (← Directive.registryAt id).names)
  if let some name := ret.str? "has_directive" then
    return some (.bool ((← Directive.registryAt id).has name))
  return none

/-- What a `ret` field returns for a call with its count, receiver and arguments. -/
def retWith (k : Knot) (spec : Json) (n : Nat) (receiver : Value) (args : List Value) :
    Run Value := do
  let some ret := spec.field? "ret" | return .nil
  let label := spec.strD "label"
  let around := receiver :: args
  if let some v := ret.field? "value" then return ← Value.ofJson v
  if ret.flag "args" then return ← Run.newList args
  if ret.flag "count" then return .int n
  if ret.flag "receiver" then return receiver
  if ret.flag "box" then return .box (← Run.newBox { label })
  if let some f := ret.field? "fn" then return ← fnOfSpec f
  if let some calls := ret.field? "provide" then
    if around.any (· matches .provide) then
      registerAll k (match calls with | .arr cs => cs | _ => [])
      return .nil
    else Run.fail (.text "driver: no _provide argument")
  if let some (.container tier) := around.find? (· matches .container _) then
    if let some v ← containerOp k ret tier then return v
  if let some v := ret.field? "configure" then
    for x in around do
      if let .setting id := x then
        let s ← Run.setting id
        Run.setSetting id { s with value := ← Value.ofJson v }
    return .nil
  if let some ttl := ret.field? "ttl" then
    let some (.rootProvider id) := around.find? (· matches .rootProvider _)
      | Run.fail (.text "driver: no root scope provider argument")
    let ttl := ttl.number
    let p := (← get).rootProviders[id]?.getD { ttl := 10 }
    let p := if ttl > 0 then { p with ttl } else p
    modify fun w => { w with rootProviders := w.rootProviders.set! id p }
    return .int p.ttl
  if let some name := ret.field? "use_engine" then
    let some (.translatorProvider id) := around.find? (· matches .translatorProvider _)
      | Run.fail (.text "driver: no parse provider argument")
    let e ← Run.ofExcept (Engine.byName name.text)
    modify fun w => { w with translatorProviders := w.translatorProviders.set! id { engine := some e } }
    return .nil
  if let some (.registry id) := around.find? (· matches .registry _) then
    if let some v ← registryOp k ret id then return v
  return .nil

def bodyWith (k : Knot) (spec : Json) (receiver : Value) (args : List Value) : Run Value := do
  let n ← enter spec receiver args
  if spec.str? "mutate" == some "append" then appendToBoxes (spec.strD "label") args
  retWith k spec n receiver args

/-- Logs a construction with its dependencies, when the constructor has a label. -/
def logConstruct (label : String) (deps : List Value) : Run Unit := do
  if !label.isEmpty then
    Run.log (.obj [("construct", .str label), ("args", ← encodeAll deps)])

/-- Fails as a constructor description says: an error first, then a panic. -/
def constructFailure (spec : Json) : Run (List Value) := do
  if let some e := spec.str? "error" then return [.error (.text e)]
  if let some p := spec.str? "panic" then Run.panicWith p
  pure [.nil]

/-- Initialises a box: logs, takes the label and the dependencies as items, then fails as
described. The box is the first argument. -/
def boxInitBody (spec : Json) (args : List Value) : Run (List Value) := do
  let label := spec.strD "label"
  let deps := args.drop 1
  logConstruct label deps
  match args with
  | .box id :: _ => Run.setBox id { label, items := deps }
  | _ => Run.panicWith nilDereference
  constructFailure spec

/-- Initialises a setting: logs, takes the dependencies (or the given value) as its value and the
resolver dependencies, then fails as described. The setting is the first argument. -/
def settingInitBody (spec : Json) (args : List Value) : Run (List Value) := do
  let label := spec.strD "label"
  let deps := args.drop 1
  logConstruct label deps
  let value ← match spec.field? "value" with
    | some v => Value.ofJson v
    | none => Run.newList deps
  match args with
  | .setting id :: _ => Run.setSetting id { value, inject := spec.strings "resolver_inject" }
  | _ => Run.panicWith nilDereference
  constructFailure spec

/-- The printed text of dependencies appended to a label, when there are any. -/
def labelWith (label : String) (deps : List Value) : Run String := do
  if deps.isEmpty then pure label
  else pure (label ++ (← encodeAll deps).plainText)

/-- Initialises a directive object made by a directive constructor: logs, labels its compile step
with the dependencies, then fails as the constructor part of the description says, its error
before its panic. -/
def directiveInitBody (spec : Json) (self : Value) (deps : List Value) : Run Unit := do
  let label := spec.strD "label"
  logConstruct label deps
  let shown ← labelWith label deps
  if let .directive id := self then
    let d := (← get).directives[id]?.getD { restrict := ⟨0⟩ }
    let d := { d with compile := recordStep spec shown }
    modify fun w => { w with directives := w.directives.set! id d }
  let c := (spec.field? "ctor").getD (.obj [])
  if let some e := c.str? "error" then Run.fail (.text e)
  if let some p := c.str? "panic" then Run.panicWith p

/-- Runs a directive-producing function: the scripted part logs and fails, then the directive of
the produced form is made, its label carrying the dependencies. -/
def makeDirectiveBody (spec : Json) (receiver : Value) (args : List Value) : Run Value := do
  let _ ← enter ((spec.field? "fn").getD (.obj [])) receiver args
  directiveFormOf spec (spec.strD "produces") (← labelWith (spec.strD "label") args)

def directiveThunkBody (spec : Json) : Run Value := do
  Run.log (.obj [("call", .str ("gofunc " ++ spec.strD "label"))])
  directiveOf spec "" (spec.strD "label")

end Bindery.Fixture
