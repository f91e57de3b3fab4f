import Bindery.Protocol.Answer
import Bindery.Dispatch

/-!
# Requests on scope trees

`scope` builds a root scope (with a translator, a loop, a recording observer and the observers
the request asks for) and runs steps against the tree: variables, children, watchers, digests,
applies, deferred work, the loop, and activity and metrics.
-/

namespace Bindery.Protocol

open Scope

/-- What the steps of a request share: the loop of the tree, the capture hook when activity is
recorded (with the failure it answers), and whether metrics are counted. -/
structure Session where
  loop : Nat
  capture : Option (Option String) := none
  metrics : Bool := false

def identJson : Activity.Ident → Run Json
  | .scope id => do pure (.str (← scopeLabel id))
  | .text s => pure (.str s)

/-- The log entry of a captured event: empty texts are left out, metadata shows scope numbers
as labels. -/
def eventJson (e : Activity.Event) : Run Json := do
  let text (key value : String) : List (String × Json) :=
    if value.isEmpty then [] else [(key, .str value)]
  let parent ← if e.parentId.isEmpty then pure [] else do pure [("parent", ← identJson e.parentId)]
  let details ← e.metadata.filterMapM fun (key, v) => do
    if key == "duration_ms" then return none
    match key, v with
    | "scope_id", .scope id => return some (key, .str (← scopeLabel id))
    | _, _ => return some (key, ← encode v)
  pure (.obj ([("activity", .str e.verb), ("object_type", .str e.objectType),
    ("object", ← identJson e.objectId)] ++ parent ++ text "actor" e.actor ++
    text "tenant" e.tenant ++ text "channel" e.channel ++
    (if details.isEmpty then [] else [("metadata", .obj details)])))

/-- The log entries of the events captured since the last call. -/
def takeEvents : Run (List Json) := do
  let w ← get
  let fresh := w.events.toList.drop w.shownEvents
  set { w with shownEvents := w.events.size }
  fresh.mapM eventJson

/-- Runs a step: its answer document or its fault, with its log and the events it captured. -/
def sessionStep (x : Run Json) : Run Json := do
  let r ← Run.attempt x
  let log ← Run.takeLog
  let log := log ++ (← takeEvents).toArray
  match r with
  | .ok j => pure (withLog (.obj [("r", j)]) log)
  | .error e => pure (withLog (faultJson e) log)

/-- The scope a step acts on: the one its `on` label names, the first one by default. -/
def stepScope (step : Json) : Run Nat := do
  let label := (step.text? "on").getD "s0"
  match ← scopeOfLabel? label with
  | some s => pure s
  | none => Run.fail (.text ("driver: unknown scope " ++ Text.quoted label))

/-- The metric lines of the counters, with the rounds' sum. -/
def metricLines (c : Activity.Counters) : List String := c.lines true

/-- Emits the event an `emit` step describes, through the capture hook directly or through a new
emitter over it. -/
def emitStep (session : Session) (step : Json) : Run Json := do
  let details ← match step.field? "metadata" with
    | some (.obj fields) => Value.ofJsonFields (Json.dedupFields fields)
    | _ => pure []
  let event : Activity.Event :=
    { verb := step.strD "verb", objectType := step.strD "object_type"
      objectId := .text (step.strD "object_id"), actor := step.strD "actor"
      channel := step.strD "channel", metadata := details }
  let hooks := (session.capture.map fun fail => Activity.Hook.capture fail).toList
  let failure ← if step.flag "hooks_direct" then notifyHooks hooks event
    else
      let em := Activity.Emitter.new (hooks.map some) (!step.flag "disabled")
        (step.strD "default_channel") (step.strD "default_actor") ""
      if step.flag "nil_emitter" || !em.isEnabled then
        Run.log (.obj [("emitter", .str "disabled")])
        return .null
      emitEvent em event
  match failure with
  | some e => Run.fail e
  | none => pure .null

def traceJson (s : Nat) (name : String) : Run Json := do
  let layers ← trace s name
  let rows ← layers.mapM fun l => do
    pure (Json.obj [("scope", .str (← scopeLabel l.scope)), ("found", .bool l.found),
      ("value", ← encode l.value)])
  let settled := effective layers
  pure (.obj [("name", .str name), ("layers", .arr rows),
    ("effective", ← encode (settled.getD .nil)), ("found", .bool settled.isSome),
    ("json_name", .str name),
    ("json_values", .int (layers.filter fun l => !(l.value matches .nil)).length)])

def infoJson (s : Nat) : Run Json := do
  let n ← nodeAt s
  let t ← stateOf s
  let label (o : Option Nat) : Run Json := match o with
    | some p => do pure (.str (← scopeLabel p))
    | none => pure .null
  pure (.obj [("parent", ← label n.lookupParent), ("hparent", ← label n.hparent),
    ("root", .str (← scopeLabel n.root)), ("isolated", .bool n.isolated),
    ("watchers", .int n.watchers.length), ("ttl", .int t.ttl), ("phase", .str t.phase.name)])

def localsOf (step : Json) : Run Value := do
  match step.field? "locals" with
  | some (.obj fields) => Run.newTable (dedupEntries (← Value.ofJsonFields fields))
  | _ => pure .nil

def scopeStep (session : Session) (step : Json) : Run Json := do
  let k := machine
  let name := step.strD "name"
  let expr (s : Nat) : Run Value := Fixture.callOf s ((step.field? "expr").getD .null)
  match step.strD "s" with
  | "child" => sessionStep do
    let s ← stepScope step
    let hparent ← match step.field? "hparent" with
      | some (.str l) => scopeOfLabel? l
      | _ => pure none
    pure (.str (← scopeLabel (← newChild s (step.flag "isolated") hparent)))
  | "set" => sessionStep do
    setVar (← stepScope step) name (← Value.ofJson ((step.field? "value").getD .null))
    pure .null
  | "get" => sessionStep do
    let found ← lookup (← stepScope step) name
    pure (.obj [("value", ← encode (found.getD .nil)), ("found", .bool found.isSome)])
  | "has" => sessionStep do
    let s ← stepScope step
    pure (.obj [("has", .bool (← lookup s name).isSome), ("own", .bool ((← nodeAt s).own? name).isSome)])
  | "delete" => sessionStep do
    deleteVar (← stepScope step) name
    pure .null
  | "keys" => sessionStep do
    pure (.arr ((← nodeAt (← stepScope step)).props.map fun (key, _) => .str key))
  | "vars" => sessionStep do
    let entries ← vars (← stepScope step)
    pure (.obj (← entries.mapM fun (key, v) => do pure (key, ← encode v)))
  | "trace" => sessionStep do traceJson (← stepScope step) name
  | "map_set" => sessionStep do
    match ← getVar (← stepScope step) name with
    | .table id =>
      let v ← Value.ofJson ((step.field? "value").getD .null)
      let entries ← Run.tableEntries id
      let key := step.strD "key"
      Run.setTable id (dedupEntries (entries ++ [(key, v)]))
      pure .null
    | _ => Run.fail (.text "driver: not a map")
  | "watch" => sessionStep do
    let s ← stepScope step
    pure (.str (← Fixture.watchOf s step))
  | "unwatch" => sessionStep do
    if let some wid := Fixture.labelNumber? 'w' (step.strD "w") then
      if wid < (← get).watchers.size then deregister wid
    pure .null
  | "digest" => sessionStep do
    digestWith k (← stepScope step)
    pure .null
  | "apply" => sessionStep do
    let s ← stepScope step
    let (v, e) ← applyWith k s (← expr s)
    match e with
    | some f => Run.fail f
    | none => encode v
  | "eval" => sessionStep do
    let s ← stepScope step
    encode (← evalWith k s (← expr s) (← localsOf step))
  | "eval_async" => sessionStep do
    let s ← stepScope step
    evalAsync s (← expr s)
    pure .null
  | "apply_async" => sessionStep do
    let s ← stepScope step
    applyAsync s (← expr s)
    pure .null
  | "post_digest" => sessionStep do
    let s ← stepScope step
    match step.field? "fn" with
    | none | some .null => postDigest s .nil
    | some spec => postDigest s (.func (.afterDigest spec s))
    pure .null
  | "flush" => sessionStep do pure (.int (← flushWith k session.loop))
  | "pending" => sessionStep do pure (.int (← loopAt session.loop).queue.length)
  | "phase" => sessionStep do pure (.str (← stateOf (← stepScope step)).phase.name)
  | "destroy" => sessionStep do
    destroy (← stepScope step)
    pure .null
  | "children" => sessionStep do
    let n ← nodeAt (← stepScope step)
    pure (.arr (← n.children.mapM fun c => do pure (.str (← scopeLabel c))))
  | "info" => sessionStep do infoJson (← stepScope step)
  | "tally" => sessionStep do
    pure (.obj ((← get).tally.map fun (l, n) => (l, .int n)))
  | "metrics" => sessionStep do
    if !session.metrics then Run.fail (.text "driver: metrics not enabled")
    pure (.arr ((metricLines (← get).counts).map .str))
  | "verbs" => sessionStep do
    if session.capture.isNone then Run.fail (.text "driver: activity not enabled")
    pure (.arr ((← get).events.toList.map fun e => .str e.verb))
  | "emit" => sessionStep (emitStep session step)
  | other => do
    match ← Run.attempt (stepScope step) with
    | .error e => sessionStep (Run.fail e)
    | .ok _ => pure (unknownStep other)

/-- The translator a scope request asks for, or the engine failure that answers it. -/
def scopeTranslator (req : Json) : Run (Except Fault Translator) := do
  let helpers : Option Helpers := match req.field? "functions" with
    | some (.arr names) => some (names.foldl (fun hs j => match j with
        | .str n => match hs.register n (Helper.ofName n) with
          | .ok hs' => hs'
          | .error _ => hs
        | _ => hs) [])
    | some .null | none => none
    | some _ => some []
  let cache ← if req.flag "cache" then
      modifyGet fun w => (some w.caches.size, { w with caches := w.caches.push {} })
    else pure none
  match req.str? "engine" with
  | some name =>
    match Engine.byName name helpers cache with
    | .ok e => pure (.ok { engine := e })
    | .error e => pure (.error e)
  | none =>
    if helpers.isSome then pure (.ok { engine := { language := .expr, helpers, cache } })
    else pure (.ok { engine := { language := .expr } })

/-- The activity observer a request asks for, with the capture hook's failure. -/
def activityOf (spec : Json) : Activity.Emitter × Option String :=
  let fail := spec.str? "hook_error"
  let base : List (Option Activity.Hook) :=
    if spec.flag "no_hooks" then [none] else [some (.capture fail)]
  let hooks := if spec.flag "hookfunc" then base ++ [none, some .empty, some .logVerb] else base
  let enabled := match spec.field? "enabled" with
    | some (.bool b) => b
    | _ => true
  (Activity.Emitter.new hooks enabled (spec.strD "channel") (spec.strD "actor") (spec.strD "tenant"),
    fail)

def scopeRequest (req : Json) : Run Json := do
  let translator ← match ← scopeTranslator req with
    | .ok t => pure t
    | .error e => return faultJson e
  let loop ← newLoop
  let activity := (req.field? "activity").map activityOf
  let observers : List Observer := [.recorder, .quiet] ++
    (activity.map fun (em, _) => Observer.activity em).toList ++
    (if req.flag "metrics" then [.metrics] else [])
  let _ ← newRoot translator ((req.num? "ttl").getD 10) loop observers
  let log ← Run.takeLog
  let newLog := (log ++ (← takeEvents).toArray).toList
  let session : Session := { loop, capture := activity.map (·.2), metrics := req.flag "metrics" }
  let steps ← (req.items "steps").mapM (scopeStep session)
  pure (.obj ((if newLog.isEmpty then [] else [("new_log", .arr newLog)]) ++ [("steps", .arr steps)]))

end Bindery.Protocol
