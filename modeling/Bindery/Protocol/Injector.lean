import Bindery.Protocol.Answer
import Bindery.Protocol.Markup
import Bindery.Protocol.Scope
import Bindery.Injector.Load
import Bindery.Core

/-!
# Requests on injectors

`injector` defines modules on a registry (optionally with the core module), builds an injector
from a module list, and runs steps against it: resolution on either tier, invocation,
instantiation, registration, typed resolution, and directive compilation of markup.
-/

namespace Bindery.Protocol

open Injector

def addCall (m : Module) (call : Json) : Run Module := do
  let field (name : String) : Json := (call.field? name).getD .null
  match call.strD "m" with
  | "directive" => do
    pure (m.add (.directive (call.strD "name") (← Fixture.directiveFactoryOf (field "factory"))))
  | "config" => do pure (m.add (.config (← Fixture.fnOfSpec (field "fn"))))
  | "run" => do pure (m.add (.run (← Fixture.fnOfSpec (field "fn"))))
  | _ => do
    let some r ← Fixture.registrationOf call | pure m
    pure (m.add (.register r))

def moduleOf (spec : Json) : Run Module := do
  let m : Module := { name := spec.strD "name", requires := spec.strings "requires" }
  (spec.items "calls").foldlM addCall m

/-- A module list entry: a name, an inline configuration, or any other value as it is. -/
def entryOf (j : Json) : Run Value := do
  match j with
  | .str s => pure (.str s)
  | .obj _ =>
    match j.field? "inline" with
    | some f => Fixture.fnOfSpec f
    | none => Value.ofJson j
  | other => Value.ofJson other

def registryListing (registry : Registry) : Json :=
  let sorted := registry.mergeSort (fun a b => decide (a.name ≤ b.name))
  .obj [("modules", .arr (sorted.map fun m =>
      .obj [("name", .str m.name), ("requires", .arr (m.requires.map .str))])),
    ("lookup_missing", faultJson (Fault.because .moduleNotFound (Text.quoted "no such module")))]

def elementsIn (nodes : Array Markup.Node) : Nat → List Nat → List Nat
  | 0, _ => []
  | fuel + 1, ids => ids.flatMap fun id =>
    match nodes[id]? with
    | some n => (if n.isElement then [id] else []) ++ elementsIn nodes fuel n.children
    | none => []

def wantedType (name : String) : String :=
  match name with
  | "int" => "int"
  | "string" => "string"
  | "box" => "*main.Box"
  | "descriptors" => "[]compile.Descriptor"
  | "scope" => "*scope.Scope"
  | _ => "map[string]interface {}"

def getAs (key : String) (want : String) : Run Value := do
  let v ← machine.get .instances key
  if v.typeName == want then pure v
  else Run.fail (Fault.because .argumentType (Text.quoted key ++ " is " ++ v.typeName ++ ", want " ++ want))

def matchJson (m : Directive.Match) : Json :=
  match m.descriptor.encode with
  | .obj fields => .obj (if m.grouped then fields ++ [("start", .str m.start), ("end", .str m.finish)] else fields)
  | other => other

def plantStep (step : Json) : Run (List Nat × Bool) := do
  match step.str? "html" with
  | some text => pure (← Markup.plantHtml text, true)
  | none => pure (← Markup.plant (step.items "nodes"), false)

def compileStep (step : Json) : Run Json := do
  let compiler ← getAs ((step.text? "key").getD "_compile") "*compile.Compiler"
  let (roots, parsed) ← plantStep step
  let roots := match step.num? "only" with
    | some i => if i < 0 then [] else (roots[i.toNat]?).toList
    | none => roots
  let c := match compiler with
    | .compiler c => c
    | _ => 0
  let size := (← get).nodes.size
  Directive.runWith machine c (size + 1) roots
  if !parsed then return .null
  let nodes := (← get).nodes
  let marked := (elementsIn nodes (size + 1) roots).filterMap fun id =>
    (nodes[id]?).bind fun n => (n.bag.find? (·.1 == "hasCompiled")).map fun (_, v) => (n.label, v)
  let rows ← marked.mapM fun (label, v) => do pure (Json.obj [("node", .str label), ("value", ← encode v)])
  pure (.obj [("marked", .arr rows)])

/-- Collects the directives of a node of a step's forest, and applies them when asked. -/
def collectStep (step : Json) : Run Json := do
  let compiler ← getAs "_compile" "*compile.Compiler"
  let (roots, _) ← plantStep step
  let index := (step.num? "index").getD 0
  let some node := (if index < 0 then none else roots[index.toNat]?)
    | Run.fail (.text "driver: no node")
  let c := match compiler with
    | .compiler c => c
    | _ => 0
  let found ← Directive.collectWith machine c node
  let rows := found.map matchJson
  if step.flag "apply" then
    let terminal ← Directive.applyMatches found node
    pure (.obj [("matches", .arr rows), ("terminal", .bool terminal)])
  else pure (.arr rows)

def injectorStep (step : Json) : Run Json := do
  let key := step.strD "key"
  match step.strD "s" with
  | "get" => Protocol.step (machine.get .instances key)
  | "has" => Protocol.step (do pure (.bool (← hasOn .instances key)))
  | "provider_get" => Protocol.step (machine.get .providers key)
  | "provider_has" => Protocol.step (do pure (.bool (← hasOn .providers key)))
  | "invoke" => Protocol.step do
    let fn ← Fixture.fnOfSpec ((step.field? "fn").getD .null)
    let locals ← (step.fieldsOf "locals").mapM fun (name, j) => do pure (name, ← Value.ofJson j)
    let receiver ← if step.flag "box_receiver" then do pure (.box (← Run.newBox { label := "recv" }))
      else Value.ofJson ((step.field? "receiver").getD .null)
    machine.invoke .instances fn receiver (dedupEntries locals)
  | "instantiate" => Protocol.step do
    let locals ← (step.fieldsOf "locals").mapM fun (name, j) => do pure (name, ← Value.ofJson j)
    instantiateWith machine .instances (Fixture.ctorOfSpec ((step.field? "ctor").getD .null)) (dedupEntries locals)
  | "provide" => Protocol.step do
    Fixture.provideCall machine ((step.field? "call").getD .null)
    pure .nil
  | "get_as" => Protocol.step (getAs key (wantedType (step.strD "type")))
  | "path" => Protocol.step do pure (.strings (← state).instancePath)
  | "services" => stepJson do
    let root ← getAs "_root_scope" "*scope.Scope"
    let _ ← getAs "_compile" "*compile.Compiler"
    let ttl ← match root with
      | .scope s => do pure (← Scope.stateOf s).ttl
      | _ => pure 0
    pure (.obj [("root_ttl", .int ttl), ("compiler", .bool true)])
  | "root" => stepJson do
    let root ← getAs ((step.text? "key").getD "_root_scope") "*scope.Scope"
    let s := match root with
      | .scope s => s
      | _ => 0
    let _ ← scopeLabel s
    Scope.addObserver s .recorder
    let session : Session := { loop := (← Scope.stateOf s).loop }
    pure (.arr (← (step.items "steps").mapM (scopeStep session)))
  | "compile" => stepJson (compileStep step)
  | "collect" => stepJson (collectStep step)
  | other => pure (unknownStep other)

def injectorRequest (req : Json) : Run Json := do
  let mut registry : Registry := []
  let core := req.field? "core"
  if let some c := core then
    match Engine.byName (c.strD "engine") with
    | .error e => return .obj [("new", faultJson (.within "opular: " e))]
    | .ok engine =>
      let observers := if c.flag "observe" then [Scope.Observer.recorder] else []
      registry := registry.define (← coreModule engine ((c.num? "ttl").getD 10) observers)
  for spec in req.items "modules" do
    registry := registry.define (← moduleOf spec)
  if req.flag "names" then Run.log (registryListing registry)
  let entries ← (req.items "load").mapM entryOf
  let boot := core.isSome || req.flag "bootstrap"
  let outcome ← Run.attempt do
    if boot then
      if (registry.lookup? "op").isNone then
        Run.fail (.within "opular: " (Fault.because .moduleNotFound (Text.quoted "op")))
      newWith machine registry (.str "op" :: entries)
    else newWith machine registry entries
  let log ← Run.takeLog
  let newLog := if log.isEmpty then [] else [("new_log", Json.arr log.toList)]
  match outcome with
  | .error e => pure (.obj ([("new", faultJson e)] ++ newLog))
  | .ok _ =>
    let steps ← (req.items "steps").mapM injectorStep
    pure (.obj ([("new", .null)] ++ newLog ++ [("steps", .arr steps)]))

end Bindery.Protocol
