import Bindery.Protocol.Answer
import Bindery.Dispatch

/-!
# Requests on expression engines

`parse` fills a helper registry, builds an engine from a name (with a snapshot of the registry
unless asked not to, and a program cache when asked), registers late helpers the engine does not
see, and answers calls: direct helper calls through the registry, cache lookups, and expressions
or functions turned into callables by a translator over the engine and run with an environment
and locals.
-/

namespace Bindery.Protocol

/-- Registers the `register` entries of a request, each a name and an optional helper name
(the name itself by default); returns the registry and each registration's outcome. -/
def registerEntries (hs : Helpers) (entries : List Json) : Helpers × List Json :=
  entries.foldl (fun (hs, rows) entry =>
    let parts : List Json := match entry with
      | .arr xs => xs
      | _ => []
    let name := (parts.head?.map Json.text).getD ""
    let helper := match (parts.drop 1).head? with
      | some h => h.text
      | none => name
    match hs.register name (Helper.ofName helper) with
    | .ok hs' => (hs', rows ++ [.null])
    | .error e => (hs, rows ++ [faultJson e])) (hs, [])

/-- The environment and locals of a call: tables of their objects, or nothing when absent. -/
def callScope (call : Json) : Run (Value × Value) := do
  let env ← match call.field? "env" with
    | some j => Value.ofJson j
    | none => pure .nil
  let locals ← match call.field? "locals" with
    | some j => Value.ofJson j
    | none => pure .nil
  pure (env, locals)

def parseCall (hs : Helpers) (engine : Engine) (call : Json) : Run Json := do
  if let some name := call.str? "call" then
    return ← step do
      let args ← (call.items "args").mapM Value.ofJson
      Run.ofExcept (← hs.call name args)
  if let some key := call.str? "cached" then
    return ← step do pure (.bool (← cachedProgram? engine.cache key).isSome)
  let t : Translator := { engine }
  let shaped := ["form", "get", "error"].any fun k => (call.present? k).isSome
  let source := if shaped then "" else call.strD "expr"
  step do
    let (env, locals) ← callScope call
    if call.flag "direct" then
      let p ← Run.ofExcept (← engine.compileSource source)
      match ← engine.runSource source p (← environmentVars env) with
      | .ok v => pure v
      | .error e => Run.fail (Fault.evaluationIn engine.language.name source e)
    else
      let c ← if call.flag "compile" then Run.ofExcept (← t.compile source)
        else if shaped then
          t.callable (.func (.probe (Form.ofName (call.strD "form")) call))
        else t.callable (← Value.ofJson ((call.field? "expr").getD .null))
      c.runWith machine env locals

def parseRequest (req : Json) : Run Json := do
  let (hs, rows) := registerEntries [] (req.items "register")
  let registered := if req.hasField "register" then [("register", Json.arr rows)] else []
  let cache ← if req.flag "cache" then
      modifyGet fun w => (some w.caches.size, { w with caches := w.caches.push {} })
    else pure none
  let snapshot := if req.flag "no_registry" then none else some hs
  match Engine.byName (req.strD "engine") snapshot cache with
  | .error e => pure (.obj (registered ++ [("engine", faultJson e)]))
  | .ok engine =>
    let late := (req.items "late_register").map fun j => Json.arr [j]
    let (hs, _) := registerEntries hs late
    let calls ← (req.items "calls").mapM (parseCall hs engine)
    pure (.obj (registered ++ [("engine", .str engine.language.name),
      ("names", .arr (hs.names.map .str)), ("calls", .arr calls)]))

end Bindery.Protocol
