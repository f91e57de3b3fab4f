import Bindery.Directive.Registry

/-!
# Building an injector from modules

A new injector holds the two tiers (each reachable as `_injector` on its own tier) and the
registration surface `_provide` on the provider tier. It then loads its module list in order. A
module name loads its module once: first the modules it requires, then its queued registrations
(against `_provide`, or against the directive registry `_compile_provider` for directives), then
its configuration blocks, invoked on the provider tier; its run blocks are kept. Any other entry
must be invocable: it is invoked on the provider tier as an inline configuration, and an
invocable result is kept as a run block. Once every module is loaded the run blocks are invoked on
the instance tier, in the order they were kept.
-/

namespace Bindery.Injector

def prepare : Run Unit := do
  store .instances "_injector" (.container .instances)
  store .providers "_injector" (.container .providers)
  store .providers "_provide" .provide

def inModule (module method : String) (e : Fault) : Fault :=
  .within ("injector: module " ++ Text.quoted module ++ " " ++ method ++ ": ") e

def applyQueued (k : Knot) (module : String) (q : Queued) : Run Unit := do
  match q with
  | .register r =>
    let target ← match ← Run.attempt (k.get .providers "_provide") with
      | .ok t => pure t
      | .error e => Run.fail (inModule module r.method e)
    if !(target matches .provide) then Run.panicWith ("interface conversion: interface {} is " ++
      target.typeName ++ ", not *injector.Provide")
    match ← Run.attempt (register k r) with
    | .ok _ => pure ()
    | .error e => Run.fail (inModule module r.method e)
  | .directive name factory =>
    let target ← match ← Run.attempt (k.get .providers "_compile_provider") with
      | .ok t => pure t
      | .error e => Run.fail (inModule module "directive" e)
    match target with
    | .registry id =>
      match ← Run.attempt (Directive.registerWith k id name factory) with
      | .ok _ => pure ()
      | .error e => Run.fail (inModule module "directive" e)
    | other =>
      Run.fail (inModule module "directive"
        (Fault.because .notProvider ("_compile_provider is " ++ other.typeName)))

def applyConfig (k : Knot) (module : String) (block : Value) : Run Unit := do
  let target ← match ← Run.attempt (k.get .providers "_injector") with
    | .ok t => pure t
    | .error e => Run.fail (inModule module "config" e)
  let .container tier := target
    | Run.panicWith ("interface conversion: interface {} is " ++ target.typeName ++
        ", not *injector.Container")
  match ← Run.attempt (k.invoke tier block .nil []) with
  | .ok _ => pure ()
  | .error e => Run.fail (inModule module "config" e)

/-- Loads module list entries, at most `fuel` requirement levels deep; returns the run blocks
kept, in order. -/
def loadWith (k : Knot) (registry : Registry) : Nat → List Value → Run (List Value)
  | 0, _ => pure []
  | fuel + 1, entries => do
    let mut blocks : List Value := []
    for entry in entries do
      match entry with
      | .str name =>
        if (← state).loaded.contains name then continue
        modifyState fun s => { s with loaded := s.loaded ++ [name] }
        let some m := registry.lookup? name
          | Run.fail (Fault.because .moduleNotFound (Text.quoted name))
        blocks := blocks ++ (← loadWith k registry fuel (m.requires.map .str))
        for q in m.queue do applyQueued k m.name q
        for c in m.configBlocks do applyConfig k m.name c
        blocks := blocks ++ m.runBlocks
      | other =>
        if !other.isInvocable then
          Run.fail (Fault.because .unknownModuleType other.typeName)
        match ← Run.attempt (k.invoke .providers other .nil []) with
        | .ok result => if result.isInvocable then blocks := blocks ++ [result]
        | .error e => Run.fail (.within "injector: inline config: " e)
    pure blocks

def newWith (k : Knot) (registry : Registry) (entries : List Value) : Run Unit := do
  prepare
  let blocks ← loadWith k registry (registry.length + 2) entries
  for block in blocks do
    match ← Run.attempt (k.invoke .instances block .nil []) with
    | .ok _ => pure ()
    | .error e => Run.fail (.within "injector: run block: " e)

end Bindery.Injector
