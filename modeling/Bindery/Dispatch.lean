import Bindery.Fixture.Body
import Bindery.Fixture.Action
import Bindery.Directive.Compiler

/-!
# Dispatch

`callWith` calls any function value: an invocable runs what it declares, a plain function is
called by the host's calling rules (arguments checked against its signature, then its body, then
its results shaped), and anything else cannot be called. `knot` ties the interpreter's entry
points to these operations, a given number of levels deep.
-/

namespace Bindery

/-- A new root scope for a root provider, with a translator (the default one when none is
given) and a loop of its own. -/
def buildRoot (provider : Nat) (args : List Value) : Run Value := do
  let p := (← get).rootProviders[provider]?.getD { ttl := 10 }
  let t : Translator := match args with
    | [.translator t] => t
    | _ => { engine := { language := .expr } }
  let loop ← Scope.newLoop
  pure (.scope (← Scope.newRoot t p.ttl loop p.observers))

/-- The body of a plain host function, on the arguments it received; one value per result
type. -/
def hostBody (k : Knot) (f : HostFn) (args : List Value) : Run (List Value) := do
  match f with
  | .fixture s label => s.run label args
  | .boxInit spec _ => Fixture.boxInitBody spec args
  | .settingInit spec _ => Fixture.settingInitBody spec args
  | .registryInit =>
    match args with
    | .registry id :: surface :: _ => do
      let r ← Directive.registryAt id
      Directive.setRegistry id { r with provide := surface }
      pure []
    | _ => Run.panicWith nilDereference
  | .appInit => pure []
  | .buildTranslator id => do
    let p := (← get).translatorProviders[id]?.getD {}
    pure [.translator { engine := p.engine.getD { language := .expr } }]
  | .directiveThunk spec => do pure [← Fixture.directiveThunkBody spec]
  | .buildRoot id => do pure [← buildRoot id args]
  | .scripted form spec counter home => Fixture.scriptedBody k form spec counter home args
  | .probe form spec => Fixture.probeBody form spec args
  | .listener spec counter wid => do
    Fixture.listenerBody k spec counter wid args
    pure []
  | .flushApplyQueue s => do
    Scope.flushApply k s
    pure []
  | .afterDigest spec s => do
    let _ ← Fixture.actionWith k s spec 0
    pure []
  | other => pure (other.signature.results.map HostType.zero)

def callHost (k : Knot) (f : HostFn) (receiver : Value) (args : List Value) : Run Value := do
  let sig := f.signature
  let given ← Run.ofExcept (sig.bind receiver args)
  if sig.tooFew given then Run.panicWith "reflect: Call with too few input arguments"
  let outs ← hostBody k f given
  Run.returning (sig.outcome outs)

/-- Calls a value by the host's calling rules: only plain functions can be called this way. -/
def callReflect (k : Knot) (fn receiver : Value) (args : List Value) : Run Value :=
  match fn with
  | .func f => callHost k f receiver args
  | .providerFunc inner =>
    if args.isEmpty then pure inner
    else Run.fail (Fault.because .argumentType ("func() interface {} expects 0 arguments, got " ++
      Decimal.natText args.length))
  | other => Run.fail (Fault.because .notInvocable other.typeName)

/-- The compiler of a directive registry, made on first use. -/
def compilerOf (id : Nat) : Run Value := do
  let r ← Directive.registryAt id
  match r.compiler with
  | some c => pure (.compiler c)
  | none =>
    let c ← modifyGet fun w => (w.compilers.size, { w with compilers := w.compilers.push id })
    Directive.setRegistry id { r with compiler := some c }
    pure (.compiler c)

/-- Runs what an invocable declares, with a receiver and its dependencies. -/
def actWith (k : Knot) (act : Act) (receiver : Value) (args : List Value) : Run Value := do
  match act with
  | .script spec => Fixture.bodyWith k spec receiver args
  | .reflect fn => callReflect k fn receiver args
  | .yield v => pure v
  | .instantiate c => Injector.instantiateWith k (← Fixture.containerTier args) c []
  | .delegate fn => k.invoke (← Fixture.containerTier args) fn .nil []
  | .decorate inner provider fn =>
    let inst ← k.invoke .instances inner provider []
    let _ ← k.invoke .instances fn .nil [("_delegate", inst)]
    pure inst
  | .offer id =>
    let s ← Run.setting id
    Run.newTable [("provided", s.value), ("args", ← Run.newList args)]
  | .compile id => compilerOf id
  | .describe id name =>
    Directive.buildWith Record.decodeRecord k id name (← Fixture.containerTier args)
  | .initialise c =>
    match c.init with
    | none => pure .nil
    | some (.host f) => do
      let _ ← callHost k f receiver args
      pure .nil
    | some (.script spec) => do
      Fixture.directiveInitBody spec receiver args
      pure .nil
  | .makeDirective spec => Fixture.makeDirectiveBody spec receiver args
  | .nothing => pure .nil

def callWith (k : Knot) (fn receiver : Value) (args : List Value) : Run Value :=
  match fn with
  | .invocable _ act => actWith k act receiver args
  | other => callReflect k other receiver args

def knot : Nat → Knot
  | 0 => Knot.exhausted
  | depth + 1 =>
    let k := knot depth
    { get := Injector.getWith k
      invoke := Injector.invokeWith k
      call := callWith k }

def depthLimit : Nat := 2000

def machine : Knot := knot depthLimit

end Bindery
