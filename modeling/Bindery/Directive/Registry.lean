import Bindery.Injector.Provide

/-!
# Directive registries

A directive registry keeps, for each directive name, the factories registered under it in order.
The first registration of a name also registers the factory of `<name>_directive` with the
injector, whose instance is the list of descriptors the factories produce. A name must not be
empty and a factory must not be nil; a refused registration changes nothing.
-/

namespace Bindery

def DirectiveRegistry.has (r : DirectiveRegistry) (name : String) : Bool :=
  r.factories.any (·.1 == name)

def DirectiveRegistry.names (r : DirectiveRegistry) : List String :=
  (r.factories.map (·.1)).mergeSort (fun a b => decide (a ≤ b))

def DirectiveRegistry.factoriesOf (r : DirectiveRegistry) (name : String) : List Value :=
  ((r.factories.find? (·.1 == name)).map (·.2)).getD []

namespace Directive

def registryAt (id : Nat) : Run DirectiveRegistry := do pure ((← get).registries[id]?.getD {})

def setRegistry (id : Nat) (r : DirectiveRegistry) : Run Unit :=
  modify fun w => { w with registries := w.registries.set! id r }

def serviceKey (name : String) : String := name ++ "_directive"

def registerWith (k : Knot) (id : Nat) (name : String) (factory : Value) : Run Unit := do
  if name.isEmpty then Run.fail (Fault.because .invalidDirective "empty name")
  if factory matches .nil then
    Run.fail (Fault.because .invalidDirective (Text.quoted name ++ " has nil factory"))
  let r ← registryAt id
  if !r.has name then
    setRegistry id { r with factories := r.factories ++ [(name, [])] }
    match ← Run.attempt (Injector.registerFactory k (serviceKey name)
        (.invocable ["_injector"] (.describe id name))) with
    | .ok _ => pure ()
    | .error e =>
      let r ← registryAt id
      setRegistry id { r with factories := r.factories.filter (·.1 != name) }
      Run.fail e
  let r ← registryAt id
  setRegistry id { r with
    factories := r.factories.map fun (n, fs) => if n == name then (n, fs ++ [factory]) else (n, fs) }

/-- Registers entries in sorted name order, stopping at the first refusal. -/
def registerAllWith (k : Knot) (id : Nat) (entries : List (String × Value)) : Run Unit := do
  let sorted := entries.mergeSort (fun a b => decide (a.1 ≤ b.1))
  for (name, factory) in sorted do
    registerWith k id name factory

end Directive

end Bindery
