import Bindery.Injector.Container

/-!
# Registration

The registration surface of an injector. A constant is stored on both tiers at once. A provider is
stored on the provider tier under `<key>_provider` and forgets the key's decorations; a
constructor given as provider is first instantiated on the provider tier. Factories, values and
services are providers whose resolver invokes a function on the instance tier. A decorator wraps
the key's current resolver: the wrapped resolver builds the instance, then the decorator is
invoked with the instance as the local `_delegate`, and the instance is the result. Decorators
compose in the order they were registered.
-/

namespace Bindery.Injector

def constant (key : String) (v : Value) : Run Unit := do
  store .providers key v
  store .instances key v

def registerProvider (k : Knot) (key : String) (p : Value) : Run Unit := do
  let p ← match p with
    | .ctor c =>
      match ← Run.attempt (instantiateWith k .providers c []) with
      | .ok built => pure built
      | .error e => Run.fail (.within ("injector: instantiate provider " ++ Text.quoted key ++ ": ") e)
    | other => pure other
  if !p.isProvider then
    Run.fail (Fault.because .notProvider (Text.quoted key ++ " is " ++ p.typeName))
  store .providers (key ++ "_provider") p
  modifyState fun s => { s with decorated := s.decorated.filter (·.1 != key) }

def registerFactory (k : Knot) (key : String) (fn : Value) : Run Unit := do
  if !fn.isInvocable then
    Run.fail (Fault.because .notInvocable ("factory " ++ Text.quoted key ++ " is " ++ fn.typeName))
  registerProvider k key (.factoryProvider fn)

def registerValue (k : Knot) (key : String) (v : Value) : Run Unit :=
  registerFactory k key (.invocable [] (.yield v))

def registerService (k : Knot) (key : String) (c : Ctor) : Run Unit :=
  registerFactory k key (.invocable ["_injector"] (.instantiate c))

def registerDecorator (k : Knot) (key : String) (fn : Value) : Run Unit := do
  if !fn.isInvocable then
    Run.fail (Fault.because .notInvocable ("decorator for " ++ Text.quoted key ++ " is " ++ fn.typeName))
  let provider ← k.get .providers (key ++ "_provider")
  if !provider.isProvider then
    Run.fail (Fault.because .notProvider (Text.quoted key ++ " is " ++ provider.typeName))
  let inner ← resolverFor key provider
  modifyState fun s =>
    { s with decorated := (s.decorated.filter (·.1 != key)) ++ [(key, .invocable [] (.decorate inner provider fn))] }

def register (k : Knot) : Registration → Run Unit
  | .constant key v => constant key v
  | .provider key p => registerProvider k key p
  | .factory key fn => registerFactory k key fn
  | .value key v => registerValue k key v
  | .service key c => registerService k key c
  | .decorator key fn => registerDecorator k key fn

end Bindery.Injector
