import Bindery.Host.Call

/-!
# Resolution tiers

An injector resolves keys on two tiers. The provider tier holds providers (under `<key>_provider`),
constants and the registration surface; a key it does not hold is an unknown provider. The
instance tier builds a missing key from its provider: it resolves the provider on the provider
tier, asks it for its resolver (or takes the decorated resolver) and invokes that with the
provider as receiver.

While a key is built its cache entry is pending and the key heads the tier's path; asking for a
pending key is a circular dependency. A build that fails leaves no entry behind, so a later request
tries again; one that succeeds settles the entry it created, unless a constant replaced it in the
meantime. A panic during a build becomes a failure naming the key.
-/

namespace Bindery.Injector

def state : Run State := do pure (← get).injector

def modifyState (f : State → State) : Run Unit :=
  modify fun w => { w with injector := f w.injector }

def freshCell : Run Nat := modifyGet fun w =>
  (w.injector.nextCell, { w with injector := { w.injector with nextCell := w.injector.nextCell + 1 } })

def putCell (tier : Tier) (key : String) (cell : Cell) : Run Unit :=
  modifyState fun s => s.setCache tier ((s.cache tier).put key cell)

/-- Stores a resolved value under a key on a tier, in a new entry. -/
def store (tier : Tier) (key : String) (v : Value) : Run Unit := do
  let id ← freshCell
  putCell tier key ⟨id, .resolved v⟩

/-- Runs a computation, then the cleanup, also when the computation stops early. -/
def ensuring (x : Run α) (cleanup : Run Unit) : Run α :=
  tryCatch (do let a ← x; cleanup; pure a) fun e => do cleanup; throw e

def resolverOf : Value → Run Value
  | .setting id => do pure (.invocable (← Run.setting id).inject (.offer id))
  | .factoryProvider fn => pure (.invocable ["_injector"] (.delegate fn))
  | .providerFunc fn => pure fn
  | .registry id => pure (.invocable ["_injector"] (.compile id))
  | .rootProvider id => pure (.invocable ["_parse"] (.reflect (.func (.buildRoot id))))
  | .translatorProvider id => pure (.func (.buildTranslator id))
  | .brokenProvider msg => Run.panicWith msg
  | _ => pure .nil

/-- The resolver a key is built with: its decorated resolver if it has one, else its
provider's. -/
def resolverFor (key : String) (provider : Value) : Run Value := do
  match (← state).decorated.find? (·.1 == key) with
  | some (_, r) => pure r
  | none => resolverOf provider

/-- Builds a key missing from a tier's cache; `path` is the tier's path, headed by the key. -/
def fallbackWith (k : Knot) (tier : Tier) (key : String) (path : List String) : Run Value := do
  match tier with
  | .providers => Run.fail (.unknownProvider (path ++ (← state).instancePath))
  | .instances =>
    let provider ← k.get .providers (key ++ "_provider")
    if !provider.isProvider then
      Run.fail (Fault.because .notProvider (Text.quoted key ++ " is " ++ provider.typeName))
    let resolver ← resolverFor key provider
    k.invoke .instances resolver provider []

/-- The state with the entry a build created settled: resolved with the value when it is still
the key's entry. -/
def State.settle (s : State) (tier : Tier) (key : String) (id : Nat) (v : Value) : State :=
  match (s.cache tier).find? key with
  | some c => if c.id == id then s.setCache tier ((s.cache tier).put key ⟨id, .resolved v⟩) else s
  | none => s

def settle (tier : Tier) (key : String) (id : Nat) (v : Value) : Run Unit :=
  modifyState (·.settle tier key id v)

/-- The state after a build is left: the key dropped from the head of the tier's path, and its
entry dropped when it is still the pending entry the build created. -/
def State.leave (s : State) (tier : Tier) (key : String) (id : Nat) : State :=
  let s := s.setPath tier (s.path tier).tail
  match (s.cache tier).find? key with
  | some ⟨i, .pending⟩ => if i == id then s.setCache tier ((s.cache tier).erase key) else s
  | _ => s

def leave (tier : Tier) (key : String) (id : Nat) : Run Unit :=
  modifyState (·.leave tier key id)

/-- Builds a key whose pending entry has identity `id`: its fallback, with a panic turned into a
failure naming the key; the entry is then settled with the value. -/
def buildWith (k : Knot) (tier : Tier) (key : String) (id : Nat) : Run Value := do
  let path := (← state).path tier
  let v ← Run.recoverPanic (fallbackWith k tier key path) fun t =>
    Run.fail (.text ("injector: panic while resolving " ++ Text.quoted key ++ ": " ++ t))
  settle tier key id v
  pure v

/-- Resolves a key on a tier: its cached value, or a fresh build. -/
def getWith (k : Knot) (tier : Tier) (key : String) : Run Value := do
  let s ← state
  match (s.cache tier).find? key with
  | some ⟨_, .pending⟩ => Run.fail (.circular (key :: s.path tier))
  | some ⟨_, .resolved v⟩ => pure v
  | none =>
    let id ← freshCell
    putCell tier key ⟨id, .pending⟩
    modifyState fun s => s.setPath tier (key :: s.path tier)
    ensuring (buildWith k tier key id) (leave tier key id)

def hasOn (tier : Tier) (key : String) : Run Bool := do pure ((← state).has tier key)

/-- The dependency names of an invocable value, or why it cannot be invoked. -/
def dependencies : Value → Except Fault (List String)
  | .nil => .error (Fault.because .notInvocable "<nil>")
  | .invocable inject _ => .ok inject
  | .func f =>
    if f.signature.params.isEmpty then .ok []
    else .error (.invalidToken (Text.quoted f.signature.text))
  | .providerFunc _ => .ok []
  | other => .error (Fault.because .notInvocable other.typeName)

/-- Invokes a function on a tier: each dependency comes from the locals when they hold its name,
else from resolution on the tier; a blank name is refused. A panic during the call becomes a
failure. -/
def invokeWith (k : Knot) (tier : Tier) (fn receiver : Value) (locals : Locals) : Run Value := do
  let tokens ← Run.ofExcept (dependencies fn)
  let args ← tokens.mapM fun token => do
    if (Text.trim token).isEmpty then Run.fail (.invalidToken (Text.quoted token))
    match locals.find? (·.1 == token) with
    | some (_, v) => pure v
    | none => k.get tier token
  Run.recoverPanic (k.call fn receiver args) fun t =>
    Run.fail (.text ("injector: panic during invocation: " ++ t))

def allocate : Make → Run Value
  | .box label => do pure (.box (← Run.newBox { label }))
  | .setting => do pure (.setting (← Run.newSetting {}))
  | .directive d => modifyGet fun w =>
    (.directive w.directives.size, { w with directives := w.directives.push d })
  | .registry => modifyGet fun w =>
    (.registry w.registries.size, { w with registries := w.registries.push {} })
  | .app => pure .app

/-- Instantiates a constructor on a tier: allocates the object, then invokes its initialiser
with the object as receiver and the constructor's dependencies; the result is the object. -/
def instantiateWith (k : Knot) (tier : Tier) (c : Ctor) (locals : Locals) : Run Value := do
  match c.make with
  | none => Run.fail (Fault.because .notInvocable "constructor without allocator")
  | some m =>
    let self ← allocate m
    let _ ← invokeWith k tier (.invocable c.inject (.initialise c)) self locals
    pure self

end Bindery.Injector
