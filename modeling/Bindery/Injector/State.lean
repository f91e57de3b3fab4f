import Bindery.Value.Basic

/-!
# State of an injector

An injector keeps two caches, one per tier. A cache entry is either pending (its key is being
built) or resolved; an absent key has no entry. Each entry has an identity, so that the build of a
key only settles the entry it created. Modules queue registrations, configuration blocks and run
blocks; a registry maps module names to their latest definition.
-/

namespace Bindery.Injector

inductive CellState where
  | pending
  | resolved (v : Value)
deriving Inhabited

structure Cell where
  id : Nat
  state : CellState
deriving Inhabited

/-- A cache: keys with their entries, at most one entry per key. -/
abbrev Cache := List (String × Cell)

def Cache.find? (c : Cache) (key : String) : Option Cell := (List.find? (·.1 == key) c).map (·.2)

def Cache.put (c : Cache) (key : String) (cell : Cell) : Cache :=
  if c.any (·.1 == key) then c.map fun (k, v) => if k == key then (k, cell) else (k, v)
  else c ++ [(key, cell)]

def Cache.erase (c : Cache) (key : String) : Cache := c.filter (·.1 != key)

inductive Registration where
  | constant (key : String) (v : Value)
  | provider (key : String) (p : Value)
  | factory (key : String) (fn : Value)
  | value (key : String) (v : Value)
  | service (key : String) (c : Ctor)
  | decorator (key : String) (fn : Value)
deriving Inhabited

/-- The name of the registration method, as messages about modules say it. -/
def Registration.method : Registration → String
  | .constant .. => "constant"
  | .provider .. => "provider"
  | .factory .. => "factory"
  | .value .. => "value"
  | .service .. => "service"
  | .decorator .. => "decorator"

inductive Queued where
  | register (r : Registration)
  | directive (name : String) (factory : Value)
deriving Inhabited

/-- A module: its requirements, queued calls, configuration blocks and run blocks. -/
structure Module where
  name : String
  requires : List String
  queue : List Queued := []
  configBlocks : List Value := []
  runBlocks : List Value := []
deriving Inhabited

inductive ModuleCall where
  | register (r : Registration)
  | directive (name : String) (factory : Value)
  | config (fn : Value)
  | run (fn : Value)
deriving Inhabited

/-- The module with a describing call applied. A constant is queued ahead of every call queued so
far; every other call goes after the calls of its kind. -/
def Module.add (m : Module) : ModuleCall → Module
  | .register (.constant key v) => { m with queue := .register (.constant key v) :: m.queue }
  | .register r => { m with queue := m.queue ++ [.register r] }
  | .directive name factory => { m with queue := m.queue ++ [.directive name factory] }
  | .config fn => { m with configBlocks := m.configBlocks ++ [fn] }
  | .run fn => { m with runBlocks := m.runBlocks ++ [fn] }

/-- A registry of modules by name; defining a name again replaces the module. -/
abbrev Registry := List Module

def Registry.lookup? (r : Registry) (name : String) : Option Module := r.find? (·.name == name)

def Registry.define (r : Registry) (m : Module) : Registry :=
  if r.any (·.name == m.name) then r.map fun m' => if m'.name == m.name then m else m'
  else r ++ [m]

def Registry.names (r : Registry) : List String :=
  (r.map (·.name)).mergeSort (fun a b => decide (a ≤ b))

structure State where
  instanceCache : Cache := []
  providerCache : Cache := []
  decorated : List (String × Value) := []
  instancePath : List String := []
  providerPath : List String := []
  loaded : List String := []
  nextCell : Nat := 0
deriving Inhabited

def State.cache (s : State) : Tier → Cache
  | .providers => s.providerCache
  | .instances => s.instanceCache

def State.setCache (s : State) (t : Tier) (c : Cache) : State :=
  match t with
  | .providers => { s with providerCache := c }
  | .instances => { s with instanceCache := c }

/-- The path of a tier: the keys being resolved there, newest first. -/
def State.path (s : State) : Tier → List String
  | .providers => s.providerPath
  | .instances => s.instancePath

def State.setPath (s : State) (t : Tier) (p : List String) : State :=
  match t with
  | .providers => { s with providerPath := p }
  | .instances => { s with instancePath := p }

end Bindery.Injector
