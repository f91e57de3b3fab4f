import Bindery.Activity.Event

/-!
# State of scope trees

Every scope sits in two trees: the hierarchy tree (hierarchy parent and children), which digests
and destruction walk, and the lookup tree (the parent a scope was created from), which property
lookup follows unless the scope is isolated. The phase, the queues, the digest's short-circuit
marker, the round limit, the task loop and the observers belong to the tree and are shared by all
its scopes.
-/

namespace Bindery.Scope

inductive Phase where
  | idle
  | apply
  | digest
deriving BEq, Repr, Inhabited

def Phase.name : Phase → String
  | .idle => "idle"
  | .apply => "apply"
  | .digest => "digest"

/-- A watcher: the scope it was registered on, its watch function, its listener (a function
value, nil for none), the comparison mode, the last recorded value (none while fresh), and
whether it was deregistered. -/
structure Watcher where
  scope : Nat
  watch : Callable
  listener : Value
  byValue : Bool
  last : Option Value := none
  removed : Bool := false
deriving Inhabited

structure Node where
  props : List (String × Value) := []
  watchers : List Nat := []
  children : List Nat := []
  parent : Option Nat
  hparent : Option Nat
  isolated : Bool
  root : Nat
  tree : Nat
  translator : Translator
deriving Inhabited

/-- An expression waiting in a queue, with the scope it is evaluated on. -/
structure Pending where
  scope : Nat
  fn : Callable
deriving Inhabited

inductive Observer where
  | recorder
  | quiet
  | activity (e : Activity.Emitter)
  | metrics
deriving Inhabited

structure Tree where
  phase : Phase := .idle
  asyncQueue : List Pending := []
  applyQueue : List Pending := []
  postQueue : List Value := []
  applyHandle : Option Nat := none
  lastDirty : Option Nat := none
  ttl : Int
  loop : Nat
  observers : List Observer
deriving Inhabited

inductive Task where
  | deferredDigest (scope : Nat)
  | coalescedApply (scope : Nat)
deriving Inhabited

/-- A first-in first-out loop of callbacks, each with its handle. -/
structure Loop where
  queue : List (Nat × Task) := []
deriving Inhabited

end Bindery.Scope
