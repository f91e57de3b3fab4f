import Bindery.Scope.Store
import Bindery.Value.Encode

/-!
# Observers of scope trees

A tree tells its observers, in order, when a scope is created or destroyed, when a digest
settles (with its rounds) or runs out of rounds, and when a watch, a listener, a queued
expression or a post-digest function fails. An observer may record the notification in the log,
ignore it, turn it into an activity event, or count it.
-/

namespace Bindery.Scope

inductive Notice where
  | created (scope : Nat)
  | destroyed (scope : Nat)
  | completed (scope : Nat) (rounds : Nat)
  | failed (scope : Nat) (e : Fault)
  | watchFailed (scope : Nat) (e : Fault)
deriving Inhabited

def Notice.scope : Notice → Nat
  | .created s | .destroyed s | .completed s _ | .failed s _ | .watchFailed s _ => s

/-- Passes an event to hooks, once normalised; an event without verb, object type or object is
dropped. Returns the failures of the hooks, joined. -/
def notifyHooks (hooks : List Activity.Hook) (e : Activity.Event) : Run (Option Fault) := do
  let e := e.normalize
  if hooks.isEmpty || !e.valid then return none
  let mut failures : List Fault := []
  for h in hooks do
    match h with
    | .capture fail =>
      modify fun w => { w with events := w.events.push e.normalize }
      if let some m := fail then failures := failures ++ [.text m]
    | .empty => pure ()
    | .logVerb => Run.log (.obj [("hookfunc", .str e.verb)])
    | .debugLine => Run.print ("level=DEBUG msg=activity verb=" ++ e.verb ++ "\n")
  pure (if failures.isEmpty then none else some (.join failures))

/-- Emits an event through an emitter: nothing when it is not enabled; otherwise the blank
channel, actor and tenant are filled in from the emitter's. -/
def emitEvent (em : Activity.Emitter) (e : Activity.Event) : Run (Option Fault) := do
  if !em.isEnabled then return none
  let e := { e with
    channel := if (Text.trim e.channel).isEmpty then em.channel else e.channel
    actor := if (Text.trim e.actor).isEmpty then em.actor else e.actor
    tenant := if (Text.trim e.tenant).isEmpty then em.tenant else e.tenant }
  notifyHooks em.hooks e

/-- The activity event of a notification. Scope events carry `isolated` for isolated scopes;
digest events carry the scope and either the rounds or the failure. -/
def Notice.event (n : Notice) (node : Node) : Activity.Event :=
  let parent : Activity.Ident := match node.hparent with
    | some p => .scope p
    | none => .text ""
  let scopeEvent (verb : String) (extra : List (String × Value)) : Activity.Event :=
    { verb, objectType := "scope", objectId := .scope n.scope, parentId := parent
      metadata := extra ++ (if node.isolated then [("isolated", .bool true)] else []) }
  match n with
  | .created _ => scopeEvent "scope.created" []
  | .destroyed _ => scopeEvent "scope.destroyed" []
  | .watchFailed _ e => scopeEvent "watch.failed" [("error", .str e.message)]
  | .completed s rounds =>
    { verb := "digest.completed", objectType := "digest", objectId := .scope s, parentId := parent
      metadata := [("scope_id", .scope s), ("rounds", .int rounds)] }
  | .failed s e =>
    { verb := "digest.failed", objectType := "digest", objectId := .scope s, parentId := parent
      metadata := [("scope_id", .scope s), ("error", .str e.message)] }

def Notice.record (n : Notice) (node : Node) : Run Json := do
  let label ← scopeLabel n.scope
  let withParent (kind : String) : Run Json := do
    match node.hparent with
    | some p => pure (.obj [("obs", .str kind), ("scope", .str label), ("hparent", .str (← scopeLabel p))])
    | none => pure (.obj [("obs", .str kind), ("scope", .str label)])
  match n with
  | .created _ => withParent "created"
  | .destroyed _ => withParent "destroyed"
  | .completed _ rounds => pure (.obj [("obs", .str "digest_completed"), ("scope", .str label), ("rounds", .int rounds)])
  | .failed _ e => pure (.obj [("obs", .str "digest_failed"), ("scope", .str label), ("err", .str e.message)])
  | .watchFailed _ e => pure (.obj [("obs", .str "watch_failed"), ("scope", .str label), ("err", .str e.message)])

def Notice.count (n : Notice) (c : Activity.Counters) : Activity.Counters :=
  match n with
  | .created _ => { c with created := c.created + 1, live := c.live + 1 }
  | .destroyed _ => { c with destroyed := c.destroyed + 1, live := c.live - 1 }
  | .completed _ rounds =>
    { c with digestsOk := c.digestsOk + 1, roundsCount := c.roundsCount + 1
             roundsSum := c.roundsSum + rounds, durations := c.durations + 1 }
  | .failed _ e =>
    if e.isDigestLimit then { c with digestsLimit := c.digestsLimit + 1 }
    else { c with digestsFailed := c.digestsFailed + 1 }
  | .watchFailed _ _ => { c with watchErrors := c.watchErrors + 1 }

def Observer.tell (o : Observer) (n : Notice) : Run Unit := do
  let node ← nodeAt n.scope
  match o with
  | .recorder => Run.log (← n.record node)
  | .quiet => pure ()
  | .activity em => let _ ← emitEvent em (n.event node)
  | .metrics => modify fun w => { w with counts := n.count w.counts }

/-- Tells every observer of the tree of the scope a notification is about. -/
def notify (n : Notice) : Run Unit := do
  for o in (← stateOf n.scope).observers do o.tell n

end Bindery.Scope
