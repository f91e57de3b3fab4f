import Bindery.Value.Basic
import Bindery.Text.Case
import Bindery.Decimal.Layout

/-!
# Activity events and counters

An activity event names a verb and an object (type and identifier), optionally a parent, an
actor, a tenant and a channel, and carries metadata. Identifiers of scopes are kept as scope
numbers, so answers can show the scope's label. The counters record the lifecycle of scope trees.
-/

namespace Bindery.Activity

inductive Ident where
  | scope (id : Nat)
  | text (s : String)
deriving Inhabited

def Ident.isEmpty : Ident → Bool
  | .scope _ => false
  | .text s => s.isEmpty

structure Event where
  verb : String
  objectType : String
  objectId : Ident
  parentId : Ident := .text ""
  actor : String := ""
  tenant : String := ""
  channel : String := ""
  metadata : List (String × Value) := []
deriving Inhabited

/-- An event is kept only when it names a verb, an object type and an object. -/
def Event.valid (e : Event) : Bool :=
  !e.verb.isEmpty && !e.objectType.isEmpty && !e.objectId.isEmpty

def Ident.trim : Ident → Ident
  | .scope id => .scope id
  | .text s => .text (Text.trim s)

/-- An event as hooks receive it: identifiers trimmed, empty metadata dropped. -/
def Event.normalize (e : Event) : Event :=
  { e with verb := Text.trim e.verb, objectType := Text.trim e.objectType
           objectId := e.objectId.trim, parentId := e.parentId.trim, actor := Text.trim e.actor
           tenant := Text.trim e.tenant, channel := Text.trim e.channel }

inductive Hook where
  | capture (fail : Option String)
  | empty
  | logVerb
  | debugLine
deriving Inhabited

/-- An emitter: its hooks, whether it is enabled, and the channel, actor and tenant it fills in
when an event leaves them blank. -/
structure Emitter where
  hooks : List Hook
  enabled : Bool
  channel : String
  actor : String
  tenant : String
deriving Inhabited

def defaultChannel : String := "opular"

/-- A new emitter over the hooks that are present. It is enabled only when asked and when it has
a hook; a blank channel means the default one. -/
def Emitter.new (hooks : List (Option Hook)) (enabled : Bool) (channel actor tenant : String) :
    Emitter :=
  let present := hooks.filterMap id
  let channel := Text.trim channel
  { hooks := present, enabled := enabled && !present.isEmpty
    channel := if channel.isEmpty then defaultChannel else channel
    actor := Text.trim actor, tenant := Text.trim tenant }

def Emitter.isEnabled (e : Emitter) : Bool := e.enabled && !e.hooks.isEmpty

structure Counters where
  created : Nat := 0
  destroyed : Nat := 0
  live : Int := 0
  digestsOk : Nat := 0
  digestsLimit : Nat := 0
  digestsFailed : Nat := 0
  roundsCount : Nat := 0
  roundsSum : Nat := 0
  durations : Nat := 0
  watchErrors : Nat := 0
deriving Inhabited

def metricText (x : Float) : String := Decimal.Layout.plainText.float x

/-- The metric lines of the counters, as `name{labels} value` in name order: counters and gauges
with their values, histograms with their sample counts (and, with `sums`, the rounds' sum), and
the digests by result, for the results that occurred. -/
def Counters.lines (c : Counters) (sums : Bool) : List String :=
  let count (n : Nat) : String := metricText n.toFloat
  let results := [("error", c.digestsFailed), ("ok", c.digestsOk), ("ttl_exceeded", c.digestsLimit)]
  let digests := (results.filter (·.2 > 0)).map fun (r, n) =>
    "opular_digests_total\x7bresult=\"" ++ r ++ "\"\x7d " ++ count n
  let lines := ["opular_digest_duration_seconds_count " ++ count c.durations,
    "opular_digest_rounds_count " ++ count c.roundsCount] ++
    (if sums then ["opular_digest_rounds_sum " ++ count c.roundsSum] else []) ++
    ["opular_scopes_created_total " ++ count c.created,
    "opular_scopes_destroyed_total " ++ count c.destroyed,
    "opular_scopes_live " ++ metricText (Float.ofInt c.live),
    "opular_watch_errors_total " ++ count c.watchErrors] ++ digests
  lines.mergeSort fun a b => decide (a ≤ b)

end Bindery.Activity
