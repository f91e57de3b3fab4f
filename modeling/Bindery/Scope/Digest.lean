import Bindery.Scope.Tree
import Bindery.Expression.Translate

/-!
# Watching and digesting

A watcher evaluates its watch function on its scope in every round of a digest and compares the
value with the one it recorded last: by structure when it watches by value (keeping a deep copy),
by identity for tables, lists and objects otherwise (NaN then equals NaN). A changed value is
passed to the listener with the previous one (the new one again on the first change) and
recorded.

A digest runs rounds over its scope and the scopes below it in the hierarchy, depth first. Each
round first evaluates the expressions deferred with `evalAsync`. Rounds repeat while a watcher
changed or deferred expressions are waiting, at most the tree's round limit times; a round that
reaches the watcher that was dirty last, while nothing changed since, ends early. Once settled,
the post-digest functions queued before it settled run, each in turn, and the observers are told
how many rounds it took.

A tree is in one phase at a time: entering a phase while another is active fails with a phase
conflict and leaves the tree idle. `apply` evaluates in the apply phase and then digests from
the root; `applyAsync` queues expressions for one coalesced apply scheduled on the tree's loop,
which a digest that starts first evaluates itself.
-/

namespace Bindery.Scope

/-- Whether a scope accepts a function of a signature as a callable: a function of a scope
returning a value (and an error), an error, or nothing. -/
def scopeAccepts (s : Signature) : Bool :=
  !s.variadic &&
  match s.params, s.results with
  | [.scope], [.any] | [.scope], [.any, .error] | [.scope], [.error] | [.scope], [] => true
  | _, _ => false

/-- The callable a scope makes of a value: functions of a scope as they are, anything else by
the scope's translator. -/
def callableOn (s : Nat) (expr : Value) : Run Callable := do
  match expr with
  | .func f => if scopeAccepts f.signature then return .host f
  | _ => pure ()
  (← nodeAt s).translator.callable expr

/-- Evaluates a callable on a scope with locals; a panic becomes an evaluation failure. -/
def evalCallable (k : Knot) (s : Nat) (c : Callable) (locals : Value) : Run Value :=
  Run.recoverPanic (c.runWith k (.scope s) locals) fun t =>
    Run.fail (.text ("scope: evaluation panic: " ++ t))

def evalWith (k : Knot) (s : Nat) (expr locals : Value) : Run Value := do
  evalCallable k s (← callableOn s expr) locals

/-- Enters a phase; when another phase is active, the tree becomes idle and the request fails. -/
def beginPhase (s : Nat) (p : Phase) : Run Unit := do
  let t ← stateOf s
  if t.phase != .idle then
    modifyTree s fun t => { t with phase := .idle }
    Run.fail (.phaseConflict t.phase.name p.name)
  modifyTree s fun t => { t with phase := p }

def clearPhase (s : Nat) : Run Unit := modifyTree s fun t => { t with phase := .idle }

def reportWatchError (target : Nat) (e : Fault) : Run Unit := notify (.watchFailed target e)

def watch (s : Nat) (expr listener : Value) (byValue : Bool) : Run Nat := do
  let c ← callableOn s expr
  let id ← modifyGet fun w => (w.watchers.size,
    { w with watchers := w.watchers.push { scope := s, watch := c, listener, byValue } })
  modifyNode s fun n => { n with watchers := n.watchers ++ [id] }
  modifyTree s fun t => { t with lastDirty := none }
  pure id

/-- Deregisters a watcher; deregistering twice does nothing. -/
def deregister (wid : Nat) : Run Unit := do
  let w ← watcherAt wid
  if w.removed then return
  modifyWatcher wid fun w => { w with removed := true }
  modifyNode w.scope fun n => { n with watchers := n.watchers.erase wid }
  modifyTree w.scope fun t => { t with lastDirty := none }

def isNaNValue : Value → Bool
  | .float f => f.isNaN
  | _ => false

/-- Comparison by identity: nil only equals nil, NaN equals NaN, values of different types
differ, tables and objects are the same only when they are one, lists when they share their
items (every empty list shares them), and other values compare by value. -/
def sameValue (a b : Value) : Bool :=
  match a, b with
  | .nil, .nil => true
  | .nil, _ | _, .nil => false
  | _, _ =>
    if isNaNValue a && isNaNValue b then true
    else if a.typeName != b.typeName then false
    else match a, b with
      | .bool x, .bool y => x == y
      | .int x, .int y => x == y
      | .uint x, .uint y => x == y
      | .float x, .float y => x == y
      | .str x, .str y => x == y
      | .list i xs, .list j ys => (i == j && xs.length == ys.length) || (xs.isEmpty && ys.isEmpty)
      | .strings xs, .strings ys => xs.isEmpty && ys.isEmpty
      | .bytes xs, .bytes ys => xs.isEmpty && ys.isEmpty
      | .table i, .table j | .box i, .box j | .setting i, .setting j | .scope i, .scope j
      | .node i, .node j | .registry i, .registry j | .compiler i, .compiler j
      | .directive i, .directive j | .rootProvider i, .rootProvider j
      | .translatorProvider i, .translatorProvider j => i == j
      | .container s, .container t => s == t
      | .provide, .provide | .app, .app => true
      | _, _ => false

/-- A reference as copying and comparing tell references apart: a table, a box, or a list by
its identity and its length. -/
inductive Ref where
  | table (id : Nat)
  | box (id : Nat)
  | list (id len : Nat)
deriving DecidableEq

abbrev Copies := List (Ref × Value)

mutual

/-- Copies a value as it is held: a list once for each identity and length, item by item into a
new list; tables and boxes by `ref`; anything else is kept. A list holds its items in itself, so
it is remembered once they are copied. -/
def copyHeld (ref : Copies → Value → Run (Value × Copies)) (seen : Copies) :
    Value → Run (Value × Copies)
  | .list i xs => do
    if let some c := seen.lookup (.list i xs.length) then return (c, seen)
    let copied ← copyItems ref seen xs
    let c ← Run.newList copied.1
    pure (c, (.list i xs.length, c) :: copied.2)
  | .table i => ref seen (.table i)
  | .box i => ref seen (.box i)
  | v => pure (v, seen)

def copyItems (ref : Copies → Value → Run (Value × Copies)) (seen : Copies) :
    List Value → Run (List Value × Copies)
  | [] => pure ([], seen)
  | x :: xs => do
    let c ← copyHeld ref seen x
    let cs ← copyItems ref c.2 xs
    pure (c.1 :: cs.1, cs.2)

end

/-- Copies the values of table entries in order, as `copyHeld` does, keeping their keys. -/
def copyEntries (ref : Copies → Value → Run (Value × Copies)) (seen : Copies) :
    List (String × Value) → Run (List (String × Value) × Copies)
  | [] => pure ([], seen)
  | e :: es => do
    let c ← copyHeld ref seen e.2
    let cs ← copyEntries ref c.2 es
    pure ((e.1, c.1) :: cs.1, cs.2)

/-- Copies a table or a box: one met before is answered with its first copy; any other gets a
new one, remembered before its contents are copied, so that a cycle back to it meets the copy.
The contents are copied with at most `fuel` more tables and boxes expanded below it. -/
def copyRef : Nat → Copies → Value → Run (Value × Copies)
  | fuel + 1, seen, .table i => do
    if let some c := seen.lookup (.table i) then return (c, seen)
    let n := (← get).tables.size
    let fresh ← Run.newTable []
    let copied ← copyEntries (copyRef fuel) ((.table i, fresh) :: seen) (← Run.tableEntries i)
    Run.setTable n copied.1
    pure (fresh, copied.2)
  | fuel + 1, seen, .box i => do
    if let some c := seen.lookup (.box i) then return (c, seen)
    let b ← Run.box i
    let n ← Run.newBox { label := b.label }
    let copied ← copyItems (copyRef fuel) ((.box i, .box n) :: seen) b.items
    Run.setBox n { label := b.label, items := copied.1 }
    pure (.box n, copied.2)
  | _, seen, v => pure (v, seen)

/-- A deep copy of a value: its tables, boxes and lists are copied, each once, so the copy keeps
the shape of the value down to its sharing and its cycles. The budget exceeds the number of
tables and boxes, and each is expanded at most once on the way down. -/
def cloneValue (v : Value) : Run Value := do
  let w ← get
  pure (← copyHeld (copyRef (w.tables.size + w.boxes.size + 1)) [] v).1

mutual

/-- Comparison by structure of two values as they are held: nil only equals nil, values of
different types differ, floats compare as numbers (NaN differs from itself), lists of one length
are equal when they are one list or their items are equal in order, tables and boxes are compared
by `ref`, errors by their messages, and other values by identity. -/
def equalHeld (ref : Value → Value → Bool) : Value → Value → Bool
  | .nil, .nil => true
  | .nil, _ | _, .nil => false
  | a, b =>
    if a.typeName != b.typeName then false
    else match a, b with
      | .float x, .float y => x == y
      | .list i xs, .list j ys => xs.length == ys.length && (i == j || equalItems ref xs ys)
      | .strings xs, .strings ys => xs == ys
      | .bytes xs, .bytes ys => xs == ys
      | .table i, .table j => ref (.table i) (.table j)
      | .box i, .box j => ref (.box i) (.box j)
      | .error x, .error y => x.message == y.message
      | _, _ => sameValue a b

def equalItems (ref : Value → Value → Bool) : List Value → List Value → Bool
  | x :: xs, y :: ys => equalHeld ref x y && equalItems ref xs ys
  | _, _ => true

end

/-- Compares two tables or two boxes of a store: one with itself is equal; a pair met before on
the way down is taken as equal, as it closes a cycle; any other pair is compared entry by entry
or item by item, with at most `fuel` more pairs expanded below it. A pair is known by its smaller
and its larger identity. Lists hold their items in themselves and close no cycle. -/
def equalRef (tables : Array (List (String × Value))) (boxes : Array Box) :
    Nat → List (Ref × Ref) → Value → Value → Bool
  | fuel + 1, met, .table i, .table j =>
    let pair := (Ref.table (min i j), Ref.table (max i j))
    let xs := tables[i]?.getD []
    let ys := tables[j]?.getD []
    i == j || met.contains pair || xs.length == ys.length && xs.all fun e =>
      match ys.find? (·.1 == e.1) with
      | some y => equalHeld (equalRef tables boxes fuel (pair :: met)) e.2 y.2
      | none => false
  | fuel + 1, met, .box i, .box j =>
    let pair := (Ref.box (min i j), Ref.box (max i j))
    let x := boxes[i]?.getD {}
    let y := boxes[j]?.getD {}
    i == j || met.contains pair || x.label == y.label && x.items.length == y.items.length &&
      equalItems (equalRef tables boxes fuel (pair :: met)) x.items y.items
  | _, _, _, _ => true

/-- Comparison by structure in a world. The budget exceeds the number of pairs of tables and of
boxes, and each pair is expanded at most once on the way down. -/
def deepEqual (w : World) (a b : Value) : Bool :=
  equalHeld (equalRef w.tables w.boxes
    (w.tables.size * w.tables.size + w.boxes.size * w.boxes.size + 1) []) a b

def Watcher.changed (w : Watcher) (v : Value) : Run Bool := do
  match w.last with
  | none => pure true
  | some old =>
    if w.byValue then pure !(deepEqual (← get) v old) else pure !(sameValue v old)

/-- Tells a watcher's listener of a new value on a scope; a panic becomes a failure. -/
def tellListener (k : Knot) (w : Watcher) (v : Value) (s : Nat) : Run (Option Fault) := do
  if w.listener matches .nil then return none
  let old := w.last.getD v
  Run.recoverPanic
    (do
      match ← Run.attempt (k.call w.listener .nil [v, old, .scope s]) with
      | .ok _ => pure none
      | .error e => pure (some e))
    fun t => pure (some (.text ("scope: listener panic: " ++ t)))

/-- One watcher's turn in a round on a scope. Returns whether the round goes on and whether the
watcher saw a change. With `shortCircuit`, reaching the watcher that was dirty last while it is
clean ends the round; without it, every live watcher is visited in every round. -/
def visitWatcher (k : Knot) (shortCircuit : Bool) (current wid : Nat) : Run (Bool × Bool) := do
  if (← watcherAt wid).removed then return (true, false)
  match ← Run.attempt (evalCallable k current (← watcherAt wid).watch .nil) with
  | .error e =>
    reportWatchError current e
    return (true, false)
  | .ok v =>
    let w ← watcherAt wid
    if ← w.changed v then
      modifyTree current fun t => { t with lastDirty := some wid }
      if let some e ← tellListener k w v current then reportWatchError current e
      let kept ← if w.byValue then cloneValue v else pure v
      modifyWatcher wid fun w => { w with last := some kept }
      return (true, true)
    if shortCircuit then
      if (← stateOf current).lastDirty == some wid then return (false, false)
    return (true, false)

/-- One round over the watchers of a scope, as registered when the round reached it. -/
def visitScope (k : Knot) (shortCircuit : Bool) (current : Nat) : Run (Bool × Bool) := do
  let mut dirty := false
  for wid in (← nodeAt current).watchers do
    let (go, d) ← visitWatcher k shortCircuit current wid
    dirty := dirty || d
    if !go then return (false, dirty)
  return (true, dirty)

/-- One round over a scope and, depth first, the scopes below it, at most `fuel` levels deep.
Returns whether the round goes on and whether a watcher saw a change. -/
def everyScope (k : Knot) (shortCircuit : Bool) : Nat → Nat → Run (Bool × Bool)
  | 0, _ => pure (true, false)
  | fuel + 1, s => do
    let (go, d) ← visitScope k shortCircuit s
    if !go then return (false, d)
    let mut dirty := d
    for c in (← nodeAt s).children do
      let (go', d') ← everyScope k shortCircuit fuel c
      dirty := dirty || d'
      if !go' then return (false, dirty)
    return (true, dirty)

/-- One round of a digest; whether a watcher saw a change. -/
def digestOnce (k : Knot) (shortCircuit : Bool) (s : Nat) : Run Bool := do
  pure (← everyScope k shortCircuit ((← get).scopes.size + 1) s).2

inductive Queue where
  | async
  | apply

def Tree.queue (t : Tree) : Queue → List Pending
  | .async => t.asyncQueue
  | .apply => t.applyQueue

def setQueue (s : Nat) (q : Queue) (items : List Pending) : Run Unit :=
  modifyTree s fun t => match q with
    | .async => { t with asyncQueue := items }
    | .apply => { t with applyQueue := items }

/-- Evaluates the expressions a queue holds when it starts, each on its scope; failures are
reported to the observers. Expressions queued meanwhile stay for the next pass. -/
def consume (k : Knot) (s : Nat) (q : Queue) : Run Unit := do
  let count := ((← stateOf s).queue q).length
  for i in [0:count] do
    let items := (← stateOf s).queue q
    match items[i]? with
    | none => Run.panicWith ("runtime error: index out of range [" ++ Decimal.natText i ++
        "] with length " ++ Decimal.natText items.length)
    | some item =>
      match ← Run.attempt (evalCallable k item.scope item.fn .nil) with
      | .error e => reportWatchError item.scope e
      | .ok _ => pure ()
  let items := (← stateOf s).queue q
  if count > items.length then
    Run.panicWith ("runtime error: slice bounds out of range [" ++ Decimal.natText count ++ ":" ++
      Decimal.natText items.length ++ "]")
  setQueue s q (items.drop count)

def flushApply (k : Knot) (s : Nat) : Run Unit := do
  consume k s .apply
  modifyTree s fun t => { t with applyHandle := none }

def schedule (loop : Nat) (t : Task) : Run Nat := do
  let h ← modifyGet fun w => (w.nextTask, { w with nextTask := w.nextTask + 1 })
  modifyLoop loop fun l => { l with queue := l.queue ++ [(h, t)] }
  pure h

def cancel (loop h : Nat) : Run Unit :=
  modifyLoop loop fun l => { l with queue := l.queue.filter (·.1 != h) }

/-- Runs a post-digest function; a panic is reported to the observers. -/
def runPostDigest (k : Knot) (s : Nat) (fn : Value) : Run Unit :=
  Run.recoverPanic (do let _ ← Run.attempt (k.call fn .nil []))
    fun t => reportWatchError s (.text ("scope: post digest panic: " ++ t))

/-- Rounds of a digest, at most `left` more after `done`: the number of rounds once settled, or
none when the limit was reached. -/
def settleRounds (k : Knot) (shortCircuit : Bool) (s : Nat) : Nat → Nat → Run (Option Nat)
  | 0, _ => pure none
  | left + 1, done => do
    consume k s .async
    let dirty ← digestOnce k shortCircuit s
    if !dirty && (← stateOf s).asyncQueue.isEmpty then return some (done + 1)
    if left == 0 then return none
    settleRounds k shortCircuit s left (done + 1)

/-- Digests a scope and the scopes below it, with or without the short circuit of its rounds. -/
def runDigest (k : Knot) (shortCircuit : Bool) (s : Nat) : Run Unit := do
  beginPhase s .digest
  modifyTree s fun t => { t with lastDirty := none }
  let t ← stateOf s
  if let some h := t.applyHandle then
    cancel t.loop h
    flushApply k s
  match ← settleRounds k shortCircuit s (← stateOf s).ttl.toNat 0 with
  | none =>
    clearPhase s
    let e := Fault.digestLimit (← stateOf s).ttl
    notify (.failed s e)
    Run.fail e
  | some rounds =>
    let post := (← stateOf s).postQueue
    for fn in post do runPostDigest k s fn
    let rest := (← stateOf s).postQueue
    if post.length > rest.length then
      Run.panicWith ("runtime error: slice bounds out of range [" ++ Decimal.natText post.length ++
        ":" ++ Decimal.natText rest.length ++ "]")
    modifyTree s fun t => { t with postQueue := rest.drop post.length }
    clearPhase s
    notify (.completed s rounds)

/-- Digests a scope and the scopes below it; rounds end early at the watcher that was dirty
last. -/
def digestWith (k : Knot) (s : Nat) : Run Unit := runDigest k true s

/-- Evaluates a value in the apply phase, then digests from the root. Returns the value and the
failures of both, joined. -/
def applyWith (k : Knot) (s : Nat) (expr : Value) : Run (Value × Option Fault) := do
  match ← Run.attempt (beginPhase s .apply) with
  | .error e => return (.nil, some e)
  | .ok _ => pure ()
  let r ← Run.attempt (evalWith k s expr .nil)
  clearPhase s
  let d ← Run.attempt (digestWith k (← nodeAt s).root)
  let (v, first) := match r with
    | .ok v => (v, ([] : List Fault))
    | .error e => (Value.nil, [e])
  let parts := first ++ match d with
    | .ok _ => []
    | .error e => [e]
  pure (v, if parts.isEmpty then none else some (.join parts))

/-- Defers an expression to the next digest; on an idle tree with nothing deferred yet, a digest
of the root is scheduled. -/
def evalAsync (s : Nat) (expr : Value) : Run Unit := do
  let t ← stateOf s
  if t.phase == .idle && t.asyncQueue.isEmpty then
    let _ ← schedule t.loop (.deferredDigest s)
  let c ← callableOn s expr
  modifyTree s fun t => { t with asyncQueue := t.asyncQueue ++ [{ scope := s, fn := c }] }

/-- Defers an expression to one coalesced apply, scheduled unless one is pending. -/
def applyAsync (s : Nat) (expr : Value) : Run Unit := do
  let c ← callableOn s expr
  modifyTree s fun t => { t with applyQueue := t.applyQueue ++ [{ scope := s, fn := c }] }
  let t ← stateOf s
  if t.applyHandle.isSome then return
  let h ← schedule t.loop (.coalescedApply s)
  modifyTree s fun t => { t with applyHandle := some h }

/-- Queues a function to run after the next digest settles; nil is ignored. -/
def postDigest (s : Nat) (fn : Value) : Run Unit := do
  if fn matches .nil then return
  modifyTree s fun t => { t with postQueue := t.postQueue ++ [fn] }

def runTask (k : Knot) (h : Nat) : Task → Run Unit
  | .deferredDigest s => do
    if (← stateOf s).asyncQueue.isEmpty then return
    let _ ← Run.attempt (digestWith k (← nodeAt s).root)
  | .coalescedApply s => do
    let _ ← applyWith k (← nodeAt s).root (.func (.flushApplyQueue s))
    if (← stateOf s).applyHandle == some h then
      modifyTree s fun t => { t with applyHandle := none }

/-- Runs the tasks of a loop with `run`, taking each from the front of the queue, those queued
meanwhile included, until none is left; returns `ran` plus how many ran. At most `fuel` tasks
run: a loop that still has tasks after that exhausts the budget. -/
def drain (run : Nat → Task → Run Unit) (loop : Nat) : Nat → Nat → Run Nat
  | 0, ran => do
    match (← loopAt loop).queue with
    | [] => pure ran
    | _ :: _ => throw .exhausted
  | fuel + 1, ran => do
    match (← loopAt loop).queue with
    | [] => pure ran
    | (h, t) :: rest =>
      modifyLoop loop fun l => { l with queue := rest }
      run h t
      drain run loop fuel (ran + 1)

def flushLimit : Nat := 100000

/-- Runs the tasks of a loop, those queued while flushing included, until none is left; returns
how many ran. -/
def flushWith (k : Knot) (loop : Nat) : Run Nat := drain (runTask k) loop flushLimit 0

end Bindery.Scope
