import Bindery.Proofs.Scope.Phase

/-!
# The order of a round

A round of a digest visits the watchers of a scope, then, depth first, those of the scopes below
it. While its visits change neither the hierarchy nor how the watchers are set up, a round is a
sweep over one list fixed when it starts, `roundOrder`: each watcher in turn, until one says to
stop, noting whether any saw a change.

What a round leaves as it was is its view, `World.roundView`: the scopes but for their
properties, the watchers but for the values they recorded, and the trees but for their
short-circuit markers. Listeners that only set and delete properties (`Quiet`) keep it, and so
does every other step of a visit when the watch functions only read.

Main statements: `everyScope_eq_sweep`, and `digestOnce_run`, which reads a round at a world as
a sweep over the order of the world the digest started from. With the short circuit, a change
deferred by a listener can go unseen: `digest_short_circuit_misses_deferred_change`.
-/

namespace Bindery.Scope

/-- A scope without its properties. -/
def Node.unpropped (n : Node) : Node := { n with props := [] }

/-- A watcher without the value it recorded. -/
def Watcher.unrecorded (wr : Watcher) : Watcher := { wr with last := none }

/-- A tree without its short-circuit marker. -/
def Tree.unmarked (t : Tree) : Tree := { t with lastDirty := none }

@[simp] theorem Tree.asyncQueue_unmarked (t : Tree) : t.unmarked.asyncQueue = t.asyncQueue := rfl

@[simp] theorem Tree.postQueue_unmarked (t : Tree) : t.unmarked.postQueue = t.postQueue := rfl

end Bindery.Scope

namespace Bindery

open Scope

/-- What a round of a digest leaves as it was. -/
def World.roundView (w : World) : Array Node × Array Watcher × Array Tree :=
  (w.scopes.map Node.unpropped, w.watchers.map Watcher.unrecorded, w.trees.map Tree.unmarked)

/-- What a listener that only sets and deletes properties leaves as it was. -/
def World.quietView (w : World) : Array Node × Array Watcher × Array Tree :=
  (w.scopes.map Node.unpropped, w.watchers.map Watcher.unrecorded, w.trees)

end Bindery

namespace Bindery.Scope

open Run

/-- Listeners that leave the hierarchy, how the watchers are set up, and the trees as they were:
they may set and delete properties, and change whatever else no round reads. -/
def Quiet : Guarantee := .fixing World.quietView

/-! ## Views of a world -/

section Views

variable {w w' : World}

theorem getD_map_default [Inhabited α] (f : α → α) (hf : f default = default) (o : Option α) :
    (o.map f).getD default = f (o.getD default) := by
  rw [← hf, Option.getD_map, hf]

/-- Changing an item in a way a view does not see leaves the view of the array as it was. -/
theorem map_modify_of_comp {xs : Array α} {f : α → α} {g : α → β} (hfg : ∀ x, g (f x) = g x)
    (i : Nat) : (xs.modify i f).map g = xs.map g := by
  apply Array.ext_getElem?
  intro j
  simp only [Array.getElem?_map, Array.getElem?_modify]
  split
  · cases xs[j]? <;> simp [hfg]
  · rfl

theorem unpropped_node (h : w'.scopes.map Node.unpropped = w.scopes.map Node.unpropped) (i : Nat) :
    (w'.scopes[i]?.getD default).unpropped = (w.scopes[i]?.getD default).unpropped := by
  have hi := congrArg (fun v => (v[i]?).getD default) h
  simpa only [Array.getElem?_map, getD_map_default Node.unpropped rfl] using hi

theorem roundView_trees_size (h : w'.roundView = w.roundView) : w'.trees.size = w.trees.size := by
  have hs := congrArg (fun v => v.2.2.size) h
  simpa only [World.roundView, Array.size_map] using hs

theorem Quiet.roundView (h : Quiet.rel w w') : w'.roundView = w.roundView := by
  simp only [Quiet, Guarantee.fixing, World.quietView, Prod.mk.injEq] at h
  simp only [World.roundView, h]

/-- A quiet run leaves the tree of every scope as it was. -/
theorem Quiet.treeState (h : Quiet.rel w w') (s : Nat) : w'.treeState s = w.treeState s := by
  simp only [Quiet, Guarantee.fixing, World.quietView, Prod.mk.injEq] at h
  have hidx : w'.treeIndex s = w.treeIndex s := by
    have ht := congrArg Node.tree (unpropped_node h.1 s)
    exact ht
  unfold World.treeState
  rw [hidx, h.2.2]

theorem observersOnly_quiet (h : ObserversOnly.rel w w') : Quiet.rel w w' := by
  obtain ⟨hscopes, htrees, hwatchers, -⟩ := h
  simp only [Quiet, Guarantee.fixing, World.quietView, hscopes, htrees, hwatchers]

end Views

/-! ## Steps that keep the view of a round -/

section Steps

theorem watcherAt_run (id : Nat) (w : World) :
    watcherAt id w = .ok (w.watchers[id]?.getD default) w := rfl

theorem modifyTree_run (s : Nat) (f : Tree → Tree) (w : World) :
    modifyTree s f w = .ok () (w.updateTree s f) := rfl

theorem keeps_recordLast (wid : Nat) (kept : Value) :
    Keeps Quiet (modifyWatcher wid fun w => { w with last := some kept }) :=
  .modify' fun w => by
    show World.quietView { w with watchers := _ } = w.quietView
    simp only [World.quietView, Prod.mk.injEq, true_and, and_true]
    refine map_modify_of_comp (fun _ => ?_) _
    rfl

/-- Copying a value makes and fills new tables, lists and boxes and is quiet. -/
theorem keeps_cloneValue (v : Value) : Keeps Quiet (cloneValue v) :=
  (keeps_copy (fun _ => .bind (.modifyGet' fun _ => rfl) fun _ => .pure' _)
    (fun _ => .modifyGet' fun _ => rfl) (fun _ _ => .modify' fun _ => rfl)
    (fun _ => .modifyGet' fun _ => rfl) (fun _ _ => .modify' fun _ => rfl)).clone v

end Steps

/-! ## Sweeps -/

section Sweeps

variable {f g : β → Run (Bool × Bool)}

end Sweeps

/-! ## One visit -/

/-- The listener of a watcher that saw a change is told, and the watcher records the value, a
copy when it compares by value. -/
def tellAndRecord (k : Knot) (c wid : Nat) (wr : Watcher) (v : Value) : Run (Bool × Bool) := do
  if let some e ← tellListener k wr v c then reportWatchError c e
  let kept ← if wr.byValue then cloneValue v else pure v
  modifyWatcher wid fun w => { w with last := some kept }
  return (true, true)

/-- The turn of a watcher that saw a change: the marker moves to it, then its listener is told
and it records the value. -/
def visitDirty (k : Knot) (c wid : Nat) (wr : Watcher) (v : Value) : Run (Bool × Bool) := do
  modifyTree c fun t => { t with lastDirty := some wid }
  tellAndRecord k c wid wr v

/-- The steps of telling a listener of a changed value and recording it, each with a property of
runs that running one run after another keeps: telling the listener, reporting its failure,
copying the value and recording what is kept. Telling and recording then has the property. -/
structure TurnSteps (Q : {α : Type} → Run α → Prop) (k : Knot) (c wid : Nat) (wr : Watcher)
    (v : Value) : Prop extends Closed Q where
  listen : Q (tellListener k wr v c)
  report : ∀ e, Q (reportWatchError c e)
  copy : Q (cloneValue v)
  record : ∀ kept, Q (modifyWatcher wid fun w => { w with last := some kept })

theorem TurnSteps.tell {Q : {α : Type} → Run α → Prop} {k : Knot} {c wid : Nat} {wr : Watcher}
    {v : Value} (hQ : TurnSteps Q k c wid wr v) : Q (tellAndRecord k c wid wr v) := by
  unfold tellAndRecord
  refine hQ.bind hQ.listen fun _ => ?_
  -- a failure of the listener is reported, then the value or its copy is recorded
  extract_lets record told
  have hrecord : ∀ kept, Q (record kept) := fun kept => hQ.bind (hQ.record kept) fun _ => hQ.pure' _
  have htold : ∀ u, Q (told u) := fun _ =>
    hQ.ite' (hQ.bind hQ.copy hrecord) (hQ.bind (hQ.pure' _) hrecord)
  split
  · exact hQ.bind (hQ.report _) htold
  · exact htold ()

/-- A watcher is clean at a world when its watch function gives there, changing nothing, a value
its comparison takes for unchanged. -/
def Clean (k : Knot) (c wid : Nat) (w : World) : Prop :=
  ∃ v, evalCallable k c (w.watchers[wid]?.getD default).watch .nil w = .ok v w ∧
    (w.watchers[wid]?.getD default).changed v w = .ok false w

/-- A watcher is settled at a world when it was removed or is clean. -/
def Settled (k : Knot) (c wid : Nat) (w : World) : Prop :=
  (w.watchers[wid]?.getD default).removed = true ∨ Clean k c wid w

section Visits

variable {k : Knot} {shortCircuit : Bool} {c wid : Nat} {w : World}

theorem returns_tellAndRecord (wr : Watcher) (v : Value) :
    Returns (· = (true, true)) (tellAndRecord k c wid wr v) := by
  unfold tellAndRecord
  refine .bind fun e => ?_
  extract_lets record told
  have hrecord : ∀ kept, Returns (· = (true, true)) (record kept) :=
    fun _ => .bind fun _ => .pure' rfl
  have htold : ∀ u, Returns (· = (true, true)) (told u) := fun _ => by
    dsimp only [told]
    split
    · exact .bind hrecord
    · exact .bind hrecord
  split
  · exact .bind htold
  · exact htold ()

/-- Telling a quiet listener and recording the value is quiet. -/
theorem keeps_tellAndRecord {wr : Watcher} {v : Value} (hq : Keeps Quiet (tellListener k wr v c)) :
    Keeps Quiet (tellAndRecord k c wid wr v) := by
  have hQ : TurnSteps (Keeps Quiet) k c wid wr v :=
    { Keeps.closed with
      listen := hq
      report := fun _ => (keeps_notify _).weaken fun _ _ h => observersOnly_quiet h
      copy := keeps_cloneValue _
      record := keeps_recordLast wid }
  exact hQ.tell

/-- After the turn of a watcher that saw a change, the round goes on, a change was seen, and the
marker of its tree is the watcher. -/
theorem visitDirty_ok {wr : Watcher} {v : Value} {r : Bool × Bool} {w' : World}
    (htree : w.treeIndex c < w.trees.size) (hq : Keeps Quiet (tellListener k wr v c))
    (h : visitDirty k c wid wr v w = .ok r w') :
    r = (true, true) ∧ (w'.treeState c).lastDirty = some wid := by
  obtain ⟨_, w₁, h₁, h₂⟩ := ok_of_bind h
  rw [modifyTree_run] at h₁
  cases h₁
  refine ⟨returns_tellAndRecord wr v _ _ _ h₂, ?_⟩
  have hquiet : Quiet.rel _ w' := (keeps_tellAndRecord hq).rel_of_ok h₂
  rw [Quiet.treeState hquiet c, treeState_updateTree, Array.getElem?_eq_getElem htree]
  rfl

end Visits

/-! ## A round is a sweep -/

/-- The watchers a round of `s` visits, in order, each with the scope it is visited on: those of
`s`, then, depth first, those of the scopes below it, at most `fuel` levels deep. -/
def roundOrder (scopes : Array Node) : Nat → Nat → List (Nat × Nat)
  | 0, _ => []
  | fuel + 1, s =>
    (scopes[s]?.getD default).watchers.map (s, ·) ++
      (scopes[s]?.getD default).children.flatMap (roundOrder scopes fuel)

end Bindery.Scope

namespace Bindery

/-- The order of the rounds of a digest of `s` from `w`. -/
def World.digestOrder (w : World) (s : Nat) : List (Nat × Nat) :=
  Scope.roundOrder w.scopes (w.scopes.size + 1) s

end Bindery

namespace Bindery.Scope

open Run

section Rounds

variable {k : Knot} {shortCircuit : Bool} {w₀ : World}

end Rounds

/-! ## The short circuit and deferred changes

With the short circuit, a round that reaches the watcher that was dirty last while that watcher
is clean ends there. The marker is reset when a watcher is registered or deregistered, but not
when the expressions deferred with `evalAsync` run at the start of a round, so a listener that
defers a change of a value read by a watcher placed after its own defeats the short circuit. -/

/-- Whether a watcher is dirty: its watch value, evaluated afresh on its scope, is one its
comparison treats as changed from the value it recorded last. A watch that fails is not dirty. -/
def watcherDirty (k : Knot) (wid : Nat) : Run Bool := do
  let w ← watcherAt wid
  match ← Run.attempt (evalCallable k w.scope w.watch .nil) with
  | .ok v => w.changed v
  | .error _ => pure false

/-- The scene of the failure, on a fresh root `s0`: watcher `w0` watches `a` and its listener
defers an increment of `x`; watcher `w1` watches `x` and its listener logs its calls. The tree is
digested once (both watchers settle, `x` is 1), then `a` changes. The log so far is dropped. -/
def deferredIncrement : Run Nat := do
  let loop ← newLoop
  let root ← newRoot { engine := { language := .expr } } 10 loop [.recorder]
  let _ ← Fixture.watchOf root (.obj [("expr", .obj [("get", .str "a")]),
    ("listener", .obj [("quiet", .bool true), ("eval_async", .obj [("incr", .str "x")])])])
  let _ ← Fixture.watchOf root (.obj [("expr", .obj [("get", .str "x")]), ("listener", .obj [])])
  digestWith machine root
  setVar root "a" (.int 1)
  let _ ← Run.takeLog
  pure root

/-- The log a digest of the scene writes, as text, and whether `w1` is dirty after it. -/
def afterDigest (shortCircuit : Bool) : Run (List String × Bool) := do
  let root ← deferredIncrement
  runDigest machine shortCircuit root
  let log ← Run.takeLog
  pure (log.toList.map Json.render, ← watcherDirty machine 1)

/-- **The short circuit misses a deferred change.** In the scene, `w0`'s listener defers the
increment of `x` in the first round, and the second round runs it and then stops at `w0`, the
watcher dirty last, before it reaches `w1`. The digest returns after two rounds without telling
`w1`'s listener, and leaves `w1` dirty. The reference digest tells the listener of the change
from 1 to 2 and settles after three rounds. -/
theorem digest_short_circuit_misses_deferred_change :
    (afterDigest true).run' {} =
      some (["\x7b\"obs\":\"digest_completed\",\"rounds\":2,\"scope\":\"s0\"\x7d"], true) ∧
    (afterDigest false).run' {} =
      some (["\x7b\"listener\":\"w1\",\"new\":2,\"old\":1,\"scope\":\"s0\"\x7d",
        "\x7b\"obs\":\"digest_completed\",\"rounds\":3,\"scope\":\"s0\"\x7d"], false) := by
  constructor <;> decide +kernel

end Bindery.Scope
