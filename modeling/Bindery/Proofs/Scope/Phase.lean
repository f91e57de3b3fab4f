import Bindery.Dispatch
import Bindery.Json.Writer
import Bindery.Proofs.Scope.Reporting

/-!
# Phases of a tree

A tree is in one phase at a time: idle, applying or digesting. `apply` and `digest` enter their
phase first and refuse to start when the tree is busy. The refusal itself clears the phase, so
the phase is a flag rather than a lock: once a nested request has been refused, the next nested
request finds the tree idle and runs inside the activation that is still in progress.

* `Request`: an apply or a digest asked of a tree; `Request.run_busy` and `Request.run_idle` say
  what one does on a busy and on an idle tree.
* `PhaseFlag`: what the phase does guarantee, and where it stops. A request on a busy tree is
  refused with a phase conflict and changes nothing but the phase, which it resets; a request on
  an idle tree is admitted; a digest that returns leaves its tree idle. So after one refusal the
  next request made by the same activation is admitted.
* `nested_apply_admitted_after_refusal`: two listeners that each ask for an apply during one
  digest; the first is refused, the second is admitted, evaluates its expression and digests the
  tree from its root while the outer digest's round is in progress.

Main statement: `phase_flag`.
-/

namespace Bindery

/-- The number of the tree a scope belongs to. -/
def World.treeIndex (w : World) (s : Nat) : Nat := (w.scopes[s]?.getD default).tree

/-- The shared state of the tree a scope belongs to. -/
def World.treeState (w : World) (s : Nat) : Scope.Tree := w.trees[w.treeIndex s]?.getD default

/-- The world with the shared state of a scope's tree changed. -/
def World.updateTree (w : World) (s : Nat) (f : Scope.Tree → Scope.Tree) : World :=
  { w with trees := w.trees.modify (w.treeIndex s) f }

end Bindery

namespace Bindery.Scope

open Run

/-! ## The tree of a scope -/

theorem stateOf_run (s : Nat) (w : World) : stateOf s w = .ok (w.treeState s) w := rfl

theorem treeState_updateTree (w : World) (s : Nat) (f : Tree → Tree) :
    (w.updateTree s f).treeState s = ((w.trees[w.treeIndex s]?).map f).getD default := by
  simp [World.treeState, World.updateTree, World.treeIndex, Array.getElem?_modify]

/-- A change to the tree of a scope that keeps a part of every tree keeps that part of the
scope's tree. -/
theorem treeState_updateTree_of_comp {w : World} {s : Nat} (f : Tree → Tree) (g : Tree → β)
    (hg : ∀ t, g (f t) = g t) : g ((w.updateTree s f).treeState s) = g (w.treeState s) := by
  rw [treeState_updateTree]
  unfold World.treeState
  cases w.trees[w.treeIndex s]? with
  | none => rfl
  | some t => exact hg t

/-- The tree of a scope is idle. -/
def Idle (s : Nat) (w : World) : Prop := (w.treeState s).phase = .idle

theorem idle_resetPhase (w : World) (s : Nat) :
    Idle s (w.updateTree s fun t => { t with phase := .idle }) := by
  unfold Idle
  rw [treeState_updateTree]
  cases w.trees[w.treeIndex s]? <;> rfl

/-! ## Entering and leaving a phase -/

theorem Phase.bne_idle {p : Phase} : (p != .idle) = true ↔ p ≠ .idle := by
  cases p with
  | idle => exact ⟨fun h => absurd h (by decide), fun h => absurd rfl h⟩
  | apply => exact ⟨fun _ h => Phase.noConfusion h, fun _ => rfl⟩
  | digest => exact ⟨fun _ h => Phase.noConfusion h, fun _ => rfl⟩

theorem beginPhase_busy {s : Nat} {p : Phase} {w : World} (h : (w.treeState s).phase ≠ .idle) :
    beginPhase s p w = .error (.fault (.phaseConflict (w.treeState s).phase.name p.name))
      (w.updateTree s fun t => { t with phase := .idle }) := by
  unfold beginPhase
  rw [bind_run_ok (stateOf_run s w)]
  dsimp only
  rw [if_pos (Phase.bne_idle.mpr h)]
  rfl

theorem beginPhase_idle {s : Nat} {p : Phase} {w : World} (h : (w.treeState s).phase = .idle) :
    beginPhase s p w = .ok () (w.updateTree s fun t => { t with phase := p }) := by
  unfold beginPhase
  rw [bind_run_ok (stateOf_run s w)]
  dsimp only
  rw [if_neg (fun hb => Phase.bne_idle.mp hb h)]
  rfl

/-- Entering a phase fails only on a busy tree, which it leaves idle. -/
theorem beginPhase_failsIn (s : Nat) (p : Phase) : FailsIn (Idle s) (beginPhase s p) := by
  intro w e w' h
  by_cases hb : (w.treeState s).phase = .idle
  · rw [beginPhase_idle hb] at h
    cases h
  · rw [beginPhase_busy hb] at h
    cases h
    exact idle_resetPhase w s

theorem clearPhase_endsIn (s : Nat) : EndsIn (Idle s) (clearPhase s) := by
  constructor
  · intro w e w' h
    cases h
  · intro w a w' h
    cases h
    exact idle_resetPhase w s

theorem keeps_idle {s : Nat} {x : Run α} (hx : Keeps ObserversOnly x) :
    Keeps (Guarantee.preserving (Idle s)) x := by
  intro w hw
  obtain ⟨hscopes, htrees, -, -⟩ := hx w
  unfold Idle World.treeState World.treeIndex at *
  rw [hscopes, htrees]
  exact hw

/-! ## Digests end idle -/

/-- **A digest that returns leaves its tree idle**, whether it settled, ran out of rounds or was
refused. -/
theorem runDigest_idle (k : Knot) (shortCircuit : Bool) (s : Nat) :
    EndsIn (Idle s) (runDigest k shortCircuit s) := by
  unfold runDigest
  -- a digest fails by itself only when it is refused, which leaves the tree idle, or when it runs
  -- out of rounds, after clearing the phase; the steps in between report their failures
  refine .bind (beginPhase_failsIn _ _) fun _ => .bind (.of_avoids (modifyTree_avoids _ _)) fun _ =>
    .bind (.of_avoids (stateOf_avoids _)) fun t => ?_
  extract_lets settle
  have hsettle : ∀ u, EndsIn (Idle s) (settle u) := by
    intro _
    refine .bind (.of_avoids (stateOf_avoids _)) fun _ =>
      .bind (.of_avoids (settleRounds_handled _ _ _ _ _)) fun _ => ?_
    split
    · exact .bind_keeps (clearPhase_endsIn s) fun _ => .bind (keeps_idle (keeps_read _)) fun _ =>
        .bind (keeps_idle (keeps_notify _)) fun _ => .fail' _
    · refine .bind (.of_avoids (stateOf_avoids _)) fun _ =>
        .bind (.of_avoids (.forIn' fun fn _ _ => .bind (runPostDigest_handled k s fn) fun _ => .pure' _))
          fun _ => .bind (.of_avoids (stateOf_avoids _)) fun _ => ?_
      -- the queue of post-digest functions is cut, the phase cleared and the observers told
      extract_lets rest finish
      have hfinish : ∀ u, EndsIn (Idle s) (finish u) := fun _ =>
        .bind (.of_avoids (modifyTree_avoids _ _)) fun _ =>
          .bind_keeps (clearPhase_endsIn s) fun _ => keeps_idle (keeps_notify _)
      exact .ite' (.bind (.of_avoids (.panicWith' _ id)) hfinish) (hfinish ())
  split
  · exact .bind (.of_avoids (.modify' _)) fun _ => .bind (.of_avoids (flushApply_handled _ _)) hsettle
  · exact hsettle ()

/-! ## Requests on a busy tree -/

section Busy

variable {k : Knot} {s : Nat} {w : World}

/-- A digest of a busy tree is refused before it evaluates anything. -/
theorem runDigest_busy (shortCircuit : Bool) (h : (w.treeState s).phase ≠ .idle) :
    runDigest k shortCircuit s w =
      .error (.fault (.phaseConflict (w.treeState s).phase.name Phase.digest.name))
        (w.updateTree s fun t => { t with phase := .idle }) := by
  unfold runDigest
  exact bind_run_error (beginPhase_busy h)

/-- An apply on a busy tree returns the conflict before it evaluates anything. -/
theorem applyWith_busy (expr : Value) (h : (w.treeState s).phase ≠ .idle) :
    applyWith k s expr w =
      .ok (.nil, some (.phaseConflict (w.treeState s).phase.name Phase.apply.name))
        (w.updateTree s fun t => { t with phase := .idle }) := by
  unfold applyWith
  rw [bind_run_ok (attempt_run_fault (beginPhase_busy h))]
  rfl

end Busy

/-! ## Requests for a phase -/

/-- A request for a phase on a tree, as watch functions, listeners and callbacks make them: an
apply of an expression, or a digest. -/
inductive Request where
  | apply (expr : Value)
  | digest (shortCircuit : Bool)

/-- The phase a request asks for. -/
def Request.phase : Request → Phase
  | .apply _ => .apply
  | .digest _ => .digest

/-- A request made on the tree of scope `s`, and the failure it reports: an apply returns its
failure beside its value, a digest fails with it. -/
def Request.run (k : Knot) (s : Nat) : Request → Run (Option Fault)
  | .apply expr => do pure (← applyWith k s expr).2
  | .digest shortCircuit => do
    match ← Run.attempt (runDigest k shortCircuit s) with
    | .ok _ => pure none
    | .error e => pure (some e)

/-- A reported failure that is no phase conflict: the request was admitted. -/
def Admitted (o : Option Fault) : Prop := ∀ active requested, o ≠ some (.phaseConflict active requested)

/-- Whether an interruption is a phase conflict. -/
def IsConflict : Interrupt → Prop
  | .fault (.phaseConflict _ _) => True
  | _ => False

theorem IsConflict.isFault {e : Interrupt} (h : IsConflict e) : IsFault e := by
  cases e with
  | fault f => trivial
  | panic => exact h.elim
  | exhausted => exact h.elim

theorem avoids_conflict {x : Run α} (hx : Avoids IsFault x) : Avoids IsConflict x :=
  fun w e w' h hc => hx w e w' h hc.isFault

section Requests

variable {k : Knot} {s : Nat} {w : World}

/-- A request on a busy tree is refused: it reports the conflict naming the active and the
requested phase, and the only change it makes is to reset the phase. -/
theorem Request.run_busy (r : Request) (h : (w.treeState s).phase ≠ .idle) :
    r.run k s w = .ok (some (.phaseConflict (w.treeState s).phase.name r.phase.name))
      (w.updateTree s fun t => { t with phase := .idle }) := by
  cases r with
  | apply expr =>
    simp only [Request.run, Request.phase]
    rw [bind_run_ok (applyWith_busy expr h)]
    rfl
  | digest shortCircuit =>
    simp only [Request.run, Request.phase]
    rw [bind_run_ok (attempt_run_fault (runDigest_busy shortCircuit h))]
    rfl

/-- Once a digest has entered its phase, nothing it runs fails it with a phase conflict: its
steps handle their own failures, and it fails by itself only with its limit. -/
theorem runDigest_admitted (shortCircuit : Bool) (h : Idle s w) {e : Interrupt} {w' : World}
    (hr : runDigest k shortCircuit s w = .error e w') : ¬ IsConflict e := by
  unfold runDigest at hr
  rw [bind_run_ok (beginPhase_idle h)] at hr
  refine (?_ : Avoids IsConflict _) _ _ _ hr
  refine .bind (modifyTree_avoids _ _) fun _ => .bind (stateOf_avoids _) fun t => ?_
  extract_lets settle
  have hsettle : ∀ u, Avoids IsConflict (settle u) := by
    intro _
    refine .bind (stateOf_avoids _) fun _ =>
      .bind (avoids_conflict (settleRounds_handled _ _ _ _ _)) fun _ => ?_
    split
    · exact .bind (modifyTree_avoids _ _) fun _ => .bind (stateOf_avoids _) fun _ =>
        .bind (notify_avoids _) fun _ => .fail' _ id
    · refine .bind (stateOf_avoids _) fun _ =>
        .bind (.forIn' fun fn _ _ => .bind (avoids_conflict (runPostDigest_handled k s fn))
          fun _ => .pure' _) fun _ => .bind (stateOf_avoids _) fun _ => ?_
      extract_lets rest finish
      have hfinish : ∀ u, Avoids IsConflict (finish u) := fun _ =>
        .bind (modifyTree_avoids _ _) fun _ => .bind (modifyTree_avoids _ _) fun _ =>
          notify_avoids _
      exact .ite' (.bind (.panicWith' _ id) hfinish) (hfinish ())
  split
  · exact .bind (.modify' _) fun _ => .bind (avoids_conflict (flushApply_handled _ _)) hsettle
  · exact hsettle ()

/-- Once an apply has entered its phase, it reports no phase conflict of its own: only the
failures of its evaluation and of its digest, joined. -/
theorem applyWith_admitted (expr : Value) (h : Idle s w) {v : Value} {o : Option Fault}
    {w' : World} (hr : applyWith k s expr w = .ok (v, o) w') : Admitted o := by
  unfold applyWith at hr
  rw [bind_run_ok (attempt_run_ok (beginPhase_idle h))] at hr
  refine (?_ : Returns (fun p : Value × Option Fault => Admitted p.2) _) _ _ _ hr
  refine .bind fun _ => .bind fun _ => .bind fun _ => .bind fun _ => .pure' ?_
  intro active requested
  split <;> simp

/-- A request on an idle tree is admitted. -/
theorem Request.run_idle (r : Request) (h : Idle s w) {o : Option Fault} {w' : World}
    (hr : r.run k s w = .ok o w') : Admitted o := by
  cases r with
  | apply expr =>
    obtain ⟨⟨v, o'⟩, w₁, happly, hpure⟩ := ok_of_bind hr
    cases hpure
    exact applyWith_admitted expr h happly
  | digest shortCircuit =>
    obtain ⟨res, w₁, hattempt, hmatch⟩ := ok_of_bind hr
    intro active requested hconflict
    -- a reported failure is one the digest failed with, which is never a conflict
    cases hres : res with
    | ok _ => rw [hres] at hmatch; cases hmatch; cases hconflict
    | error e =>
      rw [hres] at hmatch hattempt
      cases hmatch
      cases hconflict
      exact runDigest_admitted shortCircuit h (fault_of_attempt hattempt) trivial

end Requests

/-! ## The phase is a flag -/

/-- What the phase of a tree guarantees, for every program its callables run, and what it does
not. A request made while the tree is busy is refused with a phase conflict that names the
active and requested phases; it evaluates no expression and no watcher, and the only change it
makes is to reset the phase. A request on an idle tree is admitted. A digest that returns, with a
value or a failure, leaves its tree idle. So the phase is a flag and not a lock: after a refused
request, and whatever the activation in progress does next that leaves the phase alone, the next
request on the tree finds it idle and is admitted while that activation is still running. -/
structure PhaseFlag (k : Knot) : Prop where
  refused : ∀ (r : Request) s (w : World), (w.treeState s).phase ≠ .idle →
    r.run k s w = .ok (some (.phaseConflict (w.treeState s).phase.name r.phase.name))
      (w.updateTree s fun t => { t with phase := .idle })
  admitted : ∀ (r : Request) s (w : World) o w', Idle s w → r.run k s w = .ok o w' → Admitted o
  digest_idle : ∀ shortCircuit s, EndsIn (Idle s) (runDigest k shortCircuit s)
  reentry : ∀ (r₁ r₂ : Request) s (w : World) {α : Type} (x : Run α),
    (w.treeState s).phase ≠ .idle → Keeps (.fixing fun w => (w.treeState s).phase) x →
    ∃ w₁, r₁.run k s w = .ok (some (.phaseConflict (w.treeState s).phase.name r₁.phase.name)) w₁ ∧
      ∀ a w₂ o w₃, x w₁ = .ok a w₂ → r₂.run k s w₂ = .ok o w₃ → Admitted o

/-- After a refusal, code that leaves the phase alone hands the next request an idle tree. -/
theorem reentry_idle {x : Run α} {s : Nat} {w₁ w₂ : World} {a : α} (h₁ : Idle s w₁)
    (hx : Keeps (.fixing fun w => (w.treeState s).phase) x) (h : x w₁ = .ok a w₂) : Idle s w₂ := by
  have hphase := hx w₁
  rw [h] at hphase
  exact hphase.trans h₁

theorem phase_flag (k : Knot) : PhaseFlag k where
  refused r _ _ h := r.run_busy h
  admitted r _ _ _ _ h hr := r.run_idle h hr
  digest_idle := runDigest_idle k
  reentry r₁ r₂ s w _ _ h hx := ⟨_, r₁.run_busy h, fun _ _ _ _ hxr hr =>
    r₂.run_idle (reentry_idle (idle_resetPhase w s) hx hxr) hr⟩

/-- A tree that is applying; scope 0 belongs to it. -/
def applyingWorld : World :=
  { trees := #[{ phase := .apply, ttl := 10, loop := 0, observers := [] }] }

/-- A digest requested while the tree is applying is refused, and an apply requested right after
it is admitted. -/
theorem refused_digest_readmits_apply : (applyingWorld.treeState 0).phase ≠ .idle ∧
    ∃ w₁, (Request.digest true).run machine 0 applyingWorld =
      .ok (some (.phaseConflict "apply" "digest")) w₁ ∧
      ∀ a w₂ o w₃, (pure () : Run Unit) w₁ = .ok a w₂ →
        (Request.apply .nil).run machine 0 w₂ = .ok o w₃ → Admitted o :=
  have busy : (applyingWorld.treeState 0).phase ≠ .idle := fun h => Phase.noConfusion h
  ⟨busy, (phase_flag machine).reentry (.digest true) (.apply .nil) 0 applyingWorld (pure ()) busy
    (Keeps.pure' ())⟩

/-! ## A nested apply after a refusal -/

/-- Two watchers of `a` on a fresh root, each with a listener that asks for an apply of an
expression that increments `n`; the tree is then digested once. Returns the number of applies
refused with a phase conflict, the number of digests that completed, the value of `n` (how many
applied expressions were evaluated) and whether the tree is idle afterwards. -/
def nestedApplies : Run (Nat × Nat × Int × Bool) := do
  let loop ← newLoop
  let root ← newRoot { engine := { language := .expr } } 10 loop [.recorder]
  let listener := Json.obj [("quiet", .bool true), ("apply", .obj [("incr", .str "n")])]
  let _ ← Fixture.watchOf root (.obj [("expr", .obj [("get", .str "a")]), ("listener", listener)])
  let _ ← Fixture.watchOf root (.obj [("expr", .obj [("get", .str "a")]), ("listener", listener)])
  let _ ← Run.takeLog
  digestWith machine root
  let log := (← Run.takeLog).toList
  let refused := (log.filter fun j => (j.field? "err").isSome).length
  let completed := (log.filter fun j => (j.field? "obs").isSome).length
  let n := match ← getVar root "n" with
    | .int i => i
    | _ => 0
  pure (refused, completed, n, (← stateOf root).phase == .idle)

/-- **The second nested apply is admitted.** In the first round the listener of `w0` asks for an
apply and is refused, which clears the phase. The listener of `w1`, in the same round, asks again
and is admitted: its expression is evaluated, and its digest of the root runs to completion inside
the outer digest's round, where the listener of `w1` is refused in turn. One digest thus completes
two and evaluates an applied expression while its round is in progress. -/
theorem nested_apply_admitted_after_refusal : nestedApplies.run' {} = some (2, 2, 1, true) := by
  decide +kernel

end Bindery.Scope
