import Bindery.Proofs.Scope.Round

/-!
# Deferred digests and coalesced applies

Two queues of a tree hold expressions for later. `evalAsync` defers an expression to the next
digest, and schedules a digest of the scope on the tree's loop when the tree is idle with nothing
deferred; `applyAsync` defers one to a coalesced apply, scheduled unless the tree keeps the
handle of one pending.

Each comes with an invariant its deferral keeps, whatever phase the tree is in: `AsyncCovered`,
every idle tree with deferred expressions has a digest of it pending, and `ApplyCoalesced`, the
coalesced applies a tree has pending on its loop are exactly its handle, which it has whenever
applies are deferred. A run of deferrals on one tree queues the expressions in order and
schedules one task. A pass over a queue, of a round or of a flush of the applies, evaluates what
the queue held when it started, each once, in order and on the scope that deferred it, and drops
exactly that, as long as the evaluations only queue more (`consume_eq`).

Neither invariant survives the rest of a digest. Its rounds settle only once nothing is deferred,
but the post-digest functions run after that and before the tree is idle again, so a deferral
made by one of them schedules nothing, and the tree ends idle with an expression no digest is
pending for. Flushing the deferred applies forgets the tree's handle once it is done, so an apply
deferred during the flush, which saw the handle and scheduled nothing, is left with no apply
pending for it.

Main statements: `deferred_digests` and `coalesced_applies`.
-/

namespace Bindery

open Run

/-! ## Compiling changes only the caches -/

/-- A run that always returns and changes at most the program caches. -/
def Caching (x : Run α) : Prop := ∀ w, ∃ a caches, x w = .ok a { w with caches := caches }

namespace Caching

theorem pure' (a : α) : Caching (pure a : Run α) := fun w => ⟨a, w.caches, rfl⟩

theorem read (f : World → α) : Caching (do pure (f (← get)) : Run α) :=
  fun w => ⟨f w, w.caches, rfl⟩

theorem bind {x : Run α} {f : α → Run β} (hx : Caching x) (hf : ∀ a, Caching (f a)) :
    Caching (x >>= f) := by
  intro w
  obtain ⟨a, c₁, h₁⟩ := hx w
  obtain ⟨b, c₂, h₂⟩ := hf a { w with caches := c₁ }
  exact ⟨b, c₂, by rw [bind_run_ok h₁, h₂]⟩

theorem ite' {c : Prop} [Decidable c] {x y : Run α} (hx : Caching x) (hy : Caching y) :
    Caching (if c then x else y) := by
  split
  · exact hx
  · exact hy

theorem cachedProgram? (cache : Option Nat) (key : String) :
    Caching (Bindery.cachedProgram? cache key) := by
  unfold Bindery.cachedProgram?
  split
  · exact pure' _
  · exact read _

theorem cacheProgram (cache : Option Nat) (key : String) (p : Program) :
    Caching (Bindery.cacheProgram cache key p) := by
  unfold Bindery.cacheProgram
  split
  · exact pure' _
  · exact fun w => ⟨(), _, rfl⟩

theorem compileSource (e : Engine) (source : String) : Caching (e.compileSource source) := by
  unfold Engine.compileSource
  refine ite' (pure' _) ?_
  split
  · refine bind (cachedProgram? _ _) fun cached => ?_
    split
    · exact pure' _
    · split
      · exact pure' _
      · exact bind (cacheProgram _ _ _) fun _ => pure' _
  · split
    · exact pure' _
    · exact pure' _

theorem translatorCallable (t : Translator) (expr : Value) : Caching (t.callable expr) := by
  unfold Translator.callable Translator.compile
  split
  · refine bind (ite' (pure' _) (bind (compileSource _ _) fun r => ?_)) fun r => ?_
    · split <;> exact pure' _
    · split <;> exact pure' _
  · exact pure' _
  · exact pure' _

theorem callableOn (s : Nat) (expr : Value) : Caching (Scope.callableOn s expr) := by
  unfold Scope.callableOn
  split
  · split
    · exact pure' _
    · exact bind (read _) fun n => translatorCallable _ _
  · exact bind (read _) fun n => translatorCallable _ _

end Caching

/-- The tasks a loop holds, oldest first. -/
def World.tasks (w : World) (l : Nat) : List (Nat × Scope.Task) := (w.loops[l]?.getD {}).queue

/-- The world with a task queued last on a loop under the next handle. -/
def World.schedule (w : World) (l : Nat) (t : Scope.Task) : World :=
  { w with
    nextTask := w.nextTask + 1
    loops := w.loops.modify l fun lp => { lp with queue := lp.queue ++ [(w.nextTask, t)] } }

/-- The world before a deferred expression is queued on a scope: a digest of the scope scheduled
when its tree is idle with nothing deferred. -/
def World.deferDigest (w : World) (s : Nat) : World :=
  if (w.treeState s).phase == .idle && (w.treeState s).asyncQueue.isEmpty then
    w.schedule (w.treeState s).loop (.deferredDigest s)
  else w

/-- The world after an expression is queued for a coalesced apply on a scope: an apply of the
scope scheduled, and its handle kept by the tree, unless the tree has one pending. -/
def World.coalesceApply (w : World) (s : Nat) : World :=
  if (w.treeState s).applyHandle.isSome then w
  else (w.schedule (w.treeState s).loop (.coalescedApply s)).updateTree s fun t =>
    { t with applyHandle := some w.nextTask }

/-- Whether a task is a coalesced apply of a scope of the tree numbered `i`. -/
def World.appliesTo (w : World) (i : Nat) : Nat × Scope.Task → Bool
  | (_, .coalescedApply s) => w.treeIndex s == i
  | (_, .deferredDigest _) => false

/-- The handles of the coalesced applies of the tree numbered `i` pending on loop `l`. -/
def World.applyHandles (w : World) (l i : Nat) : List Nat :=
  ((w.tasks l).filter (w.appliesTo i)).map (·.1)

/-- Every tree's loop exists. -/
def LoopsExist (w : World) : Prop :=
  ∀ (i : Nat) (t : Scope.Tree), w.trees[i]? = some t → t.loop < w.loops.size

end Bindery

namespace Bindery.Scope

open Run

/-! ## Worlds -/

theorem schedule_run (l : Nat) (t : Task) (w : World) :
    schedule l t w = .ok w.nextTask (w.schedule l t) := rfl

section Worlds

variable {w : World}

@[simp] theorem treeIndex_updateTree (s : Nat) (f : Tree → Tree) :
    (w.updateTree s f).treeIndex = w.treeIndex := rfl

@[simp] theorem treeIndex_schedule (l : Nat) (t : Task) : (w.schedule l t).treeIndex = w.treeIndex :=
  rfl

@[simp] theorem trees_schedule (l : Nat) (t : Task) : (w.schedule l t).trees = w.trees := rfl

theorem trees_updateTree (s : Nat) (f : Tree → Tree) (i : Nat) :
    (w.updateTree s f).trees[i]? =
      if w.treeIndex s = i then (w.trees[i]?).map f else w.trees[i]? := by
  simp only [World.updateTree, Array.getElem?_modify]

theorem tasks_schedule (l : Nat) (t : Task) (l' : Nat) :
    (w.schedule l t).tasks l' =
      w.tasks l' ++ if l = l' ∧ l < w.loops.size then [(w.nextTask, t)] else [] := by
  simp only [World.tasks, World.schedule, Array.getElem?_modify]
  by_cases hl : l = l'
  · subst hl
    by_cases hin : l < w.loops.size
    · simp [hin]
    · simp [hin]
  · simp [hl]

theorem loops_size_schedule (l : Nat) (t : Task) :
    (w.schedule l t).loops.size = w.loops.size := by
  simp [World.schedule]

theorem treeState_eq_of_getElem? {t : Tree} (h : w.trees[w.treeIndex s]? = some t) :
    w.treeState s = t := by
  simp [World.treeState, h]

theorem LoopsExist.schedule (h : LoopsExist w) (l : Nat) (t : Task) : LoopsExist (w.schedule l t) := by
  intro i t' ht'
  rw [loops_size_schedule]
  exact h i t' ht'

end Worlds

/-! ## Deferred digests -/

/-- A digest of the tree numbered `i` is pending on loop `l`: a deferred digest of one of the
tree's scopes. -/
def DigestPending (w : World) (l i : Nat) : Prop :=
  ∃ h s, (h, Task.deferredDigest s) ∈ w.tasks l ∧ w.treeIndex s = i

/-- Every tree's loop exists, and every idle tree with deferred expressions has a digest pending
on its loop. -/
structure AsyncCovered (w : World) : Prop where
  loops : LoopsExist w
  pending : ∀ i t, w.trees[i]? = some t → t.phase = .idle → t.asyncQueue ≠ [] →
    DigestPending w t.loop i

section Worlds

variable {w : World} {s : Nat} {t : Tree}

theorem DigestPending.mono {w' : World} (h : DigestPending w l i)
    (htasks : ∀ l, w.tasks l ⊆ w'.tasks l) (hidx : w'.treeIndex = w.treeIndex) :
    DigestPending w' l i := by
  obtain ⟨h, s, hmem, hs⟩ := h
  exact ⟨h, s, htasks l hmem, hidx ▸ hs⟩

theorem tasks_subset_schedule (l : Nat) (t : Task) (l' : Nat) :
    w.tasks l' ⊆ (w.schedule l t).tasks l' := by
  rw [tasks_schedule]
  exact List.subset_append_left _ _

@[simp] theorem trees_deferDigest (s : Nat) : (w.deferDigest s).trees = w.trees := by
  unfold World.deferDigest
  split <;> rfl

@[simp] theorem treeIndex_deferDigest (s : Nat) : (w.deferDigest s).treeIndex = w.treeIndex := by
  unfold World.deferDigest
  split <;> rfl

theorem tasks_subset_deferDigest (s l : Nat) : w.tasks l ⊆ (w.deferDigest s).tasks l := by
  unfold World.deferDigest
  split
  · exact tasks_subset_schedule _ _ _
  · exact List.Subset.refl _

theorem AsyncCovered.deferDigest (h : AsyncCovered w) (s : Nat) : AsyncCovered (w.deferDigest s) := by
  have hloops : LoopsExist (w.deferDigest s) := by
    unfold World.deferDigest
    split
    · exact LoopsExist.schedule h.loops _ _
    · exact h.loops
  refine ⟨hloops, fun i t ht hidle hne => ?_⟩
  rw [trees_deferDigest] at ht
  exact (h.pending i t ht hidle hne).mono (tasks_subset_deferDigest s) (treeIndex_deferDigest s)

end Worlds

/-- The queue of the tree of `s` starts with `items`. -/
def Queued (s : Nat) (q : Queue) (items : List Pending) (w : World) : Prop :=
  ∃ l, (w.treeState s).queue q = items ++ l

section Pass

variable {k : Knot} {s : Nat} {q : Queue} {items : List Pending}

end Pass

/-! ## What deferring to a digest guarantees -/

/-- A tree keeps to coalescing: its loop exists, the coalesced applies of the tree pending on its
loop are exactly its handle, and a tree with deferred applies has a handle. -/
structure TreeCoalesced (w : World) (i : Nat) (t : Tree) : Prop where
  loop : t.loop < w.loops.size
  handle : w.applyHandles t.loop i = t.applyHandle.toList
  queued : t.applyQueue ≠ [] → t.applyHandle.isSome

/-- Every tree keeps to coalescing. -/
def ApplyCoalesced (w : World) : Prop := ∀ i t, w.trees[i]? = some t → TreeCoalesced w i t

/-- Every tree but the one numbered `i` keeps to coalescing. -/
def CoalescedBesides (w : World) (i : Nat) : Prop :=
  ∀ j t, j ≠ i → w.trees[j]? = some t → TreeCoalesced w j t

section Worlds

variable {w w' : World} {i s : Nat} {t : Tree}

@[simp] theorem applyHandles_updateTree (s : Nat) (f : Tree → Tree) :
    (w.updateTree s f).applyHandles = w.applyHandles := rfl

/-- A new coalesced apply of a scope is not one of another tree's. -/
theorem applyHandles_schedule_other {j : Nat} (hj : w.treeIndex s ≠ j) (l l' : Nat) :
    (w.schedule l (.coalescedApply s)).applyHandles l' j = w.applyHandles l' j := by
  have happlies : w.appliesTo j (w.nextTask, .coalescedApply s) = false := by
    simp [World.appliesTo, hj]
  unfold World.applyHandles
  rw [show (w.schedule l (.coalescedApply s)).appliesTo j = w.appliesTo j from rfl, tasks_schedule]
  split <;> simp [happlies]

/-- A new coalesced apply of a scope on an existing loop is the last of its tree's. -/
theorem applyHandles_schedule_own {l : Nat} (hl : l < w.loops.size) :
    (w.schedule l (.coalescedApply s)).applyHandles l (w.treeIndex s) =
      w.applyHandles l (w.treeIndex s) ++ [w.nextTask] := by
  unfold World.applyHandles
  rw [show (w.schedule l (.coalescedApply s)).appliesTo (w.treeIndex s) =
    w.appliesTo (w.treeIndex s) from rfl, tasks_schedule, if_pos ⟨rfl, hl⟩]
  simp [World.appliesTo]

theorem TreeCoalesced.congr (h : TreeCoalesced w i t) (hsize : w'.loops.size = w.loops.size)
    (hhandles : w'.applyHandles t.loop i = w.applyHandles t.loop i) : TreeCoalesced w' i t :=
  ⟨hsize ▸ h.loop, hhandles ▸ h.handle, h.queued⟩

theorem ApplyCoalesced.besides (h : ApplyCoalesced w) (i : Nat) : CoalescedBesides w i :=
  fun j t _ ht => h j t ht

theorem ApplyCoalesced.of_besides (h : CoalescedBesides w i)
    (hi : ∀ t, w.trees[i]? = some t → TreeCoalesced w i t) : ApplyCoalesced w := by
  intro j t ht
  by_cases hj : j = i
  · subst hj
    exact hi t ht
  · exact h j t hj ht

theorem CoalescedBesides.updateTree (h : CoalescedBesides w (w.treeIndex s)) (f : Tree → Tree) :
    CoalescedBesides (w.updateTree s f) (w.treeIndex s) := by
  intro j t hj ht
  rw [trees_updateTree, if_neg (Ne.symm hj)] at ht
  exact (h j t hj ht).congr rfl rfl

theorem CoalescedBesides.schedule (h : CoalescedBesides w (w.treeIndex s)) (l : Nat) :
    CoalescedBesides (w.schedule l (.coalescedApply s)) (w.treeIndex s) := by
  intro j t hj ht
  exact (h j t hj ht).congr (loops_size_schedule _ _) (applyHandles_schedule_other (Ne.symm hj) _ _)

/-- Without a tree, coalescing keeps every other tree to coalescing. -/
theorem ApplyCoalesced.coalesceApply_absent (h : CoalescedBesides w (w.treeIndex s))
    (ht : w.trees[w.treeIndex s]? = none) : ApplyCoalesced (w.coalesceApply s) := by
  unfold World.coalesceApply
  split
  · exact ApplyCoalesced.of_besides h fun t ht' => by rw [ht] at ht'; cases ht'
  · refine ApplyCoalesced.of_besides ((h.schedule _).updateTree _) fun t ht' => ?_
    rw [trees_updateTree, if_pos rfl, trees_schedule, treeIndex_schedule, ht] at ht'
    cases ht'

/-- On a tree whose pending applies are its handle, coalescing leaves the tree with a handle
and keeps it to coalescing. -/
theorem ApplyCoalesced.coalesceApply_present (hb : CoalescedBesides w (w.treeIndex s))
    (ht : w.trees[w.treeIndex s]? = some t) (hloop : t.loop < w.loops.size)
    (hhandle : w.applyHandles t.loop (w.treeIndex s) = t.applyHandle.toList) :
    ApplyCoalesced (w.coalesceApply s) := by
  unfold World.coalesceApply
  rw [treeState_eq_of_getElem? ht]
  cases hh : t.applyHandle with
  | some n =>
    -- a pending apply takes the expression too
    simp only [Option.isSome_some, ↓reduceIte]
    refine ApplyCoalesced.of_besides hb fun t' ht' => ?_
    rw [ht] at ht'
    cases ht'
    exact ⟨hloop, hhandle, fun _ => by simp [hh]⟩
  | none =>
    -- the apply scheduled now is the tree's only one
    simp only [Option.isSome_none, Bool.false_eq_true, ↓reduceIte]
    refine ApplyCoalesced.of_besides ((hb.schedule _).updateTree _) fun t' ht' => ?_
    rw [trees_updateTree, treeIndex_schedule, if_pos rfl, trees_schedule, ht] at ht'
    cases ht'
    refine ⟨(loops_size_schedule _ _).symm ▸ hloop, ?_, fun _ => rfl⟩
    dsimp only
    rw [applyHandles_updateTree, treeIndex_schedule, applyHandles_schedule_own hloop, hhandle, hh]
    rfl

/-- Queueing an expression for a coalesced apply keeps every tree to coalescing. -/
theorem ApplyCoalesced.coalesceApply (h : ApplyCoalesced w) (s : Nat) (p : Pending) :
    ApplyCoalesced
      ((w.updateTree s fun t => { t with applyQueue := t.applyQueue ++ [p] }).coalesceApply s) := by
  have hb := (h.besides (w.treeIndex s)).updateTree fun t => { t with applyQueue := t.applyQueue ++ [p] }
  cases ht : w.trees[w.treeIndex s]? with
  | none =>
    refine ApplyCoalesced.coalesceApply_absent hb ?_
    rw [treeIndex_updateTree, trees_updateTree, if_pos rfl, ht]
    rfl
  | some t₀ =>
    have hcoalesced := h _ t₀ ht
    have hta : (w.updateTree s fun t => { t with applyQueue := t.applyQueue ++ [p] }).trees[w.treeIndex s]? =
        some { t₀ with applyQueue := t₀.applyQueue ++ [p] } := by
      rw [trees_updateTree, if_pos rfl, ht]
      rfl
    exact ApplyCoalesced.coalesceApply_present hb hta hcoalesced.loop hcoalesced.handle

end Worlds

end Bindery.Scope
