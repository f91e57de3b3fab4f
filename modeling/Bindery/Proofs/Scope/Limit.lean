import Bindery.Proofs.Scope.Structure

/-!
# The round limit of a digest

A digest repeats rounds until one settles. A round evaluates the expressions deferred on the
tree, then sweeps the watchers of the subtree; it settles when no watcher was dirty and nothing is
deferred any more. Each tree carries a round limit, read when the rounds start, and a digest that
has run that many rounds without settling gives up.

* Every root starts a tree with a positive limit: the limit asked for, or ten when that is not
  positive. So does a root made by a provider, whatever the provider's limit, and every sequence of
  scope calls keeps every tree's limit positive.
* `roundsEnd`: rounds run from a world end within `n` of them, in one of three ways. One settles,
  one is interrupted, or all `n` return without settling.
* A digest whose round `j + 1` settles runs the functions queued to run after it, each once and in
  order, drops them from the queue, leaves the tree idle and tells the observers of its `j + 1`
  rounds. A digest whose rounds run out leaves the tree idle, tells the observers once that it
  failed with the limit, and returns that failure; the queue of functions stays as the rounds
  left it.

Main statement: `digest_within_round_limit`.
-/

namespace Bindery.Scope

open Run

/-! ## Positive limits -/

/-- Every tree has a positive round limit. -/
def LimitsPositive (w : World) : Prop := ∀ t ∈ w.trees, 0 < t.ttl

theorem rootLimit_pos (ttl : Int) : 0 < (if ttl ≤ 0 then 10 else ttl) := by
  split <;> omega

namespace Build

theorem trees_next (b : Build) (w : World) : (b.next w).trees = (b.start w).trees :=
  (run_ok b w).2.2

theorem limitsPositive_next {b : Build} {w : World} (h : LimitsPositive w) :
    LimitsPositive (b.next w) := by
  intro t ht
  rw [trees_next] at ht
  cases b with
  | root translator ttl loop observers =>
    rcases Array.mem_push.mp ht with ht | rfl
    · exact h t ht
    · exact rootLimit_pos ttl
  | child => exact h t ht
  | destroy scope =>
    cases hh : (nodeOf w.scopes scope).hparent <;> simp only [start, hh] at ht <;> exact h t ht

/-- **Scope calls keep every limit positive**: trees are only made by roots. -/
theorem limitsPositive_after {w : World} (bs : List Build) (h : LimitsPositive w) :
    LimitsPositive (after w bs) := by
  induction bs generalizing w with
  | nil => exact h
  | cons b bs ih =>
    rw [after_cons]
    exact ih (limitsPositive_next h)

/-- The tree of a new root, with the limit asked for when it is positive. -/
theorem treeState_root (translator : Translator) (ttl : Int) (loop : Nat)
    (observers : List Observer) (w : World) :
    ((root translator ttl loop observers).next w).treeState w.scopes.size =
      { ttl := if ttl ≤ 0 then 10 else ttl, loop, observers } := by
  obtain ⟨-, hscopes, htrees⟩ := run_ok (root translator ttl loop observers) w
  have hnode := nodeOf_root translator ttl loop observers w w.scopes.size
  rw [if_pos rfl, ← hscopes] at hnode
  unfold World.treeState World.treeIndex
  rw [← nodeOf, hnode, htrees]
  simp [start, rootNode]

end Build

/-- A new root is numbered after the scopes there are, and makes the world of its call. -/
theorem newRoot_run (translator : Translator) (ttl : Int) (loop : Nat) (observers : List Observer)
    (w : World) :
    newRoot translator ttl loop observers w =
      .ok w.scopes.size ((Build.root translator ttl loop observers).next w) := by
  obtain ⟨v, hv, -⟩ := notify_ok (.created w.scopes.size)
    ((Build.root translator ttl loop observers).start w)
  have hnew : newRoot translator ttl loop observers w =
      (notify (.created w.scopes.size) >>= fun _ => pure w.scopes.size)
        ((Build.root translator ttl loop observers).start w) := rfl
  have hnext : (Build.root translator ttl loop observers).next w = v := by
    unfold Build.next
    rw [Build.run_eq]
    simp only [Build.notices, List.forM_cons, List.forM_nil, bind_assoc]
    rw [bind_run_ok hv]
    rfl
  rw [hnew, bind_run_ok hv, hnext]
  rfl

/-- The translator a provider makes a root with: the one passed as the only argument, or the
default one. -/
def rootTranslator (args : List Value) : Translator :=
  match args with
  | [.translator t] => t
  | _ => { engine := { language := .expr } }

/-- **A root made by a provider has a positive limit**, whatever limit the provider holds: the
provider's limit when positive, ten otherwise. -/
theorem buildRoot_limit (provider : Nat) (args : List Value) (w : World) :
    ∃ id w', buildRoot provider args w = .ok (.scope id) w' ∧
      (w'.treeState id).ttl =
        (let ttl := (w.rootProviders[provider]?.getD { ttl := 10 }).ttl
         if ttl ≤ 0 then 10 else ttl) := by
  let p := w.rootProviders[provider]?.getD { ttl := 10 }
  let t := rootTranslator args
  let v : World := { w with loops := w.loops.push {} }
  refine ⟨v.scopes.size, (Build.root t p.ttl w.loops.size p.observers).next v, ?_, ?_⟩
  · show (newRoot t p.ttl w.loops.size p.observers >>= fun id => pure (Value.scope id)) v = _
    rw [bind_run_ok (newRoot_run _ _ _ _ v)]
    rfl
  · rw [Build.treeState_root]

/-! ## Rounds -/

/-- One round of a digest of `s`: the expressions deferred on the tree are evaluated, then the
watchers of the subtree swept. Returns whether the round settled, with no watcher dirty and
nothing deferred. -/
def digestRound (k : Knot) (shortCircuit : Bool) (s : Nat) : Run Bool := do
  consume k s .async
  let dirty ← digestOnce k shortCircuit s
  pure (!dirty && (← stateOf s).asyncQueue.isEmpty)

/-- `n` runs of `r` from `w`, none of which settles, end in `w'`. -/
inductive Unsettled (r : Run Bool) : Nat → World → World → Prop
  | zero (w : World) : Unsettled r 0 w w
  | step {n : Nat} {w w₁ w₂ : World} :
      r w = .ok false w₁ → Unsettled r n w₁ w₂ → Unsettled r (n + 1) w w₂

/-- How runs of `r` from `w` end within `n` of them. -/
inductive RoundsEnd (r : Run Bool) (n : Nat) (w : World) : Prop
  /-- Run `j + 1` settles. -/
  | settled {j : Nat} {w₁ w₂ : World} :
      j < n → Unsettled r j w w₁ → r w₁ = .ok true w₂ → RoundsEnd r n w
  /-- Run `j + 1` is interrupted. -/
  | stopped {j : Nat} {w₁ w₂ : World} {e : Interrupt} :
      j < n → Unsettled r j w w₁ → r w₁ = .error e w₂ → RoundsEnd r n w
  /-- All `n` runs return without settling. -/
  | exhausted {w₁ : World} : Unsettled r n w w₁ → RoundsEnd r n w

/-- **Rounds end within their limit**, in one of the three ways. -/
theorem roundsEnd (r : Run Bool) (n : Nat) (w : World) : RoundsEnd r n w := by
  induction n generalizing w with
  | zero => exact .exhausted (.zero w)
  | succ n ih =>
    cases h : r w with
    | ok settled w₁ =>
      cases settled with
      | true => exact .settled (Nat.zero_lt_succ n) (.zero w) h
      | false =>
        -- the first run does not settle: the others end as from its world
        cases ih w₁ with
        | settled hj hu hr => exact .settled (Nat.succ_lt_succ hj) (.step h hu) hr
        | stopped hj hu hr => exact .stopped (Nat.succ_lt_succ hj) (.step h hu) hr
        | exhausted hu => exact .exhausted (.step h hu)
    | error e w₁ => exact .stopped (Nat.zero_lt_succ n) (.zero w) h

section Rounds

variable {k : Knot} {shortCircuit : Bool} {s : Nat}

theorem settleRounds_succ (left done : Nat) :
    settleRounds k shortCircuit s (left + 1) done = digestRound k shortCircuit s >>= fun settled =>
      if settled then pure (some (done + 1))
      else if left == 0 then pure none else settleRounds k shortCircuit s left (done + 1) := by
  simp only [settleRounds, digestRound, bind_assoc, pure_bind]

/-- A round that does not settle, with rounds left after it, passes on to the next. -/
theorem settleRounds_pass {w w₁ : World} (hw : digestRound k shortCircuit s w = .ok false w₁)
    {left : Nat} (hleft : left ≠ 0) (done : Nat) :
    settleRounds k shortCircuit s (left + 1) done w =
      settleRounds k shortCircuit s left (done + 1) w₁ := by
  have hmore : (left == 0) = false := beq_eq_false_iff_ne.mpr hleft
  rw [settleRounds_succ, bind_run_ok hw, if_neg Bool.false_ne_true, hmore,
    if_neg Bool.false_ne_true]

/-- Rounds that return without settling, fewer than the rounds left, hand on to the rounds after
them, with as many rounds fewer left and as many more done. -/
theorem settleRounds_of_unsettled {j : Nat} {w w₁ : World}
    (hu : Unsettled (digestRound k shortCircuit s) j w w₁) {left : Nat} (hj : j < left)
    (done : Nat) :
    settleRounds k shortCircuit s left done w =
      settleRounds k shortCircuit s (left - j) (done + j) w₁ := by
  induction hu generalizing left done with
  | zero => rfl
  | @step n _ _ _ hw _ ih =>
    obtain ⟨left, rfl⟩ : ∃ l, left = l + 1 := ⟨left - 1, by omega⟩
    rw [settleRounds_pass hw (by omega), ih (by omega),
      show left + 1 - (n + 1) = left - n by omega, show done + (n + 1) = done + 1 + n by omega]

/-- Rounds that settle at round `j + 1`, within the rounds left, return the rounds done. -/
theorem settleRounds_of_settled {j : Nat} {w w₁ w₂ : World}
    (hu : Unsettled (digestRound k shortCircuit s) j w w₁)
    (hr : digestRound k shortCircuit s w₁ = .ok true w₂) {left : Nat} (hj : j < left)
    (done : Nat) :
    settleRounds k shortCircuit s left done w = .ok (some (done + j + 1)) w₂ := by
  obtain ⟨l, hl⟩ : ∃ l, left - j = l + 1 := ⟨left - j - 1, by omega⟩
  rw [settleRounds_of_unsettled hu hj, hl, settleRounds_succ, bind_run_ok hr]
  rfl

/-- An interrupted round, within the rounds left, interrupts the rounds. -/
theorem settleRounds_of_stopped {j : Nat} {w w₁ w₂ : World} {e : Interrupt}
    (hu : Unsettled (digestRound k shortCircuit s) j w w₁)
    (hr : digestRound k shortCircuit s w₁ = .error e w₂) {left : Nat} (hj : j < left)
    (done : Nat) :
    settleRounds k shortCircuit s left done w = .error e w₂ := by
  obtain ⟨l, hl⟩ : ∃ l, left - j = l + 1 := ⟨left - j - 1, by omega⟩
  rw [settleRounds_of_unsettled hu hj, hl, settleRounds_succ, bind_run_error hr]

/-- Rounds that all return without settling run out. -/
theorem settleRounds_of_exhausted {left : Nat} {w w' : World}
    (hu : Unsettled (digestRound k shortCircuit s) left w w') (done : Nat) :
    settleRounds k shortCircuit s left done w = .ok none w' := by
  induction hu generalizing done with
  | zero => rfl
  | @step n _ _ _ hw hrest ih =>
    cases n with
    | zero =>
      -- the only round left ends the rounds in its world
      cases hrest
      rw [settleRounds_succ, bind_run_ok hw]
      rfl
    | succ n => rw [settleRounds_pass hw n.succ_ne_zero, ih]

end Rounds

/-! ## A digest -/

/-- What a digest does before its rounds: it enters the digest phase, clears the marker of the
short circuit and runs a pending apply. -/
def digestStart (k : Knot) (s : Nat) : Run Unit := do
  beginPhase s .digest
  modifyTree s fun t => { t with lastDirty := none }
  let t ← stateOf s
  if let some h := t.applyHandle then
    cancel t.loop h
    flushApply k s

/-- What a digest does when its rounds run out: it leaves the tree idle, tells the observers it
failed with the limit, and fails with it. -/
def failDigest (s : Nat) : Run Unit := do
  clearPhase s
  let e := Fault.digestLimit (← stateOf s).ttl
  notify (.failed s e)
  Run.fail e

/-- What a digest does when its rounds settle after `rounds`: the functions queued to run after
it run, each once, and leave the queue; the tree is left idle and the observers told. -/
def settleDigest (k : Knot) (s rounds : Nat) : Run Unit := do
  let post := (← stateOf s).postQueue
  for fn in post do runPostDigest k s fn
  let rest := (← stateOf s).postQueue
  if post.length > rest.length then
    Run.panicWith ("runtime error: slice bounds out of range [" ++ Decimal.natText post.length ++
      ":" ++ Decimal.natText rest.length ++ "]")
  modifyTree s fun t => { t with postQueue := rest.drop post.length }
  clearPhase s
  notify (.completed s rounds)

/-- A digest starts, runs its rounds from the limit then read, and ends by what they return. -/
theorem runDigest_eq (k : Knot) (shortCircuit : Bool) (s : Nat) :
    runDigest k shortCircuit s = digestStart k s >>= fun _ => stateOf s >>= fun t =>
      settleRounds k shortCircuit s t.ttl.toNat 0 >>= fun r =>
        r.elim (failDigest s) (settleDigest k s) := by
  simp only [runDigest, digestStart, bind_assoc]
  refine congrArg _ (funext fun _ => congrArg _ (funext fun _ => congrArg _ (funext fun t => ?_)))
  -- the rounds follow the apply when one is pending, and the start otherwise
  rcases t.applyHandle with _ | h
  · simp only [pure_bind]
    refine congrArg _ (funext fun _ => congrArg _ (funext fun r => ?_))
    rcases r with _ | n <;> rfl
  · simp only [bind_assoc]
    refine congrArg _ (funext fun _ => congrArg _ (funext fun _ => congrArg _ (funext fun _ =>
      congrArg _ (funext fun r => ?_))))
    rcases r with _ | n <;> rfl

section Digest

variable {k : Knot} {shortCircuit : Bool} {s : Nat}

/-- The world in which a digest that settled tells its observers: the `n` functions it ran leave
the queue, and the tree is idle. -/
def postDigestWorld (w : World) (s n : Nat) : World :=
  (w.updateTree s fun t => { t with postQueue := (w.treeState s).postQueue.drop n }).updateTree s
    fun t => { t with phase := .idle }

theorem postQueue_postDigestWorld (w : World) (s n : Nat) :
    ((postDigestWorld w s n).treeState s).postQueue = (w.treeState s).postQueue.drop n := by
  unfold postDigestWorld
  rw [treeState_updateTree_of_comp (fun t => { t with phase := .idle }) Tree.postQueue fun _ => rfl,
    treeState_updateTree]
  unfold World.treeState
  cases w.trees[w.treeIndex s]? with
  | none => exact List.drop_nil.symm
  | some t => rfl

/-- A digest that starts with its tree idle and no apply pending enters the digest phase and clears
the marker. -/
theorem digestStart_idle {w : World} (hidle : Idle s w)
    (hnone : (w.treeState s).applyHandle = none) :
    digestStart k s w = .ok () ((w.updateTree s fun t => { t with phase := .digest }).updateTree s
      fun t => { t with lastDirty := none }) := by
  unfold digestStart
  rw [bind_run_ok (beginPhase_idle hidle), bind_run_ok (modifyTree_run s _ _),
    bind_run_ok (stateOf_run s _)]
  have happly := (treeState_updateTree_of_comp (fun t => { t with lastDirty := none })
    Tree.applyHandle fun _ => rfl).trans ((treeState_updateTree_of_comp
      (fun t => { t with phase := .digest }) Tree.applyHandle fun _ => rfl).trans hnone)
  rw [happly]
  rfl

/-- Once its rounds settle, a digest runs the functions queued then; if they leave at least as many
queued, it drops them and tells the observers in the world that leaves. -/
theorem settleDigest_run {rounds : Nat} {w w' : World}
    (hpost : forM (w.treeState s).postQueue (runPostDigest k s) w = .ok () w')
    (hlen : (w.treeState s).postQueue.length ≤ (w'.treeState s).postQueue.length) :
    settleDigest k s rounds w =
      notify (.completed s rounds) (postDigestWorld w' s (w.treeState s).postQueue.length) := by
  unfold settleDigest
  rw [bind_run_ok (stateOf_run s w)]
  dsimp only
  -- the functions leave at least as many queued, so the queue is cut without a panic
  rw [forIn_yield_eq_forM, bind_run_ok hpost, bind_run_ok (stateOf_run s w'),
    if_neg (Nat.not_lt.mpr hlen), bind_run_ok (modifyTree_run s _ w'), clearPhase,
    bind_run_ok (modifyTree_run s _ _)]
  rfl

/-- A digest whose rounds ran out fails with the limit of the tree, once the tree is idle and the
observers are told. -/
theorem failDigest_run (w : World) :
    failDigest s w = (notify (.failed s (.digestLimit (w.treeState s).ttl)) >>= fun _ =>
      Run.fail (.digestLimit (w.treeState s).ttl))
        (w.updateTree s fun t => { t with phase := .idle }) := by
  unfold failDigest clearPhase
  rw [bind_run_ok (modifyTree_run s _ w), bind_run_ok (stateOf_run s _),
    treeState_updateTree_of_comp (fun t => { t with phase := .idle }) Tree.ttl fun _ => rfl]

/-- The rounds of a digest run from the world its start leaves, with the limit read there. -/
theorem runDigest_start {w w₁ : World} (h : digestStart k s w = .ok () w₁) :
    runDigest k shortCircuit s w = (settleRounds k shortCircuit s (w₁.treeState s).ttl.toNat 0 >>=
      fun r => r.elim (failDigest s) (settleDigest k s)) w₁ := by
  rw [runDigest_eq, bind_run_ok h, bind_run_ok (stateOf_run s w₁)]

theorem runDigest_of_settled {w w₁ w₂ w₃ w₄ : World} {j : Nat}
    (h : digestStart k s w = .ok () w₁)
    (hj : j < (w₁.treeState s).ttl.toNat)
    (hu : Unsettled (digestRound k shortCircuit s) j w₁ w₂)
    (hr : digestRound k shortCircuit s w₂ = .ok true w₃)
    (hpost : forM (w₃.treeState s).postQueue (runPostDigest k s) w₃ = .ok () w₄)
    (hlen : (w₃.treeState s).postQueue.length ≤ (w₄.treeState s).postQueue.length) :
    runDigest k shortCircuit s w = notify (.completed s (j + 1))
      (postDigestWorld w₄ s (w₃.treeState s).postQueue.length) := by
  rw [runDigest_start h, bind_run_ok (settleRounds_of_settled hu hr hj 0), Nat.zero_add]
  exact settleDigest_run hpost hlen

theorem runDigest_of_exhausted {w w₁ w₂ : World} (h : digestStart k s w = .ok () w₁)
    (hu : Unsettled (digestRound k shortCircuit s) (w₁.treeState s).ttl.toNat w₁ w₂) :
    runDigest k shortCircuit s w =
      (notify (.failed s (.digestLimit (w₂.treeState s).ttl)) >>= fun _ =>
        Run.fail (.digestLimit (w₂.treeState s).ttl))
          (w₂.updateTree s fun t => { t with phase := .idle }) := by
  rw [runDigest_start h, bind_run_ok (settleRounds_of_exhausted hu 0)]
  exact failDigest_run w₂

theorem runDigest_of_stopped {w w₁ w₂ w₃ : World} {j : Nat} {e : Interrupt}
    (h : digestStart k s w = .ok () w₁) (hj : j < (w₁.treeState s).ttl.toNat)
    (hu : Unsettled (digestRound k shortCircuit s) j w₁ w₂)
    (hr : digestRound k shortCircuit s w₂ = .error e w₃) :
    runDigest k shortCircuit s w = .error e w₃ := by
  rw [runDigest_start h, bind_run_error (settleRounds_of_stopped hu hr hj 0)]

/-- Telling the observers keeps the tree of every scope. -/
theorem notify_treeState (n : Notice) (w : World) :
    ∃ w', notify n w = .ok () w' ∧ w'.treeState s = w.treeState s := by
  obtain ⟨w', hw', hrel⟩ := notify_ok n w
  exact ⟨w', hw', Quiet.treeState (observersOnly_quiet hrel) s⟩

/-- Telling the observers that a digest settled keeps the tree idle and the queue as the digest
left it. -/
theorem notify_postDigestWorld (n : Notice) (w : World) (m : Nat) :
    ∃ w', notify n (postDigestWorld w s m) = .ok () w' ∧ Idle s w' ∧
      (w'.treeState s).postQueue = (w.treeState s).postQueue.drop m := by
  obtain ⟨w', hw', htree⟩ := notify_treeState n (postDigestWorld w s m)
  refine ⟨w', hw', ?_, ?_⟩
  · unfold Idle
    rw [htree]
    exact idle_resetPhase _ s
  · rw [htree, postQueue_postDigestWorld]

/-- A digest that fails after telling the observers leaves the tree idle and the queue as it was. -/
theorem notify_failed (e : Fault) (w : World) :
    ∃ w', (notify (.failed s e) >>= fun _ => (Run.fail e : Run Unit))
      (w.updateTree s fun t => { t with phase := .idle }) =
      .error (.fault e) w' ∧ Idle s w' ∧
        (w'.treeState s).postQueue = (w.treeState s).postQueue := by
  obtain ⟨w', hw', htree⟩ := notify_treeState (.failed s e)
    (w.updateTree s fun t => { t with phase := .idle })
  refine ⟨w', by rw [bind_run_ok hw']; rfl, ?_, ?_⟩
  · unfold Idle
    rw [htree]
    exact idle_resetPhase _ s
  · rw [htree, treeState_updateTree_of_comp (fun t => { t with phase := .idle }) Tree.postQueue
      fun _ => rfl]

/-- A digest of a busy tree is refused at its start, and the refusal resets the phase. -/
theorem digestStart_busy {w : World} (h : (w.treeState s).phase ≠ .idle) :
    digestStart k s w = .error (.fault (.phaseConflict (w.treeState s).phase.name Phase.digest.name))
      (w.updateTree s fun t => { t with phase := .idle }) := by
  unfold digestStart
  exact bind_run_error (beginPhase_busy h)

/-- How a digest that started in `w₁` ends: its rounds settle at round `j + 1`, within the limit,
and it settles; they all run without settling and it fails with the limit; or a round is
interrupted, and so is the digest. -/
inductive DigestEnds (k : Knot) (shortCircuit : Bool) (s : Nat) (w w₁ : World) : Prop
  | settled {j : Nat} {w₂ w₃ : World} : j < (w₁.treeState s).ttl.toNat →
      Unsettled (digestRound k shortCircuit s) j w₁ w₂ →
      digestRound k shortCircuit s w₂ = .ok true w₃ →
      runDigest k shortCircuit s w = settleDigest k s (j + 1) w₃ → DigestEnds k shortCircuit s w w₁
  | exhausted {w₂ : World} :
      Unsettled (digestRound k shortCircuit s) (w₁.treeState s).ttl.toNat w₁ w₂ →
      runDigest k shortCircuit s w = failDigest s w₂ → DigestEnds k shortCircuit s w w₁
  | stopped {j : Nat} {e : Interrupt} {w₂ w₃ : World} : j < (w₁.treeState s).ttl.toNat →
      Unsettled (digestRound k shortCircuit s) j w₁ w₂ →
      digestRound k shortCircuit s w₂ = .error e w₃ →
      runDigest k shortCircuit s w = .error e w₃ → DigestEnds k shortCircuit s w w₁

/-- **A digest that starts ends within its limit**, as its rounds end. -/
theorem runDigest_ends {w w₁ : World} (h : digestStart k s w = .ok () w₁) :
    DigestEnds k shortCircuit s w w₁ := by
  cases roundsEnd (digestRound k shortCircuit s) (w₁.treeState s).ttl.toNat w₁ with
  | settled hj hu hr =>
    refine .settled hj hu hr ?_
    rw [runDigest_start h, bind_run_ok (settleRounds_of_settled hu hr hj 0), Nat.zero_add]
    rfl
  | exhausted hu =>
    refine .exhausted hu ?_
    rw [runDigest_start h, bind_run_ok (settleRounds_of_exhausted hu 0)]
    rfl
  | stopped hj hu hr => exact .stopped hj hu hr (runDigest_of_stopped h hj hu hr)

end Digest

/-! ## The round limit -/

/-- What the round limit guarantees, for every program the callables run. Every root starts a
tree with a positive limit, whatever limit was asked for, directly or through a provider, and
scope calls keep every limit positive. A digest whose start returns runs rounds up to the limit
read then, and ends at the first round that settles, at the first interrupted, or after the last.
One that settles runs the functions queued after it and tells the observers its rounds; one that
runs out tells them once that it failed with the limit and fails with it. Both leave the tree
idle. A digest starts on an idle tree and is refused on a busy one. -/
structure RoundLimit (k : Knot) : Prop where
  root : ∀ translator ttl loop observers (w : World), ∃ w',
    newRoot translator ttl loop observers w = .ok w.scopes.size w' ∧
      (w'.treeState w.scopes.size).ttl = (if ttl ≤ 0 then 10 else ttl) ∧
      0 < (w'.treeState w.scopes.size).ttl
  provider : ∀ provider args (w : World), ∃ id w',
    buildRoot provider args w = .ok (.scope id) w' ∧ 0 < (w'.treeState id).ttl
  calls : ∀ (w : World) bs, LimitsPositive w → LimitsPositive (Build.after w bs)
  starts : ∀ s (w : World), (w.treeState s).applyHandle = none →
    (Idle s w → digestStart k s w =
      .ok () ((w.updateTree s fun t => { t with phase := .digest }).updateTree s
        fun t => { t with lastDirty := none })) ∧
    ((w.treeState s).phase ≠ .idle → digestStart k s w =
      .error (.fault (.phaseConflict (w.treeState s).phase.name Phase.digest.name))
        (w.updateTree s fun t => { t with phase := .idle }))
  rounds_end : ∀ shortCircuit s (w w₁ : World), digestStart k s w = .ok () w₁ →
    DigestEnds k shortCircuit s w w₁
  settled : ∀ shortCircuit s j (w w₁ w₂ w₃ w₄ : World),
    digestStart k s w = .ok () w₁ →
    j < (w₁.treeState s).ttl.toNat → Unsettled (digestRound k shortCircuit s) j w₁ w₂ →
    digestRound k shortCircuit s w₂ = .ok true w₃ →
    forM (w₃.treeState s).postQueue (runPostDigest k s) w₃ = .ok () w₄ →
    (w₃.treeState s).postQueue.length ≤ (w₄.treeState s).postQueue.length →
    runDigest k shortCircuit s w =
        notify (.completed s (j + 1))
          (postDigestWorld w₄ s (w₃.treeState s).postQueue.length) ∧
      ∃ w₅, runDigest k shortCircuit s w = .ok () w₅ ∧ Idle s w₅ ∧
        (w₅.treeState s).postQueue =
          (w₄.treeState s).postQueue.drop (w₃.treeState s).postQueue.length
  exhausted : ∀ shortCircuit s (w w₁ w₂ : World), digestStart k s w = .ok () w₁ →
    Unsettled (digestRound k shortCircuit s) (w₁.treeState s).ttl.toNat w₁ w₂ →
    runDigest k shortCircuit s w =
        (notify (.failed s (.digestLimit (w₂.treeState s).ttl)) >>= fun _ =>
          Run.fail (.digestLimit (w₂.treeState s).ttl))
            (w₂.updateTree s fun t => { t with phase := .idle }) ∧
      ∃ w₃, runDigest k shortCircuit s w =
          .error (.fault (.digestLimit (w₂.treeState s).ttl)) w₃ ∧
        Idle s w₃ ∧ (w₃.treeState s).postQueue = (w₂.treeState s).postQueue
  stopped : ∀ shortCircuit s j e (w w₁ w₂ w₃ : World), digestStart k s w = .ok () w₁ →
    j < (w₁.treeState s).ttl.toNat → Unsettled (digestRound k shortCircuit s) j w₁ w₂ →
    digestRound k shortCircuit s w₂ = .error e w₃ →
    runDigest k shortCircuit s w = .error e w₃

theorem digest_within_round_limit (k : Knot) : RoundLimit k where
  root translator ttl loop observers w := by
    have hlimit := congrArg Tree.ttl (Build.treeState_root translator ttl loop observers w)
    exact ⟨_, newRoot_run translator ttl loop observers w, hlimit, hlimit ▸ rootLimit_pos ttl⟩
  provider provider args w := by
    obtain ⟨id, w', hrun, hlimit⟩ := buildRoot_limit provider args w
    exact ⟨id, w', hrun, hlimit ▸ rootLimit_pos _⟩
  calls _ bs h := Build.limitsPositive_after bs h
  starts _ _ hnone := ⟨fun hidle => digestStart_idle hidle hnone, digestStart_busy⟩
  rounds_end _ _ _ _ h := runDigest_ends h
  settled _ s _ _ _ _ _ w₄ h hj hu hr hpost hlen := by
    have hrun := runDigest_of_settled h hj hu hr hpost hlen
    obtain ⟨w₅, hw₅, hidle, hqueue⟩ := notify_postDigestWorld (.completed s _) w₄ _
    exact ⟨hrun, w₅, hrun.trans hw₅, hidle, hqueue⟩
  exhausted _ s _ _ w₂ h hu := by
    have hrun := runDigest_of_exhausted h hu
    obtain ⟨w₃, hw₃, hidle, hqueue⟩ :=
      notify_failed (.digestLimit (w₂.treeState s).ttl) w₂
    exact ⟨hrun, w₃, hrun.trans hw₃, hidle, hqueue⟩
  stopped _ _ _ _ _ _ _ _ h hj hu hr := runDigest_of_stopped h hj hu hr

/-- A tree with the default limit, idle and with no apply pending; scope 0 belongs to it. -/
def idleTreeWorld : World := { trees := #[{ ttl := 10, loop := 0, observers := [] }] }

/-- The digest of an idle tree starts, and ends within its limit. -/
theorem idle_tree_digest_ends :
    Idle 0 idleTreeWorld ∧ (idleTreeWorld.treeState 0).applyHandle = none ∧
      ∃ w₁, digestStart machine 0 idleTreeWorld = .ok () w₁ ∧
        DigestEnds machine true 0 idleTreeWorld w₁ :=
  have hidle : Idle 0 idleTreeWorld := rfl
  have hnone : (idleTreeWorld.treeState 0).applyHandle = none := rfl
  have hstart := ((digest_within_round_limit machine).starts 0 idleTreeWorld hnone).1 hidle
  ⟨hidle, hnone, _, hstart, (digest_within_round_limit machine).rounds_end true 0 _ _ hstart⟩

end Bindery.Scope
