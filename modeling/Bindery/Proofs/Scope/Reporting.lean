import Bindery.Scope.Digest
import Bindery.Proofs.Run.Avoids

/-!
# Failures inside a digest are reported

A digest runs code it does not control: watch functions, listeners, queued expressions and
post-digest functions. A failure of such code is caught where it happens and reported to the
tree's observers, and the digest goes on. Here that is a fact of the model: the rounds of a
digest and the steps around them never stop with a failure, whatever the code they run does.
Panics and running out of depth still pass through.

Reading and writing the store never stops at all, and telling the observers changes only what
observers keep (the log, events, counters and labels): scopes and trees are as they were.

Copying a value and a round are each proved once for any property their steps have
(`CopySteps`, `RoundSteps`); avoiding failures is one instance.

Main statements: `settleRounds_handled`, `keeps_notify`.
-/

namespace Bindery

/-- The tables and boxes of a world, which values refer to. -/
def World.shared (w : World) : Array (List (String × Value)) × Array Box :=
  (w.tables, w.boxes)

end Bindery

namespace Bindery.Scope

open Run

section Store

variable {bad : Interrupt → Prop}

/-- Reading the world changes nothing and never stops. -/
theorem read_reads (f : World → β) : Reads (do pure (f (← get)) : Run β) :=
  .bind .get' fun _ => .pure' _

theorem read_avoids (f : World → β) : Avoids bad (do pure (f (← get)) : Run β) :=
  (read_reads f).avoids

theorem nodeAt_avoids (id : Nat) : Avoids bad (nodeAt id) := read_avoids _

theorem stateOf_avoids (id : Nat) : Avoids bad (stateOf id) :=
  .bind (.bind (nodeAt_avoids id) fun _ => .bind .get' fun _ => .pure' _) fun _ => .pure' _

theorem modifyTree_avoids (id : Nat) (f : Tree → Tree) : Avoids bad (modifyTree id f) :=
  .bind (nodeAt_avoids id) fun _ => .modify' _

end Store

/-! ## What observers leave alone -/

/-- Only what observers keep changes: scopes, trees, watchers, tables and boxes are left as they
were. -/
def ObserversOnly : Guarantee where
  rel w w' := w'.scopes = w.scopes ∧ w'.trees = w.trees ∧ w'.watchers = w.watchers ∧
    w'.shared = w.shared
  refl _ := ⟨rfl, rfl, rfl, rfl⟩
  trans h1 h2 := ⟨h2.1.trans h1.1, h2.2.1.trans h1.2.1, h2.2.2.1.trans h1.2.2.1,
    h2.2.2.2.trans h1.2.2.2⟩

theorem keeps_read (f : World → β) : Keeps ObserversOnly (do pure (f (← get)) : Run β) :=
  .bind .get' fun _ => .pure' _

theorem keeps_scopeLabel (id : Nat) : Keeps ObserversOnly (scopeLabel id) := by
  intro w
  unfold scopeLabel
  dsimp only [bind, EStateM.bind, get, getThe, MonadStateOf.get, EStateM.get]
  -- a label is either found or appended: the scopes and trees stay either way
  generalize List.find? _ w.scopeLabels = found
  cases found <;> exact ⟨rfl, rfl, rfl, rfl⟩

/-! ## Telling the observers -/

/-- What telling the observers is built from, each with a property of runs that running one run
after another keeps: reading the world, labelling a scope, and changing only what observers
keep. Telling the observers then has the property too. -/
structure ObserverSteps (Q : {α : Type} → Run α → Prop) : Prop extends Closed Q where
  read : Q (get : Run World)
  label : ∀ id, Q (scopeLabel id)
  update : ∀ f : World → World, (∀ w, ObserversOnly.rel w (f w)) → Q (modify f)

namespace ObserverSteps

variable {Q : {α : Type} → Run α → Prop}

theorem view (hQ : ObserverSteps Q) (f : World → β) : Q (do pure (f (← get)) : Run β) :=
  hQ.bind hQ.read fun _ => hQ.pure' _

theorem hooks (hQ : ObserverSteps Q) (hooks : List Activity.Hook) (e : Activity.Event) :
    Q (notifyHooks hooks e) := by
  unfold notifyHooks
  dsimp only
  refine hQ.ite' (hQ.pure' _) (hQ.bind (hQ.forIn' fun h _ r => ?_) fun _ => hQ.pure' _)
  -- a hook captures the event, logs it, prints it, or does nothing
  cases h with
  | capture fail =>
    exact hQ.bind (hQ.update _ fun _ => ⟨rfl, rfl, rfl, rfl⟩) fun _ => by
      split <;> exact hQ.pure' _
  | empty => exact hQ.pure' _
  | logVerb => exact hQ.bind (hQ.update _ fun _ => ⟨rfl, rfl, rfl, rfl⟩) fun _ => hQ.pure' _
  | debugLine => exact hQ.bind (hQ.update _ fun _ => ⟨rfl, rfl, rfl, rfl⟩) fun _ => hQ.pure' _

theorem record (hQ : ObserverSteps Q) (n : Notice) (node : Node) : Q (n.record node) := by
  unfold Notice.record
  refine hQ.bind (hQ.label _) fun label => ?_
  dsimp only
  split <;> first
    | exact hQ.pure' _
    | split
      · exact hQ.bind (hQ.label _) fun _ => hQ.pure' _
      · exact hQ.pure' _

theorem tell (hQ : ObserverSteps Q) (o : Observer) (n : Notice) : Q (o.tell n) := by
  refine hQ.bind (hQ.view _) fun node => ?_
  cases o with
  | recorder =>
    exact hQ.bind (hQ.record n node) fun _ => hQ.update _ fun _ => ⟨rfl, rfl, rfl, rfl⟩
  | quiet => exact hQ.pure' _
  | activity em =>
    refine hQ.bind ?_ fun _ => hQ.pure' _
    unfold emitEvent
    exact hQ.ite' (hQ.pure' _) (hQ.hooks _ _)
  | metrics => exact hQ.update _ fun _ => ⟨rfl, rfl, rfl, rfl⟩

theorem notify (hQ : ObserverSteps Q) (n : Notice) : Q (notify n) :=
  hQ.bind (hQ.bind (hQ.bind (hQ.view _) fun _ => hQ.view _) fun _ => hQ.pure' _) fun _ =>
    hQ.bind (hQ.forIn' fun o _ _ => hQ.bind (hQ.tell o n) fun _ => hQ.pure' _) fun _ => hQ.pure' _

/-- Keeping to a guarantee that allows what observers change. -/
theorem keeps {g : Guarantee} (hg : ∀ w w', ObserversOnly.rel w w' → g.rel w w') :
    ObserverSteps (Keeps g) :=
  { Keeps.closed with
    read := .get'
    label := fun id => (keeps_scopeLabel id).weaken hg
    update := fun _ hf => .modify' fun w => hg _ _ (hf w) }

end ObserverSteps

/-- Telling the observers changes only what observers keep. -/
theorem keeps_notify (n : Notice) : Keeps ObserversOnly (notify n) :=
  (ObserverSteps.keeps fun _ _ h => h).notify n

/-! ## Observers -/

section Observers

variable {bad : Interrupt → Prop}

theorem scopeLabel_avoids (id : Nat) : Avoids bad (scopeLabel id) := by
  refine .bind .get' fun w => ?_
  split
  · exact .pure' _
  · exact .bind (.set' _) fun _ => .pure' _

theorem avoids_observers : ObserverSteps (Avoids bad) :=
  { Avoids.closed with
    read := .get'
    label := scopeLabel_avoids
    update := fun f _ => .modify' f }

theorem notify_avoids (n : Notice) : Avoids bad (notify n) := avoids_observers.notify n

theorem reportWatchError_avoids (target : Nat) (e : Fault) : Avoids bad (reportWatchError target e) :=
  notify_avoids _

end Observers

/-! ## Comparing and copying values -/

/-- The steps a deep copy is built from, each with a property of runs that running one run after
another keeps: reading the world, making a list, and making and filling a table or a box. Copying
then has the property too. -/
structure CopySteps (Q : {α : Type} → Run α → Prop) : Prop extends Closed Q where
  read : Q (get : Run World)
  list : ∀ items, Q (Run.newList items)
  table : ∀ entries, Q (Run.newTable entries)
  fillTable : ∀ n entries, Q (Run.setTable n entries)
  box : ∀ b, Q (Run.newBox b)
  fillBox : ∀ n b, Q (Run.setBox n b)

namespace CopySteps

variable {Q : {α : Type} → Run α → Prop} {ref : Copies → Value → Run (Value × Copies)}

/-- Copying a value as it is held has the property when copying each table and box has it. -/
theorem held (hQ : CopySteps Q) (href : ∀ seen v, Q (ref seen v)) (seen : Copies) (v : Value) :
    Q (copyHeld ref seen v) := by
  induction seen, v using copyHeld.induct (motive_2 := fun seen xs => Q (copyItems ref seen xs)) with
  | case1 seen i xs c hc =>
    rw [copyHeld, hc]
    exact hQ.pure' _
  | case2 seen i xs _ ih =>
    rw [copyHeld]
    split
    · exact hQ.pure' _
    · exact hQ.bind ih fun _ => hQ.bind (hQ.list _) fun _ => hQ.pure' _
  | case3 seen i => exact href _ _
  | case4 seen i => exact href _ _
  | case5 seen v hlist htable hbox =>
    -- any other value is kept as it is
    rw [copyHeld.eq_def]
    split
    · exact absurd rfl (hlist _ _)
    · exact absurd rfl (htable _)
    · exact absurd rfl (hbox _)
    · exact hQ.pure' _
  | case6 seen => exact hQ.pure' _
  | case7 seen x xs ihx ihxs => exact hQ.bind ihx fun c => hQ.bind (ihxs c) fun _ => hQ.pure' _

theorem items (hQ : CopySteps Q) (href : ∀ seen v, Q (ref seen v)) :
    ∀ seen xs, Q (copyItems ref seen xs)
  | _, [] => hQ.pure' _
  | seen, x :: xs => hQ.bind (hQ.held href seen x) fun c => hQ.bind (hQ.items href c.2 xs) fun _ =>
      hQ.pure' _

theorem entries (hQ : CopySteps Q) (href : ∀ seen v, Q (ref seen v)) :
    ∀ seen es, Q (copyEntries ref seen es)
  | _, [] => hQ.pure' _
  | seen, e :: es => hQ.bind (hQ.held href seen e.2) fun c =>
      hQ.bind (hQ.entries href c.2 es) fun _ => hQ.pure' _

/-- Copying a table or a box: a copy met before is returned; otherwise the new table or box is
made, the contents copied one level further down, and the new one filled. -/
theorem copyRef (hQ : CopySteps Q) : ∀ fuel seen v, Q (Scope.copyRef fuel seen v)
  | 0, seen, v => by
    rw [Scope.copyRef.eq_3 _ _ _ (by simp) (by simp)]
    exact hQ.pure' _
  | fuel + 1, seen, v => by
    have ih : ∀ seen v, Q (Scope.copyRef fuel seen v) := CopySteps.copyRef hQ fuel
    have view : ∀ {β : Type} (f : World → β), Q (do pure (f (← get)) : Run β) :=
      fun _ => hQ.bind hQ.read fun _ => hQ.pure' _
    by_cases htable : ∃ i, v = .table i
    · obtain ⟨i, rfl⟩ := htable
      rw [Scope.copyRef.eq_1]
      split
      · exact hQ.pure' _
      · exact hQ.bind (view _) fun _ => hQ.bind (hQ.table _) fun _ => hQ.bind (view _) fun _ =>
          hQ.bind (hQ.entries ih _ _) fun _ => hQ.bind (hQ.fillTable _ _) fun _ => hQ.pure' _
    by_cases hbox : ∃ i, v = .box i
    · obtain ⟨i, rfl⟩ := hbox
      rw [Scope.copyRef.eq_2]
      split
      · exact hQ.pure' _
      · exact hQ.bind (view _) fun _ => hQ.bind (hQ.box _) fun _ =>
          hQ.bind (hQ.items ih _ _) fun _ => hQ.bind (hQ.fillBox _ _) fun _ => hQ.pure' _
    rw [Scope.copyRef.eq_3 _ _ _ (fun _ i _ h => htable ⟨i, h⟩) (fun _ i _ h => hbox ⟨i, h⟩)]
    exact hQ.pure' _

theorem clone (hQ : CopySteps Q) (v : Value) : Q (cloneValue v) :=
  hQ.bind hQ.read fun _ => hQ.bind (hQ.held (hQ.copyRef _) _ _) fun _ => hQ.pure' _

end CopySteps

/-- Keeping to a guarantee that allows making lists, and making and filling tables and boxes. -/
theorem keeps_copy {g : Guarantee} (hlist : ∀ items, Keeps g (Run.newList items))
    (htable : ∀ entries, Keeps g (Run.newTable entries))
    (hfillTable : ∀ n entries, Keeps g (Run.setTable n entries))
    (hbox : ∀ b, Keeps g (Run.newBox b)) (hfillBox : ∀ n b, Keeps g (Run.setBox n b)) :
    CopySteps (Keeps g) :=
  { Keeps.closed with
    read := .get', list := hlist, table := htable, fillTable := hfillTable, box := hbox,
    fillBox := hfillBox }

section Values

variable {bad : Interrupt → Prop}

theorem tableEntries_readsOnly (id : Nat) : ReadsOnly World.shared (Run.tableEntries id) :=
  ReadsOnly.read fun (v : Array (List (String × Value)) × Array Box) => v.1[id]?.getD []

theorem box_readsOnly (id : Nat) : ReadsOnly World.shared (Run.box id) :=
  ReadsOnly.read fun (v : Array (List (String × Value)) × Array Box) => v.2[id]?.getD {}

theorem avoids_copy : CopySteps (Avoids bad) :=
  { Avoids.closed with
    read := .get'
    list := fun _ => .bind (.modifyGet' _) fun _ => .pure' _
    table := fun _ => .modifyGet' _
    fillTable := fun _ _ => .modify' _
    box := fun _ => .modifyGet' _
    fillBox := fun _ _ => .modify' _ }

theorem cloneValue_avoids (v : Value) : Avoids bad (cloneValue v) := avoids_copy.clone v

/-- Whether a watcher sees a change is read off the tables and boxes. -/
theorem Watcher.changed_readsOnly (w : Watcher) (v : Value) : ReadsOnly World.shared (w.changed v) := by
  unfold Watcher.changed
  split
  · exact .pure' _
  · exact .ite' (ReadsOnly.read fun (sh : Array (List (String × Value)) × Array Box) =>
      !equalHeld (equalRef sh.1 sh.2 (sh.1.size * sh.1.size + sh.2.size * sh.2.size + 1) []) v _)
      (.pure' _)

theorem Watcher.changed_reads (w : Watcher) (v : Value) : Reads (w.changed v) :=
  (w.changed_readsOnly v).reads

theorem Watcher.changed_avoids (w : Watcher) (v : Value) : Avoids bad (w.changed v) :=
  (w.changed_reads v).avoids

end Values

/-! ## The steps of a round -/

/-- The steps a round is built from, each with a property of runs that running one run after
another keeps: reading the world, comparing and copying values, running a watch function with its
failure caught, telling a listener, telling the observers of a failure, moving a tree's marker and
recording a value. The turns of watchers and scopes, and rounds, then have the property. -/
structure RoundSteps (Q : {α : Type} → Run α → Prop) (k : Knot) : Prop extends Closed Q where
  read : Q (get : Run World)
  changed : ∀ (wr : Watcher) v, Q (wr.changed v)
  copy : ∀ v, Q (cloneValue v)
  watch : ∀ c cal, Q (Run.attempt (evalCallable k c cal .nil))
  listen : ∀ wr v c, Q (tellListener k wr v c)
  report : ∀ c e, Q (reportWatchError c e)
  mark : ∀ c wid, Q (modifyTree c fun t => { t with lastDirty := some wid })
  record : ∀ wid kept, Q (modifyWatcher wid fun w => { w with last := some kept })

namespace RoundSteps

variable {Q : {α : Type} → Run α → Prop} {k : Knot}

theorem view (hQ : RoundSteps Q k) (f : World → β) : Q (do pure (f (← get)) : Run β) :=
  hQ.bind hQ.read fun _ => hQ.pure' _

/-- The turn of a watcher: skipped when removed; a failing watch function is reported; a change
is told and recorded; otherwise the short circuit may end the round at it. -/
theorem watcherTurn (hQ : RoundSteps Q k) (sc : Bool) (c wid : Nat) :
    Q (visitWatcher k sc c wid) := by
  unfold visitWatcher
  refine hQ.bind (hQ.view _) fun _ => hQ.ite' (hQ.pure' _) ?_
  refine hQ.bind (hQ.view _) fun _ => hQ.bind (hQ.watch _ _) fun r => ?_
  split
  · exact hQ.bind (hQ.report _ _) fun _ => hQ.pure' _
  · refine hQ.bind (hQ.view _) fun wr => hQ.bind (hQ.changed wr _) fun _ => hQ.ite' ?_ ?_
    · refine hQ.bind (hQ.mark _ _) fun _ => hQ.bind (hQ.listen _ _ _) fun _ => ?_
      -- the watcher records the value once its listener was told, copied when it compares by value
      extract_lets record told
      have hrecord : ∀ kept, Q (record kept) := fun _ => hQ.bind (hQ.record _ _) fun _ => hQ.pure' _
      have htold : ∀ u, Q (told u) := fun _ =>
        hQ.ite' (hQ.bind (hQ.copy _) hrecord) (hQ.bind (hQ.pure' _) hrecord)
      split
      · exact hQ.bind (hQ.report _ _) htold
      · exact htold ()
    · extract_lets skip
      have hstate : Q (stateOf c) :=
        hQ.bind (hQ.bind (hQ.view _) fun _ => hQ.view _) fun _ => hQ.pure' _
      exact hQ.ite' (hQ.bind hstate fun _ => hQ.ite' (hQ.pure' _) (hQ.pure' _)) (hQ.pure' _)

/-- The turn of a scope: its watchers' turns in order, until one ends the round. -/
theorem scopeTurn (hQ : RoundSteps Q k) (sc : Bool) (c : Nat) : Q (visitScope k sc c) := by
  unfold visitScope
  refine hQ.bind (hQ.view _) fun _ => hQ.bind (hQ.forIn' fun wid _ _ => ?_) fun _ => ?_
  · exact hQ.bind (hQ.watcherTurn _ _ _) fun _ => hQ.ite' (hQ.pure' _) (hQ.pure' _)
  · dsimp only
    split <;> exact hQ.pure' _

/-- A round over a scope and the scopes below it, depth first. -/
theorem subtreeRound (hQ : RoundSteps Q k) (sc : Bool) : ∀ (fuel s : Nat), Q (everyScope k sc fuel s)
  | 0, _ => hQ.pure' _
  | fuel + 1, s => by
    have ih : ∀ c, Q (everyScope k sc fuel c) := subtreeRound hQ sc fuel
    unfold everyScope
    refine hQ.bind (hQ.scopeTurn _ _) fun r => ?_
    obtain ⟨go, d⟩ := r
    refine hQ.ite' (hQ.pure' _) ?_
    dsimp only
    refine hQ.bind (hQ.view _) fun _ => hQ.bind (hQ.forIn' fun c _ _ => ?_) fun _ => ?_
    · exact hQ.bind (ih c) fun _ => hQ.ite' (hQ.pure' _) (hQ.pure' _)
    · split <;> exact hQ.pure' _

end RoundSteps

/-! ## Failures inside a digest -/

theorem tellListener_handled (k : Knot) (w : Watcher) (v : Value) (s : Nat) :
    Avoids IsFault (tellListener k w v s) := by
  unfold tellListener
  refine .ite' (.pure' _) (.recoverPanic (.bind (.attempt _) fun r => ?_) fun _ => .pure' _)
  split <;> exact .pure' _

/-- A failing watch function or listener is reported, and the round goes on. -/
theorem avoids_round (k : Knot) : RoundSteps (Avoids IsFault) k :=
  { Avoids.closed with
    read := .get'
    changed := fun wr v => wr.changed_avoids v
    copy := cloneValue_avoids
    watch := fun _ _ => .attempt _
    listen := tellListener_handled k
    report := reportWatchError_avoids
    mark := fun c _ => modifyTree_avoids c _
    record := fun _ _ => .modify' _ }

theorem consume_handled (k : Knot) (s : Nat) (q : Queue) : Avoids IsFault (consume k s q) := by
  unfold consume
  refine .bind (stateOf_avoids _) fun _ => .bind (.forIn_range fun i _ => ?_) fun _ => ?_
  · refine .bind (stateOf_avoids _) fun _ => ?_
    dsimp only
    split
    · exact .bind (.panicWith' _ id) fun _ => .pure' _
    · refine .bind (.attempt _) fun r => ?_
      split
      · exact .bind (reportWatchError_avoids _ _) fun _ => .pure' _
      · exact .pure' _
  · refine .bind (stateOf_avoids _) fun _ => ?_
    extract_lets items drop
    have hdrop : ∀ u, Avoids IsFault (drop u) := fun _ => modifyTree_avoids _ _
    exact .ite' (.bind (.panicWith' _ id) hdrop) (hdrop ())

theorem digestOnce_handled (k : Knot) (shortCircuit : Bool) (s : Nat) :
    Avoids IsFault (digestOnce k shortCircuit s) :=
  .bind .get' fun _ => .bind ((avoids_round k).subtreeRound _ _ _) fun _ => .pure' _

/-- **The rounds of a digest never fail**: whatever its watch functions, listeners and queued
expressions do, a failure of theirs is reported and the rounds go on. -/
theorem settleRounds_handled (k : Knot) (shortCircuit : Bool) (s left done : Nat) :
    Avoids IsFault (settleRounds k shortCircuit s left done) := by
  induction left generalizing done with
  | zero => exact .pure' _
  | succ left ih =>
    unfold settleRounds
    exact .bind (consume_handled _ _ _) fun _ => .bind (digestOnce_handled _ _ _) fun _ =>
      .bind (stateOf_avoids _) fun _ => .ite' (.pure' _) (.ite' (.pure' _) (ih _))

theorem flushApply_handled (k : Knot) (s : Nat) : Avoids IsFault (flushApply k s) :=
  .bind (consume_handled _ _ _) fun _ => modifyTree_avoids _ _

theorem runPostDigest_handled (k : Knot) (s : Nat) (fn : Value) :
    Avoids IsFault (runPostDigest k s fn) :=
  .recoverPanic (.bind (.attempt _) fun _ => .pure' _) fun _ => reportWatchError_avoids _ _

end Bindery.Scope
