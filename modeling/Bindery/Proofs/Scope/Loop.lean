import Bindery.Proofs.Scope.Deferral

/-!
# A loop runs its tasks first in, first out, each once

A loop holds tasks under handles. Scheduling queues a task last under the next handle, cancelling
removes the task of a handle wherever it stands in the queue, and a flush takes the tasks off the
front one by one and runs them, those queued meanwhile included, until none is left.

What happens to the queue of a loop is a list of events, and `History` says which lists can
happen: each scheduled task takes a fresh handle, larger than those before it, and the task that
runs is the one at the front. Over every history the queue is exactly the tasks it started with
and those it scheduled, in that order, that nothing has become of yet (`History.agenda`); the
tasks it ran are those, in the same order, whose first fate was to run and not to be cancelled
(`History.runs`). Handles increase in that order, so the tasks run in the order they were
scheduled, and none runs twice.

Scheduling and cancelling make histories of a loop, and so does a flush whose tasks do. A flush
that returns has run the tasks of its trace `Drains`, counted them and emptied the queue.

Main statements: `History.agenda`, `History.runs`, `drain_ok_iff`, `Drains.history` and
`loop_laws`.
-/

namespace Bindery

/-- The world with the queue of a loop replaced. -/
def World.withTasks (w : World) (l : Nat) (q : List (Nat × Scope.Task)) : World :=
  { w with loops := w.loops.modify l fun lp => { lp with queue := q } }

end Bindery

namespace Bindery.Scope

open Run

/-! ## Histories of a loop -/

/-- What happens to the queue of a loop. -/
inductive LoopEvent where
  /-- A task is queued last under a handle. -/
  | scheduled (h : Nat) (t : Task)
  /-- The task of a handle is removed, if it is queued. -/
  | cancelled (h : Nat)
  /-- The task at the front is taken off and run. -/
  | ran (h : Nat) (t : Task)

namespace LoopEvent

/-- The tasks a history schedules, in order. -/
def scheduledOf : List LoopEvent → List (Nat × Task)
  | [] => []
  | .scheduled h t :: L => (h, t) :: scheduledOf L
  | .cancelled _ :: L => scheduledOf L
  | .ran _ _ :: L => scheduledOf L

/-- The tasks a history runs, in order. -/
def runsOf : List LoopEvent → List (Nat × Task)
  | [] => []
  | .scheduled _ _ :: L => runsOf L
  | .cancelled _ :: L => runsOf L
  | .ran h t :: L => (h, t) :: runsOf L

/-- What first becomes of the task of a handle over a history: it runs (`some true`), it is
cancelled (`some false`), or nothing does (`none`). -/
def fate (h : Nat) : List LoopEvent → Option Bool
  | [] => none
  | .scheduled _ _ :: L => fate h L
  | .cancelled h' :: L => if h' = h then some false else fate h L
  | .ran h' _ :: L => if h' = h then some true else fate h L

/-- The tasks a history schedules whose fate, over the events after their scheduling, is `o`. -/
def scheduledWithFate (o : Option Bool) : List LoopEvent → List (Nat × Task)
  | [] => []
  | .scheduled h t :: L =>
    (if fate h L = o then [(h, t)] else []) ++ scheduledWithFate o L
  | .cancelled _ :: L => scheduledWithFate o L
  | .ran _ _ :: L => scheduledWithFate o L

@[simp] theorem runsOf_append (L₁ L₂ : List LoopEvent) :
    runsOf (L₁ ++ L₂) = runsOf L₁ ++ runsOf L₂ := by
  induction L₁ with
  | nil => rfl
  | cons e L₁ ih => cases e <;> simp [runsOf, ih]

end LoopEvent

open LoopEvent

/-- The tasks whose fate over a history is `o`: first those of the queue it started from, then
those it scheduled, the fate of each read from the events after it. -/
def withFate (o : Option Bool) (q : List (Nat × Task)) (L : List LoopEvent) : List (Nat × Task) :=
  q.filter (fun e => fate e.1 L == o) ++ scheduledWithFate o L

/-- `History c q L c' q'`: from the queue `q`, with `c` the next handle, the events `L` can
happen and leave the queue `q'`, with no handle from `c'` on issued: a scheduled task takes a
handle from the next on, and the task that runs is the one at the front. -/
inductive History : Nat → List (Nat × Task) → List LoopEvent → Nat → List (Nat × Task) → Prop
  | nil {c c' q} : c ≤ c' → History c q [] c' q
  | scheduled {c c' h t q L q'} : c ≤ h → History (h + 1) (q ++ [(h, t)]) L c' q' →
      History c q (.scheduled h t :: L) c' q'
  | cancelled {c c' h q L q'} : History c (q.filter (·.1 != h)) L c' q' →
      History c q (.cancelled h :: L) c' q'
  | ran {c c' h t q L q'} : History c q L c' q' → History c ((h, t) :: q) (.ran h t :: L) c' q'

/-- The handles of a queue increase from front to back, and all were issued before `c`. -/
structure Ordered (q : List (Nat × Task)) (c : Nat) : Prop where
  increasing : (q.map (·.1)).Pairwise (· < ·)
  issued : ∀ e ∈ q, e.1 < c

namespace Ordered

variable {q : List (Nat × Task)} {c : Nat}

theorem nil : Ordered [] c := ⟨List.Pairwise.nil, fun _ h => nomatch h⟩

theorem mono (hq : Ordered q c) {c' : Nat} (hc : c ≤ c') : Ordered q c' :=
  ⟨hq.increasing, fun e he => Nat.lt_of_lt_of_le (hq.issued e he) hc⟩

theorem append_fresh (hq : Ordered q c) {h : Nat} (hh : c ≤ h) (t : Task) :
    Ordered (q ++ [(h, t)]) (h + 1) := by
  refine ⟨?_, ?_⟩
  · rw [List.map_append, List.pairwise_append]
    refine ⟨hq.increasing, List.pairwise_singleton _ _, ?_⟩
    intro a ha b hb
    obtain ⟨e, he, rfl⟩ := List.mem_map.mp ha
    simp only [List.map_cons, List.map_nil, List.mem_singleton] at hb
    rw [hb]
    exact Nat.lt_of_lt_of_le (hq.issued e he) hh
  · intro e he
    rcases List.mem_append.mp he with he | he
    · exact Nat.lt_of_lt_of_le (hq.issued e he) (Nat.le_succ_of_le hh)
    · rw [List.mem_singleton.mp he]
      exact Nat.lt_succ_self h

theorem filter (hq : Ordered q c) (p : Nat × Task → Bool) : Ordered (q.filter p) c :=
  ⟨(hq.increasing.sublist (List.filter_sublist.map _)), fun e he =>
    hq.issued e (List.mem_of_mem_filter he)⟩

theorem tail {h : Nat} {t : Task} (hq : Ordered ((h, t) :: q) c) : Ordered q c :=
  ⟨(List.pairwise_cons.mp hq.increasing).2, fun e he => hq.issued e (List.mem_cons_of_mem _ he)⟩

/-- The handle at the front is none of the handles behind it. -/
theorem head_fresh {h : Nat} {t : Task} (hq : Ordered ((h, t) :: q) c) : ∀ e ∈ q, e.1 ≠ h := by
  intro e he
  have hlt := (List.pairwise_cons.mp hq.increasing).1 e.1 (List.mem_map.mpr ⟨e, he, rfl⟩)
  exact Nat.ne_of_gt hlt

end Ordered

namespace History

variable {c c' : Nat} {q q' : List (Nat × Task)} {L : List LoopEvent}

theorem le (H : History c q L c' q') : c ≤ c' := by
  induction H with
  | nil hc => exact hc
  | scheduled hh _ ih => omega
  | cancelled _ ih => exact ih
  | ran _ ih => exact ih

/-- A history from a later next handle is one from an earlier. -/
theorem lower (H : History c q L c' q') {c₀ : Nat} (hc : c₀ ≤ c) : History c₀ q L c' q' := by
  induction H generalizing c₀ with
  | nil h => exact .nil (Nat.le_trans hc h)
  | scheduled hh H _ => exact .scheduled (Nat.le_trans hc hh) H
  | cancelled _ ih => exact .cancelled (ih hc)
  | ran _ ih => exact .ran (ih hc)

/-- One history after another is a history. -/
theorem append {L₂ : List LoopEvent} {c₂ : Nat} {q₂ : List (Nat × Task)}
    (H₁ : History c q L c' q') (H₂ : History c' q' L₂ c₂ q₂) : History c q (L ++ L₂) c₂ q₂ := by
  induction H₁ with
  | nil hc => exact H₂.lower hc
  | scheduled hh _ ih => exact .scheduled hh (ih H₂)
  | cancelled _ ih => exact .cancelled (ih H₂)
  | ran _ ih => exact .ran (ih H₂)

/-- A history keeps the handles of the queue increasing and issued. -/
theorem ordered (H : History c q L c' q') (hq : Ordered q c) : Ordered q' c' := by
  induction H with
  | nil hc => exact hq.mono hc
  | scheduled hh _ ih => exact ih (hq.append_fresh hh _)
  | cancelled _ ih => exact ih (hq.filter _)
  | ran _ ih => exact ih hq.tail

/-- The handles a history schedules are issued from `c` on and before `c'`. -/
theorem scheduled_issued (H : History c q L c' q') : ∀ e ∈ scheduledOf L, c ≤ e.1 ∧ e.1 < c' := by
  induction H with
  | nil => intro e he; cases he
  | scheduled hh H ih =>
    intro e he
    rcases List.mem_cons.mp he with rfl | he
    · exact ⟨hh, Nat.lt_of_lt_of_le (Nat.lt_succ_self _) H.le⟩
    · have := ih e he
      exact ⟨by omega, this.2⟩
  | cancelled _ ih => exact ih
  | ran _ ih => exact ih

/-- The handles a history schedules increase. -/
theorem scheduled_increasing (H : History c q L c' q') :
    ((scheduledOf L).map (·.1)).Pairwise (· < ·) := by
  induction H with
  | nil => exact List.Pairwise.nil
  | scheduled _ H ih =>
    refine List.pairwise_cons.mpr ⟨?_, ih⟩
    intro b hb
    obtain ⟨e, he, rfl⟩ := List.mem_map.mp hb
    exact (H.scheduled_issued e he).1
  | cancelled _ ih => exact ih
  | ran _ ih => exact ih

/-- The tasks a history starts with and those it schedules stand in increasing order of their
handles. -/
theorem increasing (H : History c q L c' q') (hq : Ordered q c) :
    ((q ++ scheduledOf L).map (·.1)).Pairwise (· < ·) := by
  rw [List.map_append, List.pairwise_append]
  refine ⟨hq.increasing, H.scheduled_increasing, ?_⟩
  intro a ha b hb
  obtain ⟨e, he, rfl⟩ := List.mem_map.mp ha
  obtain ⟨e', he', rfl⟩ := List.mem_map.mp hb
  exact Nat.lt_of_lt_of_le (hq.issued e he) (H.scheduled_issued e' he').1

end History

/-! ## The ledger of a history -/

section Ledger

variable {o : Option Bool} {q : List (Nat × Task)} {L : List LoopEvent}

@[simp] theorem withFate_none_nil : withFate none q [] = q := by
  simp [withFate, fate, scheduledWithFate]

@[simp] theorem withFate_some_nil (b : Bool) : withFate (some b) q [] = [] := by
  simp [withFate, fate, scheduledWithFate]

theorem withFate_scheduled (h : Nat) (t : Task) :
    withFate o q (.scheduled h t :: L) = withFate o (q ++ [(h, t)]) L := by
  simp [withFate, fate, scheduledWithFate, List.filter_append, List.filter_singleton]

/-- A cancelled task has the fate of being cancelled; every other keeps its own. -/
theorem withFate_cancelled (ho : o ≠ some false) (h : Nat) :
    withFate o q (.cancelled h :: L) = withFate o (q.filter (·.1 != h)) L := by
  simp only [withFate, scheduledWithFate, List.filter_filter]
  congr 1
  apply List.filter_congr
  intro e _
  by_cases he : h = e.1
  · simp only [fate, he, if_true, bne_self_eq_false, Bool.and_false]
    cases o with
    | none => rfl
    | some b => cases b <;> simp_all
  · simp [fate, he, Ne.symm he]

/-- The task at the front, once run, has the fate of having run. -/
theorem withFate_ran {h : Nat} {t : Task} (hq : ∀ e ∈ q, e.1 ≠ h) :
    withFate o ((h, t) :: q) (.ran h t :: L) =
      (if some true = o then [(h, t)] else []) ++ withFate o q L := by
  have hrest : q.filter (fun e => fate e.1 (.ran h t :: L) == o) =
      q.filter (fun e => fate e.1 L == o) :=
    List.filter_congr fun e he => by simp [fate, Ne.symm (hq e he)]
  have hhead : fate h (.ran h t :: L) = some true := by simp [fate]
  rw [withFate, withFate, List.filter_cons, hhead, hrest]
  simp only [scheduledWithFate]
  by_cases ho : some true = o <;> simp [ho]

/-- The tasks of a fate stand in the order they were queued or scheduled. -/
theorem withFate_sublist (o : Option Bool) (q : List (Nat × Task)) (L : List LoopEvent) :
    (withFate o q L).Sublist (q ++ scheduledOf L) := by
  refine List.Sublist.append List.filter_sublist ?_
  induction L with
  | nil => exact List.Sublist.slnil
  | cons e L ih =>
    cases e with
    | scheduled h t =>
      simp only [scheduledWithFate, scheduledOf]
      split
      · exact ih.cons_cons _
      · exact ih.cons _
    | cancelled h => exact ih
    | ran h t => exact ih

namespace History

variable {c c' : Nat} {q' : List (Nat × Task)}

/-- Over every history the queue holds, in order, the tasks that nothing has become of: those it
started with, then those it scheduled, each left when neither run nor cancelled since. -/
theorem agenda (H : History c q L c' q') (hq : Ordered q c) : q' = withFate none q L := by
  induction H with
  | nil => exact withFate_none_nil.symm
  | scheduled hh _ ih => rw [withFate_scheduled]; exact ih (hq.append_fresh hh _)
  | cancelled _ ih => rw [withFate_cancelled (by simp)]; exact ih (hq.filter _)
  | ran _ ih => rw [withFate_ran hq.head_fresh]; simpa using ih hq.tail

/-- Over every history the tasks run are, in order, those it started with and those it
scheduled whose first fate was to run. -/
theorem runs (H : History c q L c' q') (hq : Ordered q c) : runsOf L = withFate (some true) q L := by
  induction H with
  | nil => simp [runsOf]
  | scheduled hh _ ih => rw [withFate_scheduled]; exact ih (hq.append_fresh hh _)
  | cancelled _ ih => rw [withFate_cancelled (by simp)]; exact ih (hq.filter _)
  | ran _ ih => rw [withFate_ran hq.head_fresh]; simpa [runsOf] using ih hq.tail

/-- Over every history the tasks run stand in increasing order of their handles: in the order
they were scheduled, none twice. -/
theorem runs_increasing (H : History c q L c' q') (hq : Ordered q c) :
    ((runsOf L).map (·.1)).Pairwise (· < ·) := by
  rw [H.runs hq]
  exact (H.increasing hq).sublist ((withFate_sublist _ _ _).map _)

/-- An issued handle that is not queued is never queued again: later handles are larger. -/
theorem not_queued {h : Nat} (H : History c q L c' q') (hh : h < c) (hq : h ∉ q.map (·.1)) :
    h ∉ q'.map (·.1) := by
  induction H with
  | nil => exact hq
  | scheduled hle _ ih =>
    refine ih (by omega) ?_
    simp only [List.map_append, List.map_cons, List.map_nil, List.mem_append, List.mem_singleton]
    rintro (h' | rfl)
    · exact hq h'
    · omega
  | cancelled _ ih => exact ih hh fun h' => hq ((List.filter_sublist.map _).subset h')
  | ran _ ih => exact ih hh fun h' => hq (List.mem_cons_of_mem _ h')

/-- A task that ran is no longer queued. -/
theorem ran_not_queued (H : History c q L c' q') (hq : Ordered q c) :
    ∀ e ∈ runsOf L, e.1 ∉ q'.map (·.1) := by
  induction H with
  | nil => intro e he; cases he
  | scheduled hh _ ih => exact ih (hq.append_fresh hh _)
  | cancelled _ ih => exact ih (hq.filter _)
  | @ran c c' h t q L q' H ih =>
    intro e he
    rcases List.mem_cons.mp he with rfl | he
    · refine H.not_queued (hq.issued _ (List.mem_cons_self ..)) fun hmem => ?_
      obtain ⟨e', he', heq⟩ := List.mem_map.mp hmem
      exact hq.head_fresh e' he' heq
    · exact ih hq.tail e he

end History

end Ledger

/-! ## Scheduling, cancelling and flushing make histories -/

section Worlds

variable {w : World} {l loop : Nat}

theorem lt_size_of_tasks_ne_nil (hq : w.tasks l ≠ []) : l < w.loops.size := by
  by_contra hl
  exact hq (by simp [World.tasks, Array.getElem?_eq_none (Nat.le_of_not_lt hl)])

theorem tasks_withTasks (hl : l < w.loops.size) (q : List (Nat × Task)) (l' : Nat) :
    (w.withTasks l q).tasks l' = if l = l' then q else w.tasks l' := by
  simp only [World.tasks, World.withTasks, Array.getElem?_modify]
  by_cases h : l = l'
  · subst h
    simp [hl]
  · simp [h]

@[simp] theorem nextTask_withTasks (q : List (Nat × Task)) : (w.withTasks l q).nextTask = w.nextTask :=
  rfl

theorem cancel_run (l h : Nat) (w : World) : ∃ w', cancel l h w = .ok () w' ∧
    w'.nextTask = w.nextTask ∧
    ∀ l', w'.tasks l' = if l = l' then (w.tasks l').filter (·.1 != h) else w.tasks l' := by
  refine ⟨_, rfl, rfl, fun l' => ?_⟩
  simp only [World.tasks, Array.getElem?_modify]
  by_cases hl : l = l'
  · subst hl
    cases w.loops[l]? <;> simp
  · simp [hl]

/-- Cancelling a handle that is not queued, because its task ran or was cancelled or was never
scheduled, leaves the world as it was. -/
theorem cancel_of_not_queued {h : Nat} (hh : h ∉ (w.tasks l).map (·.1)) : cancel l h w = .ok () w := by
  have hkeep : (w.tasks l).filter (·.1 != h) = w.tasks l :=
    List.filter_eq_self.mpr fun e he => bne_iff_ne.mpr fun heq => hh (List.mem_map.mpr ⟨e, he, heq⟩)
  show EStateM.Result.ok () { w with loops := w.loops.modify l _ } = _
  congr
  apply Array.ext_getElem?
  intro i
  rw [Array.getElem?_modify]
  by_cases hi : l = i
  · subst hi
    cases hl : w.loops[l]? with
    | none => simp
    | some lp =>
      have hlp : lp.queue.filter (·.1 != h) = lp.queue := by
        have hq : lp.queue = w.tasks l := by simp [World.tasks, hl]
        rw [hq, hkeep]
      simp only [if_true, Option.map_some, hlp]
  · simp [hi]

end Worlds

/-- Runs after which the queue of a loop is what a history of it leaves. -/
def Recorded (loop : Nat) : Guarantee where
  rel w w' := ∃ L, History w.nextTask (w.tasks loop) L w'.nextTask (w'.tasks loop)
  refl _ := ⟨[], .nil (Nat.le_refl _)⟩
  trans := fun ⟨L₁, H₁⟩ ⟨L₂, H₂⟩ => ⟨L₁ ++ L₂, H₁.append H₂⟩

/-- Runs after which the queue of a loop is what a history of it that runs none of its tasks
leaves: the runs of a task that only schedules and cancels. -/
def Scheduling (loop : Nat) : Guarantee where
  rel w w' := ∃ L, runsOf L = [] ∧ History w.nextTask (w.tasks loop) L w'.nextTask (w'.tasks loop)
  refl _ := ⟨[], rfl, .nil (Nat.le_refl _)⟩
  trans := fun ⟨L₁, r₁, H₁⟩ ⟨L₂, r₂, H₂⟩ => ⟨L₁ ++ L₂, by simp [r₁, r₂], H₁.append H₂⟩

theorem recorded_of_scheduling {loop : Nat} {w w' : World} (h : (Scheduling loop).rel w w') :
    (Recorded loop).rel w w' :=
  let ⟨L, _, H⟩ := h
  ⟨L, H⟩

theorem schedule_scheduling (loop l : Nat) (t : Task) : Keeps (Scheduling loop) (schedule l t) := by
  intro w
  rw [schedule_run]
  by_cases hl : l = loop ∧ l < w.loops.size
  · refine ⟨[.scheduled w.nextTask t], rfl, ?_⟩
    rw [Result.world_ok, tasks_schedule, if_pos hl]
    exact .scheduled (Nat.le_refl _) (.nil (Nat.le_refl _))
  · refine ⟨[], rfl, ?_⟩
    rw [Result.world_ok, tasks_schedule, if_neg hl, List.append_nil]
    exact .nil (Nat.le_succ _)

theorem cancel_scheduling (loop l h : Nat) : Keeps (Scheduling loop) (cancel l h) := by
  intro w
  obtain ⟨w', hrun, hnext, htasks⟩ := cancel_run l h w
  show ∃ L, runsOf L = [] ∧ History w.nextTask (w.tasks loop) L _ _
  rw [hrun, Result.world_ok, htasks, hnext]
  by_cases hl : l = loop
  · rw [if_pos hl]
    exact ⟨[.cancelled h], rfl, .cancelled (.nil (Nat.le_refl _))⟩
  · rw [if_neg hl]
    exact ⟨[], rfl, .nil (Nat.le_refl _)⟩

/-- `Drains run loop w es w'`: flushing the loop from `w`, taking the task at the front off the
queue and running it until none is left, runs the tasks `es` in turn and ends in `w'`. -/
inductive Drains (run : Nat → Task → Run Unit) (loop : Nat) :
    World → List (Nat × Task) → World → Prop
  | done {w} : w.tasks loop = [] → Drains run loop w [] w
  | step {w w₁ w' h t q es} : w.tasks loop = (h, t) :: q →
      run h t (w.withTasks loop q) = .ok () w₁ → Drains run loop w₁ es w' →
      Drains run loop w ((h, t) :: es) w'

section Drain

variable {run : Nat → Task → Run Unit} {loop fuel ran : Nat} {w : World}

theorem drain_of_tasks_nil (hq : w.tasks loop = []) : drain run loop fuel ran w = .ok ran w := by
  cases fuel <;>
  · rw [drain]
    simp only [loopAt, bind, EStateM.bind, get, getThe, MonadStateOf.get, EStateM.get, pure,
      EStateM.pure]
    rw [show (w.loops[loop]?.getD {}).queue = w.tasks loop from rfl, hq]
    rfl

theorem drain_zero_of_tasks_cons {e : Nat × Task} {q : List (Nat × Task)}
    (hq : w.tasks loop = e :: q) : drain run loop 0 ran w = .error .exhausted w := by
  rw [drain]
  simp only [loopAt, bind, EStateM.bind, get, getThe, MonadStateOf.get, EStateM.get, pure,
    EStateM.pure]
  rw [show (w.loops[loop]?.getD {}).queue = w.tasks loop from rfl, hq]
  rfl

/-- A flush with tasks left takes the one at the front off the queue and runs it. -/
theorem drain_succ_of_tasks_cons {h : Nat} {t : Task} {q : List (Nat × Task)}
    (hq : w.tasks loop = (h, t) :: q) :
    drain run loop (fuel + 1) ran w =
      (run h t >>= fun _ => drain run loop fuel (ran + 1)) (w.withTasks loop q) := by
  rw [drain]
  simp only [loopAt, bind, EStateM.bind, get, getThe, MonadStateOf.get, EStateM.get, pure,
    EStateM.pure]
  rw [show (w.loops[loop]?.getD {}).queue = w.tasks loop from rfl, hq]
  rfl

/-- Taking the task at the front off the queue is the history of its run. -/
theorem recorded_withTasks {h : Nat} {t : Task} {q : List (Nat × Task)}
    (hq : w.tasks loop = (h, t) :: q) : (Recorded loop).rel w (w.withTasks loop q) := by
  have hl := lt_size_of_tasks_ne_nil (l := loop) (by rw [hq]; exact List.cons_ne_nil _ _)
  refine ⟨[.ran h t], ?_⟩
  rw [hq, nextTask_withTasks, tasks_withTasks hl, if_pos rfl]
  exact .ran (.nil (Nat.le_refl _))

/-- A flush whose tasks only schedule and cancel makes a history of its loop, however it ends. -/
theorem drain_recorded (hrun : ∀ h t, Keeps (Scheduling loop) (run h t)) (fuel ran : Nat) :
    Keeps (Recorded loop) (drain run loop fuel ran) := by
  induction fuel generalizing ran with
  | zero =>
    intro w
    cases hq : w.tasks loop with
    | nil => rw [drain_of_tasks_nil hq]; exact (Recorded loop).refl w
    | cons e q => rw [drain_zero_of_tasks_cons hq]; exact (Recorded loop).refl w
  | succ fuel ih =>
    intro w
    cases hq : w.tasks loop with
    | nil => rw [drain_of_tasks_nil hq]; exact (Recorded loop).refl w
    | cons e q =>
      obtain ⟨h, t⟩ := e
      rw [drain_succ_of_tasks_cons hq]
      have hrest := Keeps.bind (Keeps.weaken (fun _ _ => recorded_of_scheduling) (hrun h t))
        (fun _ => ih (ran + 1))
      exact (Recorded loop).trans (recorded_withTasks hq) (hrest _)

theorem Drains.tasks_eq_nil {es : List (Nat × Task)} {w' : World} (hd : Drains run loop w es w') :
    w'.tasks loop = [] := by
  induction hd with
  | done hq => exact hq
  | step _ _ _ ih => exact ih

/-- A flush returns exactly when its trace runs at most `fuel` tasks, and it counts them. -/
theorem drain_ok_iff {n : Nat} {w' : World} :
    drain run loop fuel ran w = .ok n w' ↔
      ∃ es, Drains run loop w es w' ∧ es.length ≤ fuel ∧ n = ran + es.length := by
  induction fuel generalizing ran w with
  | zero =>
    cases hq : w.tasks loop with
    | nil =>
      rw [drain_of_tasks_nil hq]
      constructor
      · rintro ⟨⟩
        exact ⟨[], .done hq, Nat.le_refl _, rfl⟩
      · rintro ⟨es, hd, hlen, rfl⟩
        cases hd with
        | done => rfl
        | step => simp at hlen
    | cons e q =>
      rw [drain_zero_of_tasks_cons hq]
      refine ⟨nofun, ?_⟩
      rintro ⟨es, hd, hlen, -⟩
      cases hd with
      | done hq' => rw [hq] at hq'; cases hq'
      | step => simp at hlen
  | succ fuel ih =>
    cases hq : w.tasks loop with
    | nil =>
      rw [drain_of_tasks_nil hq]
      constructor
      · rintro ⟨⟩
        exact ⟨[], .done hq, Nat.zero_le _, rfl⟩
      · rintro ⟨es, hd, hlen, rfl⟩
        cases hd with
        | done => rfl
        | step hq' => rw [hq] at hq'; cases hq'
    | cons e q =>
      obtain ⟨h, t⟩ := e
      rw [drain_succ_of_tasks_cons hq]
      constructor
      · intro hok
        obtain ⟨_, w₁, hrun, hrest⟩ := ok_of_bind hok
        obtain ⟨es, hd, hlen, rfl⟩ := ih.mp hrest
        refine ⟨(h, t) :: es, .step hq hrun hd, ?_, ?_⟩ <;> simp <;> omega
      · rintro ⟨es, hd, hlen, rfl⟩
        cases hd with
        | done hq' => rw [hq] at hq'; cases hq'
        | step hq' hrun hd' =>
          rw [hq] at hq'
          obtain ⟨⟨rfl, rfl⟩, rfl⟩ := List.cons.inj hq'
          rw [bind_run_ok hrun]
          exact ih.mpr ⟨_, hd', by simp at hlen; omega, by simp; omega⟩

/-- The history of a flush whose tasks only schedule and cancel: it runs the tasks of its trace
and empties the queue. -/
theorem Drains.history (hrun : ∀ h t, Keeps (Scheduling loop) (run h t)) {es : List (Nat × Task)}
    {w' : World} (hd : Drains run loop w es w') :
    ∃ L, History w.nextTask (w.tasks loop) L w'.nextTask [] ∧ runsOf L = es := by
  induction hd with
  | done hq => exact ⟨[], hq ▸ .nil (Nat.le_refl _), rfl⟩
  | @step w w₁ w' h t q es hq hrun₁ _ ih =>
    obtain ⟨L₁, hruns₁, H₁⟩ := (hrun h t).rel_of_ok hrun₁
    obtain ⟨L₂, H₂, hruns₂⟩ := ih
    have hl := lt_size_of_tasks_ne_nil (l := loop) (by rw [hq]; exact List.cons_ne_nil _ _)
    rw [nextTask_withTasks, tasks_withTasks hl, if_pos rfl] at H₁
    refine ⟨.ran h t :: (L₁ ++ L₂), hq ▸ .ran (H₁.append H₂), ?_⟩
    simp [runsOf, hruns₁, hruns₂]

end Drain

/-! ## The laws -/

/-- The laws of a loop. -/
structure LoopLaws (loop : Nat) : Prop where
  /-- Scheduling on any loop makes a history of this one that runs nothing. -/
  scheduling : ∀ l t, Keeps (Scheduling loop) (schedule l t)
  /-- So does cancelling any handle on any loop. -/
  cancelling : ∀ l h, Keeps (Scheduling loop) (cancel l h)
  /-- A flush whose tasks only schedule and cancel makes a history of the loop, however it ends;
  so does every program built from these and from reading the queue. -/
  flushing : ∀ run fuel ran, (∀ h t, Keeps (Scheduling loop) (run h t)) →
    Keeps (Recorded loop) (drain run loop fuel ran)
  /-- After such a program, the queue, whose length is what `Pending` reads, holds in order the
  tasks queued before or scheduled since that have neither run nor been cancelled; its handles
  stay in order. -/
  pending : ∀ {α : Type} (x : Run α), Keeps (Recorded loop) x → ∀ w, Ordered (w.tasks loop) w.nextTask →
    ∃ L, History w.nextTask (w.tasks loop) L (Result.world (x w)).nextTask
        ((Result.world (x w)).tasks loop) ∧
      (Result.world (x w)).tasks loop = withFate none (w.tasks loop) L ∧
      Ordered ((Result.world (x w)).tasks loop) (Result.world (x w)).nextTask
  /-- Over every history the tasks run are those whose first fate was to run, so that a
  cancelled task never runs, and they run in the order they were scheduled, none twice. -/
  runs : ∀ c q L c' q', History c q L c' q' → Ordered q c →
    runsOf L = withFate (some true) q L ∧ ((runsOf L).map (·.1)).Pairwise (· < ·)
  /-- A flush that returns ran the tasks of its trace and added their number to its count; it
  empties the queue, so every task queued before it or scheduled during it ran, unless it was
  cancelled first. -/
  flushes : ∀ run fuel ran w n w', (∀ h t, Keeps (Scheduling loop) (run h t)) →
    drain run loop fuel ran w = .ok n w' → Ordered (w.tasks loop) w.nextTask →
    ∃ es L, Drains run loop w es w' ∧ n = ran + es.length ∧ w'.tasks loop = [] ∧
      History w.nextTask (w.tasks loop) L w'.nextTask [] ∧ runsOf L = es ∧
      es = withFate (some true) (w.tasks loop) L ∧ withFate none (w.tasks loop) L = []
  /-- A flush whose trace runs no more tasks than its budget returns, with their number added
  to its count. -/
  returns : ∀ run fuel ran w es w', Drains run loop w es w' → es.length ≤ fuel →
    drain run loop fuel ran w = .ok (ran + es.length) w'
  /-- Cancelling a task that ran changes nothing. -/
  cancelRan : ∀ (w : World) L (w' : World), History w.nextTask (w.tasks loop) L w'.nextTask (w'.tasks loop) →
    Ordered (w.tasks loop) w.nextTask → ∀ e ∈ runsOf L, cancel loop e.1 w' = .ok () w'

theorem loop_laws (loop : Nat) : LoopLaws loop where
  scheduling := schedule_scheduling loop
  cancelling := cancel_scheduling loop
  flushing _ _ _ hrun := drain_recorded hrun _ _
  pending x hx w hq := by
    obtain ⟨L, H⟩ := hx w
    exact ⟨L, H, H.agenda hq, H.ordered hq⟩
  runs _ _ _ _ _ H hq := ⟨H.runs hq, H.runs_increasing hq⟩
  flushes run fuel ran w n w' hrun hok hq := by
    obtain ⟨es, hd, -, hn⟩ := drain_ok_iff.mp hok
    obtain ⟨L, H, hruns⟩ := hd.history hrun
    refine ⟨es, L, hd, hn, hd.tasks_eq_nil, H, hruns, hruns ▸ H.runs hq, (H.agenda hq).symm⟩
  returns _ _ _ _ es _ hd hlen := drain_ok_iff.mpr ⟨es, hd, hlen, rfl⟩
  cancelRan w L w' H hq e he := cancel_of_not_queued (H.ran_not_queued hq e he)

/-- The tasks of a scene: the task of scope 3 schedules one of scope 4 on loop 0, and each task
notes that it ran by scheduling its like on loop 1. -/
def sceneTask : Nat → Task → Run Unit
  | _, .deferredDigest 3 => do
    let _ ← schedule 0 (.deferredDigest 4)
    let _ ← schedule 1 (.deferredDigest 3)
  | _, t => do let _ ← schedule 1 t

/-- Tasks of scopes 1, 2 and 3 scheduled on a new loop, the second cancelled, then the loop
flushed: the tasks pending before and after, the count of the flush, and the scopes of the tasks
in the order they ran. -/
def scheduleOrderScene : Run (Nat × Nat × Nat × List Nat) := do
  let loop ← newLoop
  let notes ← newLoop
  let _ ← schedule loop (.deferredDigest 1)
  let second ← schedule loop (.deferredDigest 2)
  let _ ← schedule loop (.deferredDigest 3)
  cancel loop second
  let before := (← loopAt loop).queue.length
  let ran ← drain sceneTask loop flushLimit 0
  let after := (← loopAt loop).queue.length
  let order := (← loopAt notes).queue.map fun e => match e.2 with
    | .deferredDigest s => s
    | .coalescedApply s => s
  pure (before, ran, after, order)

example : scheduleOrderScene.run' {} = some (2, 3, 0, [1, 3, 4]) := by decide +kernel

/-- Two loops, with the tasks of scopes 1 and 3 queued on the first. -/
def twoTasksWorld : World := Result.world ((do
  let loop ← newLoop
  let _ ← newLoop
  let _ ← schedule loop (.deferredDigest 1)
  let _ ← schedule loop (.deferredDigest 3) : Run Unit) {})

/-- Flushing the first loop, whose task of scope 3 schedules one of scope 4, runs all three,
empties the queue and returns three. -/
theorem two_tasks_flush_three :
    (∀ h t, Keeps (Scheduling 0) (sceneTask h t)) ∧
    Ordered (twoTasksWorld.tasks 0) twoTasksWorld.nextTask ∧
    ∃ w', drain sceneTask 0 4 0 twoTasksWorld = .ok 3 w' ∧
      ∃ es L, Drains sceneTask 0 twoTasksWorld es w' ∧ 3 = 0 + es.length ∧ w'.tasks 0 = [] ∧
        History twoTasksWorld.nextTask (twoTasksWorld.tasks 0) L w'.nextTask [] ∧
        runsOf L = es ∧ es = withFate (some true) (twoTasksWorld.tasks 0) L ∧
        withFate none (twoTasksWorld.tasks 0) L = [] :=
  have hrun : ∀ h t, Keeps (Scheduling 0) (sceneTask h t) := by
    intro h t
    have hs := (loop_laws 0).scheduling
    -- every task only schedules, on one loop or the other
    unfold sceneTask
    split
    · exact .bind (hs _ _) fun _ => .bind (hs _ _) fun _ => .pure' _
    · exact .bind (hs _ _) fun _ => .pure' _
  have hq : Ordered (twoTasksWorld.tasks 0) twoTasksWorld.nextTask :=
    ⟨by decide, by decide⟩
  have hok : drain sceneTask 0 4 0 twoTasksWorld =
      .ok 3 (Result.world (drain sceneTask 0 4 0 twoTasksWorld)) := by
    -- the kernel runs the flush; its count is read off the result
    have hcount : (match drain sceneTask 0 4 0 twoTasksWorld with
        | .ok n _ => n == 3
        | .error _ _ => false) = true := by decide +kernel
    generalize drain sceneTask 0 4 0 twoTasksWorld = r at hcount ⊢
    cases r with
    | ok n w' =>
      have hn : n = 3 := by simpa using hcount
      subst hn
      rfl
    | error e w' => cases hcount
  ⟨hrun, hq, _, hok, (loop_laws 0).flushes sceneTask 4 0 _ 3 _ hrun hok hq⟩

end Bindery.Scope
