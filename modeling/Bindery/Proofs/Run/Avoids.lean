import Bindery.Proofs.Run.Keeps

/-!
# Runs that stop only in some ways

A run stops early with a failure, a panic or an exhausted budget. `Avoids bad x` says that no run
of `x` stops with an interruption that `bad` holds of: `Avoids IsFault x` is a computation that
handles every failure inside it, `Avoids IsPanic x` one that handles every panic.

Like keeping to a guarantee, avoiding an interruption is closed under the monad's operations,
so a proof follows the structure of the function. Only the operations that raise or catch
interruptions have rules of their own.

`EndsIn Q x` says where the runs of `x` that return or fail end: in a world where `Q` holds. A
computation that establishes `Q` last, after steps that handle their failures, ends in `Q`,
whatever the steps before did to it.
-/

namespace Bindery.Run

/-- Whether an interruption is a failure. -/
def IsFault : Interrupt → Prop
  | .fault _ => True
  | _ => False

/-- Whether an interruption is a panic. -/
def IsPanic : Interrupt → Prop
  | .panic _ => True
  | _ => False

/-- No run of `x` stops early with an interruption that `bad` holds of. -/
def Avoids (bad : Interrupt → Prop) (x : Run α) : Prop :=
  ∀ w e w', x w = .error e w' → ¬ bad e

namespace Avoids

variable {bad : Interrupt → Prop} {x : Run α}

theorem pure' (a : α) : Avoids bad (pure a : Run α) := fun _ _ _ h => by cases h

theorem get' : Avoids bad (get : Run World) := fun _ _ _ h => by cases h

theorem modify' (f : World → World) : Avoids bad (modify f : Run Unit) := fun _ _ _ h => by cases h

theorem set' (w' : World) : Avoids bad (set w' : Run PUnit) := fun _ _ _ h => by cases h

theorem modifyGet' (f : World → α × World) : Avoids bad (modifyGet f : Run α) :=
  fun _ _ _ h => by cases h

theorem throw' {e : Interrupt} (he : ¬ bad e) : Avoids bad (throw e : Run α) := by
  intro w e' w' h
  cases h
  exact he

theorem bind {f : α → Run β} (hx : Avoids bad x) (hf : ∀ a, Avoids bad (f a)) :
    Avoids bad (x >>= f) := by
  intro w e w' h
  rcases bind_run_error_cases h with hw | ⟨a, w1, -, hfa⟩
  · exact hx w e w' hw
  · exact hf a w1 e w' hfa

theorem closed : Closed (Avoids bad) := ⟨pure', bind⟩

theorem ite' {c : Prop} [Decidable c] {y : Run α} (hx : Avoids bad x) (hy : Avoids bad y) :
    Avoids bad (if c then x else y) := by
  split
  · exact hx
  · exact hy

/-- A handler that avoids `bad` catches whatever the run stops with. -/
theorem tryCatch' {h : Interrupt → Run α} (hh : ∀ e, Avoids bad (h e)) :
    Avoids bad (tryCatch x h) := by
  intro w e w' hw
  change EStateM.tryCatch x h w = _ at hw
  unfold EStateM.tryCatch at hw
  cases hx : x w with
  | ok a w1 =>
    rw [hx] at hw
    cases hw
  | error e1 w1 =>
    rw [hx] at hw
    exact hh e1 _ e w' hw

theorem mapM' {l : List β} {f : β → Run α} (hf : ∀ b ∈ l, Avoids bad (f b)) :
    Avoids bad (l.mapM f) :=
  closed.mapM' hf

theorem forIn' {l : List β} {init : γ} {f : β → γ → Run (ForInStep γ)}
    (hf : ∀ b ∈ l, ∀ c, Avoids bad (f b c)) : Avoids bad (forIn l init f) :=
  closed.forIn' hf

theorem forIn_range {r : Std.Legacy.Range} {init : γ} {f : Nat → γ → Run (ForInStep γ)}
    (hf : ∀ i c, Avoids bad (f i c)) : Avoids bad (forIn r init f) := by
  rw [Std.Legacy.Range.forIn_eq_forIn_range']
  exact forIn' fun i _ c => hf i c

theorem allM' {l : List β} {p : β → Run Bool} (hp : ∀ b ∈ l, Avoids bad (p b)) :
    Avoids bad (l.allM p) :=
  closed.allM' hp

theorem foldlM' {l : List β} {init : γ} {f : γ → β → Run γ}
    (hf : ∀ c, ∀ b ∈ l, Avoids bad (f c b)) :
    Avoids bad (l.foldlM f init) :=
  closed.foldlM' hf

/-! ## Raising and catching -/

theorem fail' (e : Fault) (he : ¬ bad (.fault e)) : Avoids bad (Run.fail e : Run α) := throw' he

theorem panicWith' (t : String) (ht : ¬ bad (.panic t)) : Avoids bad (Run.panicWith t : Run α) :=
  throw' ht

/-- An attempt returns a failure as a value. -/
theorem attempt (x : Run α) : Avoids IsFault (Run.attempt x) := by
  unfold Run.attempt
  refine tryCatch' fun e => ?_
  cases e with
  | fault e => exact pure' _
  | panic t => exact throw' id
  | exhausted => exact throw' id

/-- Panic recovery stops with what the run stops with, other than a panic, or with what the
recovery stops with. -/
theorem recoverPanic {h : String → Run α} (hx : Avoids bad x) (hh : ∀ t, Avoids bad (h t)) :
    Avoids bad (Run.recoverPanic x h) := by
  intro w e w' hw
  change EStateM.tryCatch x _ w = _ at hw
  unfold EStateM.tryCatch at hw
  cases hx' : x w with
  | ok a w1 =>
    rw [hx'] at hw
    cases hw
  | error e1 w1 =>
    rw [hx'] at hw
    cases e1 with
    | panic t => exact hh t _ e w' hw
    | fault e2 =>
      cases hw
      exact hx w _ w1 hx'
    | exhausted =>
      cases hw
      exact hx w _ w1 hx'

/-- A panic turned into something else is no panic, whatever the run does. -/
theorem recoverPanic_panic {h : String → Run α} (hh : ∀ t, Avoids IsPanic (h t)) :
    Avoids IsPanic (Run.recoverPanic x h) := by
  unfold Run.recoverPanic
  refine tryCatch' fun e => ?_
  cases e with
  | panic t => exact hh t
  | fault e => exact throw' id
  | exhausted => exact throw' id

theorem ofExcept' (r : Except Fault α) (he : ∀ e, ¬ bad (.fault e)) : Avoids bad (Run.ofExcept r) := by
  cases r with
  | ok a => exact pure' a
  | error e => exact fail' e (he e)

/-- A run that never stops early returns, from every world. -/
theorem returns {x : Run α} (hx : Avoids (fun _ => True) x) (w : World) :
    ∃ a w', x w = .ok a w' := by
  cases h : x w with
  | ok a w' => exact ⟨a, w', rfl⟩
  | error e w' => exact absurd trivial (hx w e w' h)

end Avoids

/-- A run that only reads never stops early. -/
theorem Reads.avoids {bad : Interrupt → Prop} {x : Run α} (hx : Reads x) : Avoids bad x := by
  intro w e w' h
  obtain ⟨a, ha⟩ := hx w
  rw [ha] at h
  cases h

/-! ## Where runs that return or fail end -/

/-- Every run of `x` that stops with a failure ends in a world where `Q` holds. -/
def FailsIn (Q : World → Prop) (x : Run α) : Prop := ∀ w e w', x w = .error (.fault e) w' → Q w'

/-- Every run of `x` that returns, or stops with a failure, ends in a world where `Q` holds. -/
def EndsIn (Q : World → Prop) (x : Run α) : Prop :=
  FailsIn Q x ∧ ∀ w a w', x w = .ok a w' → Q w'

section EndsIn

variable {Q : World → Prop} {x : Run α}

theorem FailsIn.of_avoids (hx : Avoids IsFault x) : FailsIn Q x :=
  fun w _ w' h => absurd trivial (hx w _ w' h)

theorem EndsIn.ite' {c : Prop} [Decidable c] {y : Run α} (hx : EndsIn Q x) (hy : EndsIn Q y) :
    EndsIn Q (if c then x else y) := by
  split
  · exact hx
  · exact hy

/-- Steps whose failures end in `Q`, followed by a run that ends in `Q`, end in `Q`. -/
theorem EndsIn.bind {f : α → Run β} (hx : FailsIn Q x) (hf : ∀ a, EndsIn Q (f a)) :
    EndsIn Q (x >>= f) := by
  constructor
  · intro w e w' h
    rcases bind_run_error_cases h with hw | ⟨a, w1, -, hfa⟩
    · exact hx w e w' hw
    · exact (hf a).1 w1 e w' hfa
  · intro w b w' h
    obtain ⟨a, w1, -, h2⟩ := ok_of_bind h
    exact (hf a).2 w1 b w' h2

/-- A run that ends in `Q`, followed by steps that keep `Q` however they end, ends in `Q`. -/
theorem EndsIn.bind_keeps {f : α → Run β} (hx : EndsIn Q x)
    (hf : ∀ a, Keeps (Guarantee.preserving Q) (f a)) : EndsIn Q (x >>= f) := by
  constructor
  · intro w e w' h
    -- stopped in `x`, its failure ends in `Q`; stopped later, what `x` returned to carries `Q`
    rcases bind_run_error_cases h with hw | ⟨a, w1, hw, hfa⟩
    · exact hx.1 w e w' hw
    · exact Keeps.rel_of_error (hf a) hfa (hx.2 w a w1 hw)
  · intro w b w' h
    obtain ⟨a, w1, h1, h2⟩ := ok_of_bind h
    exact Keeps.rel_of_ok (hf a) h2 (hx.2 w a w1 h1)

end EndsIn

end Bindery.Run
