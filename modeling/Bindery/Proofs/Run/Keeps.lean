import Mathlib
import Bindery.World

/-!
# Runs that keep to a guarantee

A guarantee is a reflexive and transitive relation between the world a run starts in and the
world it ends in. `x.Keeps g` says that every run of `x`, however it ends (returning, failing,
panicking or running out of depth), ends in a world that `g` relates to its start.

Because a guarantee is reflexive and transitive, keeping to it is closed under the monad's
operations: a computation keeps to `g` as soon as each of its steps does. The lemmas below are
those closure rules, one for each way a `Run` computation is built, so that a proof about a
function of the runtime follows the function's own structure.
-/

namespace Bindery.Run

/-- The world a run ends in, whether it returned or stopped early. -/
def Result.world : EStateM.Result Interrupt World α → World
  | .ok _ w => w
  | .error _ w => w

@[simp] theorem Result.world_ok (a : α) (w : World) :
    Result.world (.ok a w : EStateM.Result Interrupt World α) = w := rfl

@[simp] theorem Result.world_error (e : Interrupt) (w : World) :
    Result.world (.error e w : EStateM.Result Interrupt World α) = w := rfl

/-- A property of runs that every run returning a value has and that running one run after
another keeps. Keeping to a guarantee, reading only and avoiding an interruption are such
properties, and each then holds of the loops the model runs over lists of runs that have it. -/
structure Closed (Q : {α : Type} → Run α → Prop) : Prop where
  pure' : ∀ {α : Type} (a : α), Q (pure a : Run α)
  bind : ∀ {α β : Type} {x : Run α} {f : α → Run β}, Q x → (∀ a, Q (f a)) → Q (x >>= f)

namespace Closed

variable {Q : {α : Type} → Run α → Prop}

theorem ite' (_ : Closed Q) {c : Prop} [Decidable c] {x y : Run α} (hx : Q x) (hy : Q y) :
    Q (if c then x else y) := by
  split
  · exact hx
  · exact hy

theorem mapM' (hQ : Closed Q) {l : List α} {f : α → Run β} (hf : ∀ a ∈ l, Q (f a)) :
    Q (l.mapM f) := by
  induction l with
  | nil => exact hQ.pure' _
  | cons a l ih =>
    rw [List.mapM_cons]
    exact hQ.bind (hf a (by simp)) fun _ =>
      hQ.bind (ih fun a' h => hf a' (by simp [h])) fun _ => hQ.pure' _

theorem forM' (hQ : Closed Q) {l : List α} {f : α → Run PUnit} (hf : ∀ a ∈ l, Q (f a)) :
    Q (l.forM f) := by
  induction l with
  | nil => exact hQ.pure' _
  | cons a l ih =>
    show Q (f a >>= fun _ => l.forM f)
    exact hQ.bind (hf a (by simp)) fun _ => ih fun a' h => hf a' (by simp [h])

theorem foldlM' (hQ : Closed Q) {l : List α} {init : β} {f : β → α → Run β}
    (hf : ∀ c, ∀ a ∈ l, Q (f c a)) : Q (l.foldlM f init) := by
  induction l generalizing init with
  | nil => exact hQ.pure' _
  | cons a l ih =>
    rw [List.foldlM_cons]
    exact hQ.bind (hf init a (by simp)) fun c => ih fun c' a' h => hf c' a' (by simp [h])

theorem forIn' (hQ : Closed Q) {l : List α} {init : β} {f : α → β → Run (ForInStep β)}
    (hf : ∀ a ∈ l, ∀ b, Q (f a b)) : Q (forIn l init f) := by
  induction l generalizing init with
  | nil => exact hQ.pure' _
  | cons a l ih =>
    rw [List.forIn_cons]
    refine hQ.bind (hf a (by simp) init) fun step => ?_
    -- a loop body that is done ends the loop with its value
    cases step with
    | done b => exact hQ.pure' b
    | yield b => exact ih fun a' h => hf a' (by simp [h])

theorem allM' (hQ : Closed Q) {l : List α} {p : α → Run Bool} (hp : ∀ a ∈ l, Q (p a)) :
    Q (l.allM p) := by
  induction l with
  | nil => exact hQ.pure' _
  | cons a l ih =>
    rw [List.allM_cons]
    refine hQ.bind (hp a (by simp)) fun r => ?_
    cases r with
    | false => exact hQ.pure' _
    | true => exact ih fun a' h => hp a' (by simp [h])

end Closed

/-- A reflexive and transitive relation between the world a run starts in and the world it ends
in. -/
structure Guarantee where
  rel : World → World → Prop
  refl : ∀ w, rel w w
  trans : ∀ {a b c}, rel a b → rel b c → rel a c

/-- The guarantee that a property of worlds, once it holds, holds again. -/
def Guarantee.preserving (P : World → Prop) : Guarantee where
  rel w w' := P w → P w'
  refl _ h := h
  trans hab hbc ha := hbc (hab ha)

/-- The guarantee that a view of the world stays as it was. -/
def Guarantee.fixing (f : World → β) : Guarantee where
  rel w w' := f w' = f w
  refl _ := rfl
  trans h1 h2 := h2.trans h1

/-- Every run of `x` ends, however it ends, in a world that `g` relates to its start. -/
def Keeps (g : Guarantee) (x : Run α) : Prop := ∀ w, g.rel w (Result.world (x w))

namespace Keeps

variable {g : Guarantee}

theorem pure' (a : α) : Keeps g (pure a) := fun w => g.refl w

/-- A run that keeps to a guarantee keeps to every weaker one. -/
theorem weaken {g' : Guarantee} {x : Run α} (h : ∀ w w', g.rel w w' → g'.rel w w') (hx : Keeps g x) :
    Keeps g' x :=
  fun w => h _ _ (hx w)

theorem throw' (e : Interrupt) : Keeps g (throw e : Run α) := fun w => g.refl w

theorem get' : Keeps g (get : Run World) := fun w => g.refl w

theorem modify' {f : World → World} (hf : ∀ w, g.rel w (f w)) : Keeps g (modify f : Run Unit) :=
  hf

theorem modifyGet' {f : World → α × World} (hf : ∀ w, g.rel w (f w).2) :
    Keeps g (modifyGet f : Run α) :=
  hf

theorem bind {x : Run α} {f : α → Run β} (hx : Keeps g x) (hf : ∀ a, Keeps g (f a)) :
    Keeps g (x >>= f) := by
  intro w
  show g.rel w (Result.world (EStateM.bind x f w))
  have h := hx w
  unfold EStateM.bind
  cases hw : x w with
  | ok a w' =>
    rw [hw] at h
    exact g.trans h (hf a w')
  | error e w' =>
    rw [hw] at h
    exact h

theorem closed : Closed (Keeps g) := ⟨pure', bind⟩

theorem map {x : Run α} (hx : Keeps g x) (f : α → β) : Keeps g (f <$> x) := by
  intro w
  show g.rel w (Result.world (EStateM.map f x w))
  have h := hx w
  unfold EStateM.map
  cases hw : x w <;> rw [hw] at h <;> exact h

theorem tryCatch {x : Run α} {h : Interrupt → Run α} (hx : Keeps g x) (hh : ∀ e, Keeps g (h e)) :
    Keeps g (tryCatch x h) := by
  intro w
  show g.rel w (Result.world (EStateM.tryCatch x h w))
  have hw' := hx w
  unfold EStateM.tryCatch
  cases hw : x w with
  | ok a w' =>
    rw [hw] at hw'
    exact hw'
  | error e w' =>
    rw [hw] at hw'
    exact g.trans hw' (hh e w')

theorem fail' (e : Fault) : Keeps g (Run.fail e : Run α) := throw' _

theorem panicWith' (t : String) : Keeps g (Run.panicWith t : Run α) := throw' _

theorem attempt {x : Run α} (hx : Keeps g x) : Keeps g (Run.attempt x) := by
  unfold Run.attempt
  refine tryCatch (map hx _) fun e => ?_
  cases e with
  | fault e => exact pure' _
  | panic t => exact throw' _
  | exhausted => exact throw' _

theorem recoverPanic {x : Run α} {h : String → Run α} (hx : Keeps g x) (hh : ∀ t, Keeps g (h t)) :
    Keeps g (Run.recoverPanic x h) := by
  unfold Run.recoverPanic
  refine tryCatch hx fun e => ?_
  cases e with
  | panic t => exact hh t
  | fault e => exact throw' _
  | exhausted => exact throw' _

theorem ofExcept' (r : Except Fault α) : Keeps g (Run.ofExcept r) := by
  cases r with
  | ok a => exact pure' a
  | error e => exact fail' e

theorem ite' {c : Prop} [Decidable c] {x y : Run α} (hx : Keeps g x) (hy : Keeps g y) :
    Keeps g (if c then x else y) := by
  split
  · exact hx
  · exact hy

theorem mapM' {l : List α} {f : α → Run β} (hf : ∀ a ∈ l, Keeps g (f a)) :
    Keeps g (l.mapM f) :=
  closed.mapM' hf

theorem forM' {l : List α} {f : α → Run PUnit} (hf : ∀ a ∈ l, Keeps g (f a)) :
    Keeps g (l.forM f) :=
  closed.forM' hf

theorem foldlM' {l : List α} {init : β} {f : β → α → Run β} (hf : ∀ c, ∀ a ∈ l, Keeps g (f c a)) :
    Keeps g (l.foldlM f init) :=
  closed.foldlM' hf

/-- A run that stops early ends in a world the guarantee relates to its start. -/
theorem rel_of_error {x : Run α} (hx : Keeps g x) {w w' : World} {e : Interrupt}
    (h : x w = .error e w') : g.rel w w' := by
  have hw := hx w
  rwa [h] at hw

/-- A run that returns ends in a world the guarantee relates to its start. -/
theorem rel_of_ok {x : Run α} (hx : Keeps g x) {w w' : World} {a : α}
    (h : x w = .ok a w') : g.rel w w' := by
  have hw := hx w
  rwa [h] at hw

/-- A run that reads the world and goes on with what it read keeps a guarantee when, from every
world, what it goes on with ends in a world the guarantee relates to it. -/
theorem get_bind {f : World → Run α} (h : ∀ w, g.rel w (Result.world (f w w))) :
    Keeps g (get >>= f) :=
  fun w => h w

theorem forIn' {l : List α} {init : β} {f : α → β → Run (ForInStep β)}
    (hf : ∀ a ∈ l, ∀ b, Keeps g (f a b)) : Keeps g (forIn l init f) :=
  closed.forIn' hf

end Keeps

/-- A run of `x >>= f` that stops early stopped in `x`, or in `f` after `x` returned. -/
theorem bind_run_error_cases {x : Run α} {f : α → Run β} {w w' : World} {e : Interrupt}
    (h : (x >>= f) w = .error e w') :
    x w = .error e w' ∨ ∃ a w1, x w = .ok a w1 ∧ f a w1 = .error e w' := by
  change EStateM.bind x f w = _ at h
  unfold EStateM.bind at h
  cases hx : x w with
  | ok a w1 =>
    rw [hx] at h
    exact .inr ⟨a, w1, rfl, h⟩
  | error e1 w1 =>
    rw [hx] at h
    cases h
    exact .inl rfl

/-- A run of `x >>= f` that stops early, where `f` always returns, stopped in `x`. -/
theorem error_of_bind {x : Run α} {f : α → Run β} (hf : ∀ a w, ∃ b w', f a w = .ok b w')
    {w w' : World} {e : Interrupt} (h : (x >>= f) w = .error e w') : x w = .error e w' := by
  rcases bind_run_error_cases h with hx | ⟨a, w1, -, hfa⟩
  · exact hx
  · obtain ⟨b, w2, hb⟩ := hf a w1
    rw [hb] at hfa
    cases hfa

/-- A run of `x >>= f` that returns ran `x` to a value and `f` on it. -/
theorem ok_of_bind {x : Run α} {f : α → Run β} {w w' : World} {b : β}
    (h : (x >>= f) w = .ok b w') : ∃ a w1, x w = .ok a w1 ∧ f a w1 = .ok b w' := by
  change EStateM.bind x f w = _ at h
  unfold EStateM.bind at h
  cases hx : x w with
  | ok a w1 =>
    simp only [hx] at h
    exact ⟨a, w1, rfl, h⟩
  | error e w1 =>
    simp only [hx] at h
    cases h

/-! ## Runs at a world -/

/-- A failure ends a run: nothing after it runs. -/
@[simp] theorem fail_bind (e : Fault) (f : α → Run β) : (Run.fail e >>= f) = Run.fail e := rfl

/-- A loop that yields after each step runs the steps in turn. -/
theorem forIn_yield_eq_forM (l : List α) (f : α → Run PUnit) :
    (forIn l PUnit.unit fun a _ => do f a; pure (ForInStep.yield PUnit.unit)) = forM l f := by
  induction l with
  | nil => rfl
  | cons a l ih => simp only [List.forIn_cons, List.forM_cons, bind_assoc, pure_bind, ih]

section Runs

variable {x y : Run α} {f : α → Run β} {w w' : World}

theorem bind_run_ok {a : α} (h : x w = .ok a w') : (x >>= f) w = f a w' := by
  change EStateM.bind x f w = _
  simp only [EStateM.bind, h]

theorem bind_run_error {e : Interrupt} (h : x w = .error e w') : (x >>= f) w = .error e w' := by
  change EStateM.bind x f w = _
  simp only [EStateM.bind, h]

theorem bind_run_congr (h : x w = y w) : (x >>= f) w = (y >>= f) w := by
  change EStateM.bind x f w = EStateM.bind y f w
  simp only [EStateM.bind, h]

theorem recoverPanic_run_congr {h : String → Run α} (hxy : x w = y w) :
    Run.recoverPanic x h w = Run.recoverPanic y h w := by
  change EStateM.tryCatch x _ w = EStateM.tryCatch y _ w
  simp only [EStateM.tryCatch, hxy]

theorem recoverPanic_run_fault {h : String → Run α} {e : Fault} (hx : x w = .error (.fault e) w') :
    Run.recoverPanic x h w = .error (.fault e) w' := by
  change EStateM.tryCatch x _ w = _
  simp only [EStateM.tryCatch, hx]
  rfl

theorem recoverPanic_run_ok {h : String → Run α} {a : α} (hx : x w = .ok a w') :
    Run.recoverPanic x h w = .ok a w' := by
  change EStateM.tryCatch x _ w = _
  simp only [EStateM.tryCatch, hx]

/-- Continuations that agree on the worlds where a property holds agree after a run that
preserves the property. -/
theorem bind_run_congr_of_keeps {P : World → Prop} (g : α → Run β) (hx : Keeps (.preserving P) x)
    (hw : P w) (hfg : ∀ a w', P w' → f a w' = g a w') : (x >>= f) w = (x >>= g) w := by
  change EStateM.bind x f w = EStateM.bind x g w
  have h := hx w hw
  unfold EStateM.bind
  cases hxw : x w with
  | ok a w1 =>
    rw [hxw] at h
    exact hfg a w1 h
  | error e w1 => rfl

/-- Continuations that agree after every way the run returns agree after the run. -/
theorem bind_run_congr_of_ok {g : α → Run β} (h : ∀ a w', x w = .ok a w' → f a w' = g a w') :
    (x >>= f) w = (x >>= g) w := by
  cases hx : x w with
  | ok a w' => rw [bind_run_ok hx, bind_run_ok hx, h a w' hx]
  | error e w' => rw [bind_run_error hx, bind_run_error hx]

theorem get_bind_run {f : World → Run β} : (get >>= f) w = f w w := rfl

theorem attempt_run_ok {a : α} (hx : x w = .ok a w') : Run.attempt x w = .ok (.ok a) w' := by
  change EStateM.tryCatch (EStateM.map _ x) _ w = _
  simp only [EStateM.tryCatch, EStateM.map, hx]

/-- An attempt that meets a failure returns it. -/
theorem attempt_run_fault {e : Fault} (hx : x w = .error (.fault e) w') :
    Run.attempt x w = .ok (.error e) w' := by
  change EStateM.tryCatch (EStateM.map _ x) _ w = _
  simp only [EStateM.tryCatch, EStateM.map, hx]
  rfl

/-- An attempt that returns a value ran the computation to it. -/
theorem ok_of_attempt_ok {a : α} (h : Run.attempt x w = .ok (.ok a) w') : x w = .ok a w' := by
  change EStateM.tryCatch (EStateM.map _ x) _ w = _ at h
  unfold EStateM.tryCatch EStateM.map at h
  cases hx : x w with
  | ok b w1 =>
    rw [hx] at h
    cases h
    rfl
  | error e w1 =>
    rw [hx] at h
    cases e <;> cases h

/-- An attempt that returns a failure met it in the computation. -/
theorem fault_of_attempt {e : Fault} (h : Run.attempt x w = .ok (.error e) w') :
    x w = .error (.fault e) w' := by
  change EStateM.tryCatch (EStateM.map _ x) _ w = _ at h
  unfold EStateM.tryCatch EStateM.map at h
  cases hx : x w with
  | ok b w1 =>
    rw [hx] at h
    cases h
  | error i w1 =>
    rw [hx] at h
    cases i <;> cases h
    rfl

end Runs

/-! ## Mappings -/

/-- A mapping that returns ran each item to its own result, in order. -/
theorem mapM_run_ok {f : α → Run β} : ∀ {l : List α} {w w' : World} {bs : List β},
    l.mapM f w = .ok bs w' → List.Forall₂ (fun a b => ∃ w1 w2, f a w1 = .ok b w2) l bs
  | [], _, _, _, h => by
    cases h
    exact .nil
  | a :: l, w, _, _, h => by
    rw [List.mapM_cons] at h
    obtain ⟨b, w1, hb, h1⟩ := ok_of_bind h
    obtain ⟨bs, w2, hbs, h2⟩ := ok_of_bind h1
    cases h2
    exact .cons ⟨w, w1, hb⟩ (mapM_run_ok hbs)

/-- A mapping that stops early stops as the run of one of its items stopped. -/
theorem mapM_run_error {f : α → Run β} : ∀ {l : List α} {w w' : World} {e : Interrupt},
    l.mapM f w = .error e w' → ∃ a ∈ l, ∃ w1 w2, f a w1 = .error e w2
  | [], _, _, _, h => by cases h
  | a :: l, w, w', _, h => by
    rw [List.mapM_cons] at h
    rcases bind_run_error_cases h with hb | ⟨b, w1, -, h1⟩
    · exact ⟨a, List.mem_cons_self .., w, w', hb⟩
    · rcases bind_run_error_cases h1 with hbs | ⟨bs, w2, -, h2⟩
      · obtain ⟨a', ha', hrest⟩ := mapM_run_error hbs
        exact ⟨a', List.mem_cons_of_mem a ha', hrest⟩
      · cases h2

/-- A mapping returns when the run of each of its items returns, from every world. -/
theorem mapM_run_returns {f : α → Run β} :
    ∀ {l : List α}, (∀ a ∈ l, ∀ w, ∃ b w', f a w = .ok b w') →
      ∀ w, ∃ bs w', l.mapM f w = .ok bs w'
  | [], _, w => ⟨[], w, rfl⟩
  | a :: l, hf, w => by
    obtain ⟨b, w1, hb⟩ := hf a (List.mem_cons_self ..) w
    obtain ⟨bs, w2, hbs⟩ :=
      mapM_run_returns (fun a' ha' => hf a' (List.mem_cons_of_mem a ha')) w1
    refine ⟨b :: bs, w2, ?_⟩
    rw [List.mapM_cons, bind_run_ok hb, bind_run_ok hbs]
    rfl

/-! ## What runs return -/

/-- Every run of `x` that returns gives a value that `Q` holds of. -/
def Returns (Q : α → Prop) (x : Run α) : Prop := ∀ w a w', x w = .ok a w' → Q a

theorem Returns.pure' {Q : α → Prop} {a : α} (h : Q a) : Returns Q (pure a : Run α) := by
  intro w b w' hb
  cases hb
  exact h

theorem Returns.bind {Q : β → Prop} {x : Run α} {f : α → Run β} (hf : ∀ a, Returns Q (f a)) :
    Returns Q (x >>= f) := by
  intro w b w' h
  obtain ⟨a, w₁, -, h₂⟩ := ok_of_bind h
  exact hf a w₁ b w' h₂

theorem Returns.fail' (Q : α → Prop) (e : Fault) : Returns Q (Run.fail e : Run α) :=
  fun _ _ _ h => by cases h

/-- A run returns what `Q` holds of when its first part returns what `R` holds of and the rest
returns what `Q` holds of from every such value. -/
theorem Returns.bind_of {Q : β → Prop} {R : α → Prop} {x : Run α} {f : α → Run β}
    (hx : Returns R x) (hf : ∀ a, R a → Returns Q (f a)) : Returns Q (x >>= f) := by
  intro w b w' h
  obtain ⟨a, w1, h1, h2⟩ := ok_of_bind h
  exact hf a (hx w a w1 h1) w1 b w' h2

/-- A fold keeps an invariant that each of its steps keeps. -/
theorem Returns.foldlM {I : β → Prop} {f : β → α → Run β} :
    ∀ {l : List α} {init : β}, I init → (∀ a ∈ l, ∀ b, I b → Returns I (f b a)) →
      Returns I (l.foldlM f init)
  | [], _, h0, _ => Returns.pure' h0
  | a :: l, init, h0, hf => by
    rw [List.foldlM_cons]
    exact Returns.bind_of (hf a (List.mem_cons_self ..) init h0) fun b hb =>
      Returns.foldlM hb fun a' ha' => hf a' (List.mem_cons_of_mem a ha')

/-! ## Runs that only read -/

/-- Every run of `x` returns, in the world it started in. -/
def Reads (x : Run α) : Prop := ∀ w, ∃ a, x w = .ok a w

namespace Reads

variable {x : Run α}

theorem pure' (a : α) : Reads (pure a : Run α) := fun _ => ⟨a, rfl⟩

theorem get' : Reads (get : Run World) := fun w => ⟨w, rfl⟩

theorem bind {f : α → Run β} (hx : Reads x) (hf : ∀ a, Reads (f a)) : Reads (x >>= f) := by
  intro w
  obtain ⟨a, ha⟩ := hx w
  rw [bind_run_ok ha]
  exact hf a w

theorem closed : Closed Reads := ⟨pure', bind⟩

theorem ite' {c : Prop} [Decidable c] {y : Run α} (hx : Reads x) (hy : Reads y) :
    Reads (if c then x else y) := by
  split
  · exact hx
  · exact hy

theorem allM' {l : List β} {p : β → Run Bool} (hp : ∀ b ∈ l, Reads (p b)) : Reads (l.allM p) :=
  closed.allM' hp

/-- A run that only reads keeps to every guarantee. -/
theorem keeps {g : Guarantee} (hx : Reads x) : Keeps g x := by
  intro w
  obtain ⟨a, ha⟩ := hx w
  rw [ha]
  exact g.refl w

end Reads

/-- Every run of `x` returns, in the world it started in, a value that depends only on the view
`f` of that world. -/
def ReadsOnly (f : World → γ) (x : Run α) : Prop :=
  ∀ w, ∃ a, x w = .ok a w ∧ ∀ w', f w' = f w → x w' = .ok a w'

namespace ReadsOnly

variable {f : World → γ} {x : Run α}

theorem reads (hx : ReadsOnly f x) : Reads x := fun w =>
  let ⟨a, ha, _⟩ := hx w
  ⟨a, ha⟩

theorem pure' (a : α) : ReadsOnly f (pure a : Run α) := fun _ => ⟨a, rfl, fun _ _ => rfl⟩

/-- Reading what the view shows. -/
theorem read (g : γ → α) : ReadsOnly f (do pure (g (f (← get))) : Run α) :=
  fun w => ⟨g (f w), rfl, fun w' h => by
    show EStateM.Result.ok (g (f w')) w' = _
    rw [h]⟩

theorem bind {h : α → Run β} (hx : ReadsOnly f x) (hh : ∀ a, ReadsOnly f (h a)) :
    ReadsOnly f (x >>= h) := by
  intro w
  obtain ⟨a, ha, hxa⟩ := hx w
  obtain ⟨b, hb, hhb⟩ := hh a w
  refine ⟨b, by rw [bind_run_ok ha, hb], fun w' hw' => ?_⟩
  rw [bind_run_ok (hxa w' hw'), hhb w' hw']

theorem closed : Closed (ReadsOnly f) := ⟨pure', bind⟩

theorem ite' {c : Prop} [Decidable c] {y : Run α} (hx : ReadsOnly f x) (hy : ReadsOnly f y) :
    ReadsOnly f (if c then x else y) := by
  split
  · exact hx
  · exact hy

theorem allM' {l : List β} {p : β → Run Bool} (hp : ∀ b ∈ l, ReadsOnly f (p b)) :
    ReadsOnly f (l.allM p) :=
  closed.allM' hp

/-- What a run that reads only a view returns in one world, it returns in every world with the
same view. -/
theorem run_congr (hx : ReadsOnly f x) {w w' : World} {a : α} (h : x w = .ok a w)
    (hf : f w' = f w) : x w' = .ok a w' := by
  obtain ⟨b, hb, hxb⟩ := hx w
  rw [hb] at h
  cases h
  exact hxb w' hf

end ReadsOnly

end Bindery.Run
