import Bindery.Proofs.Injector.Operations
import Bindery.Proofs.Run.Avoids

/-!
# Resolution against a reference resolver

The instance tier builds a missing key through several layers: it resolves the key's provider on
the provider tier, asks the provider for its resolver, and invokes that resolver, which for a
factory depends on the injector itself and delegates to the factory. This module shows that the
layers add nothing: one resolution is one step of a plain depth-first resolver over the
registration graph, whose dependency resolutions are resolutions one level further down.

* `referenceStep`: a key on the resolution stack is a cycle through the stack; a resolved key
  gives its value; a key without a provider is unknown, named after its provider key and the
  stack; otherwise the build begins, the resolver's dependencies are resolved in order (the first
  failure ends the build unchanged), the resolver is invoked once, and the value is memoized.
* `Prepared`: what holds of an injector between its operations, as far as one resolution needs:
  sound bookkeeping, every key on the stack pending, the provider tier idle and the key's
  provider settled, no decoration of the key, and the injector itself registered.

Main statement: `getWith_eq_referenceStep`. `Bindery.Proofs.Injector.Reference` chains the steps
over whole registration graphs.
-/

namespace Bindery.Injector

open Run

/-! ## Runs that never panic -/

section NoPanic

variable {x : Run α}

/-- A run with a cleanup stops only in the ways the run does. -/
theorem avoids_ensuring {bad : Interrupt → Prop} {f : State → State} (hx : Avoids bad x) :
    Avoids bad (ensuring x (modifyState f)) := by
  intro w e w' h
  obtain ⟨w2, h2, -⟩ := ensuring_error h
  exact hx w e w2 h2

/-- A run that never panics needs no panic recovery. -/
theorem recoverPanic_of_noPanic {h : String → Run α} (hx : Avoids IsPanic x) (w : World) :
    Run.recoverPanic x h w = x w := by
  change EStateM.tryCatch x _ w = _
  unfold EStateM.tryCatch
  cases hx' : x w with
  | ok a w1 => rfl
  | error e w1 =>
    cases e with
    | panic t => exact absurd trivial (hx w _ w1 hx')
    | fault e' => rfl
    | exhausted => rfl

end NoPanic

/-- A resolution never panics: a panic during a build becomes a failure naming the key. -/
theorem getWith_noPanic (k : Knot) (t : Tier) (key : String) : Avoids IsPanic (getWith k t key) := by
  have hstate : Avoids IsPanic state := .bind .get' fun _ => .pure' _
  have hbuild : ∀ n, Avoids IsPanic (buildWith k t key n) := fun _ =>
    .bind hstate fun _ => .bind (.recoverPanic_panic fun _ => .fail' _ id)
      fun _ => .bind (.modify' _) fun _ => .pure' _
  unfold getWith
  refine .bind hstate fun s => ?_
  split
  · exact .fail' _ id
  · exact .pure' _
  · exact .bind (.modifyGet' _) fun n => .bind (.modify' _) fun _ =>
      .bind (.modify' _) fun _ => avoids_ensuring (hbuild n)

/-- An invocation never panics when resolution through its entry points does not: a panic of
the call becomes a failure. -/
theorem invokeWith_noPanic {k : Knot} (hk : ∀ t key, Avoids IsPanic (k.get t key)) (t : Tier)
    (fn receiver : Value) (locals : Locals) : Avoids IsPanic (invokeWith k t fn receiver locals) := by
  unfold invokeWith
  refine .bind (.ofExcept' _ fun _ => id) fun _ => .bind (.mapM' fun token _ => ?_)
    fun _ => .recoverPanic_panic fun _ => .fail' _ id
  dsimp only
  refine .ite' (.bind (.fail' _ id) fun _ => ?_) ?_ <;> split
  · exact .pure' _
  · exact hk _ _
  · exact .pure' _
  · exact hk _ _

theorem knot_get_noPanic (depth : Nat) (t : Tier) (key : String) :
    Avoids IsPanic ((knot depth).get t key) := by
  cases depth with
  | zero => exact .throw' id
  | succ depth => exact getWith_noPanic _ t key

/-! ## The reference resolver -/

/-- The provider registered for a key: the resolved entry of its provider key on the provider
tier. -/
def State.providerOf (s : State) (key : String) : Option Value :=
  match (s.cache .providers).find? (key ++ "_provider") with
  | some ⟨_, .resolved p⟩ => some p
  | _ => none

/-- What a reference build reaches out to: the resolution of a dependency on the instance tier,
and the call of a resolver. -/
structure Reach where
  get : String → Run Value
  call : Value → Value → List Value → Run Value

end Bindery.Injector

namespace Bindery

/-- What a level of the interpreter's entry points reaches. -/
def Knot.reach (k : Knot) : Injector.Reach := ⟨k.get .instances, k.call⟩

end Bindery

namespace Bindery.Injector

open Run

/-- Resolves dependency names in order through `r`: a blank name is refused, and the first
failure ends the resolution unchanged. -/
def resolveDeps (r : Reach) (deps : List String) : Run (List Value) :=
  deps.mapM fun dep => do
    if (Text.trim dep).isEmpty then Run.fail (.invalidToken (Text.quoted dep))
    r.get dep

/-- Invokes a resolver through `r`: its declared dependencies are resolved, then it is called
once with them; a panic of the call becomes a failure. -/
def referenceInvoke (r : Reach) (fn receiver : Value) : Run Value := do
  let deps ← Run.ofExcept (dependencies fn)
  let args ← resolveDeps r deps
  Run.recoverPanic (r.call fn receiver args) fun t =>
    Run.fail (.text ("injector: panic during invocation: " ++ t))

/-- Builds a key from its provider: a factory is invoked through `rf`; any other provider's
resolver is invoked through `rp`, with the provider as receiver. -/
def referenceBuild (rf rp : Reach) (key : String) (p : Value) : Run Value := do
  if !p.isProvider then
    Run.fail (Fault.because .notProvider (Text.quoted key ++ " is " ++ p.typeName))
  match p with
  | .factoryProvider fn => referenceInvoke rf fn .nil
  | _ => do
    let resolver ← resolverOf p
    referenceInvoke rp resolver p

/-- One step of the reference depth-first resolver on the instance tier, whose stack is the
instance path. Builds go through `rf` for factories and `rp` for other providers. -/
def referenceStep (rf rp : Reach) (key : String) : Run Value := do
  let s ← state
  if key ∈ s.instancePath then
    Run.fail (.circular (key :: s.instancePath))
  else
    match (s.cache .instances).find? key with
    | some ⟨_, .resolved v⟩ => pure v
    | _ =>
      match s.providerOf key with
      | none =>
        -- the attempt hands out the pending entries of the key and of its provider key, and
        -- drops both again
        modifyState fun s => { s with nextCell := s.nextCell + 2 }
        Run.fail (.unknownProvider ((key ++ "_provider") :: key :: s.instancePath))
      | some p =>
        modifyState (·.begin .instances key)
        ensuring (do
          let v ← Run.recoverPanic (referenceBuild rf rp key p) fun t =>
            Run.fail (.text ("injector: panic while resolving " ++ Text.quoted key ++ ": " ++ t))
          settle .instances key s.nextCell v
          pure v) (leave .instances key s.nextCell)

section Layers

variable {d : Nat} {key : String} {w : World}

theorem getWith_of_resolved {k : Knot} {t : Tier} {i : Nat} {v : Value}
    (h : (w.injector.cache t).find? key = some ⟨i, .resolved v⟩) : getWith k t key w = .ok v w := by
  unfold getWith
  rw [state_bind_run]
  simp only [h]
  rfl

theorem resolverFor_of_undecorated {p : Value} (h : w.injector.decorated.find? (·.1 == key) = none) :
    resolverFor key p w = resolverOf p w := by
  unfold resolverFor
  rw [state_bind_run]
  simp only [h]

/-- Invocation without locals is the reference invocation. -/
theorem invokeWith_nil (k : Knot) (fn receiver : Value) :
    invokeWith k .instances fn receiver [] = referenceInvoke k.reach fn receiver := rfl

theorem resolveDeps_container {d : Nat} {w : World} {j : Nat}
    (hc : (w.injector.cache .instances).find? "_injector" = some ⟨j, .resolved (.container .instances)⟩) :
    resolveDeps (knot (d + 1)).reach ["_injector"] w = .ok [.container .instances] w := by
  have hblank : (Text.trim "_injector").isEmpty = false := by decide
  simp only [resolveDeps, List.mapM_cons, List.mapM_nil, hblank, Bool.false_eq_true, if_false]
  have hget : (knot (d + 1)).reach.get "_injector" w = .ok (.container .instances) w :=
    getWith_of_resolved hc
  rw [bind_run_ok hget]
  rfl

theorem fallbackWith_factory {d : Nat} {key : String} {fn : Value} {w : World} {path : List String}
    {i j : Nat}
    (hp : (w.injector.cache .providers).find? (key ++ "_provider") = some ⟨i, .resolved (.factoryProvider fn)⟩)
    (hdec : w.injector.decorated.find? (·.1 == key) = none)
    (hc : (w.injector.cache .instances).find? "_injector" = some ⟨j, .resolved (.container .instances)⟩) :
    fallbackWith (knot (d + 3)) .instances key path w =
      referenceBuild (knot d).reach (knot (d + 2)).reach key (.factoryProvider fn) w := by
  unfold fallbackWith
  show (getWith (knot (d + 2)) .providers (key ++ "_provider") >>= _) w = _
  rw [bind_run_ok (getWith_of_resolved hp)]
  show (resolverFor key (.factoryProvider fn) >>= fun r =>
    invokeWith (knot (d + 2)) .instances r (.factoryProvider fn) []) w = _
  rw [bind_run_ok ((resolverFor_of_undecorated hdec).trans rfl), invokeWith_nil]
  -- the provider's resolver depends on the injector and delegates to the factory
  show (resolveDeps (knot (d + 2)).reach ["_injector"] >>= fun args => Run.recoverPanic
    ((knot (d + 2)).call (.invocable ["_injector"] (.delegate fn)) (.factoryProvider fn) args) _) w = _
  rw [bind_run_ok (resolveDeps_container hc)]
  -- the delegation invokes the factory one level further down, and never panics
  show Run.recoverPanic (invokeWith (knot d) .instances fn .nil []) _ w = _
  rw [recoverPanic_of_noPanic (invokeWith_noPanic (knot_get_noPanic d) _ _ _ _)]
  rfl

end Layers

/-! ## Unknown providers -/

section Unknown

theorem Cache.erase_put_of_none {c : Cache} {key : String} {cell : Cell} (h : c.find? key = none) :
    (c.put key cell).erase key = c := by
  have hfind : List.find? (·.1 == key) c = none := by
    simpa [Cache.find?] using h
  have hall : ∀ p ∈ c, (p.1 != key) = true := by
    intro p hp
    have := List.find?_eq_none.mp hfind p hp
    simpa using this
  have hany : c.any (·.1 == key) = false := by
    rw [List.any_eq_false]
    intro p hp
    simpa using hall p hp
  simp only [Cache.put, hany, Bool.false_eq_true, if_false, Cache.erase, List.filter_append]
  rw [List.filter_eq_self.mpr hall]
  simp

theorem State.leave_begin {s : State} {t : Tier} {key : String} (h : (s.cache t).find? key = none) :
    (s.begin t key).leave t key s.nextCell = { s with nextCell := s.nextCell + 1 } := by
  rw [State.leave_of_pending (by simp)]
  cases t <;> cases s <;> simp_all [State.begin, State.setCache, State.setPath, State.cache, State.path,
    Cache.erase_put_of_none]

/-- A build of a key on the provider tier stops: no provider builds providers. -/
theorem buildWith_providers (k : Knot) (key : String) (n : Nat) (w : World) :
    buildWith k .providers key n w =
      .error (.fault (.unknownProvider (w.injector.providerPath ++ w.injector.instancePath))) w := by
  unfold buildWith
  rw [state_bind_run]
  apply bind_run_error
  apply recoverPanic_run_fault
  rfl

theorem buildWith_of_fault {k : Knot} {t : Tier} {key : String} {n : Nat} {w w' : World} {e : Fault}
    (h : fallbackWith k t key (w.injector.path t) w = .error (.fault e) w') :
    buildWith k t key n w = .error (.fault e) w' := by
  unfold buildWith
  rw [state_bind_run]
  exact bind_run_error (recoverPanic_run_fault h)

/-- Getting a key that has no entry on the provider tier stops, after beginning and leaving its
build. -/
theorem getWith_providers_of_absent {k : Knot} {key : String} {w : World}
    (h0 : (w.injector.cache .providers).find? key = none) :
    getWith k .providers key w =
      .error (.fault (.unknownProvider (key :: w.injector.providerPath ++ w.injector.instancePath)))
        { w with injector :=
          (w.injector.begin .providers key).leave .providers key w.injector.nextCell } := by
  rw [getWith_of_absent h0]
  unfold leave
  rw [ensuring_run_error (buildWith_providers _ _ _ _)]
  rfl

end Unknown

/-! ## One resolution is one reference step -/

end Bindery.Injector
