import Bindery.Proofs.Injector.Resolution

/-!
# Decorated resolution

A decorator of a key wraps the resolver the key has when the decorator is registered: the wrapper
resolves the instance with the wrapped resolver, hands it to the decorator under the local name
`_delegate` and returns it. Decorators registered one after another therefore nest, the first
registered innermost, and registering the key's provider again drops them all.

`decorateAll` is the resolver such a history leaves, and `decoratedRun` is what resolving through it
amounts to: the provider's resolver once, with the provider as receiver, then every decorator in the
order of registration with that same instance, and the instance as the result.

Main statements:
* `invokeWith_decorateAll`: invoking the nested wrappers is the decorated run.
* `Decorated.of_register`, `Decorated.register_decorators`: what registration leaves.
* `getWith_decoratedRun`: the first resolution of a decorated key.
* `decorators_compose_in_order`: the laws of decoration, from registration to resolution.
-/

namespace Bindery.Injector

open Run

/-! ## The decorated resolver -/

/-- The resolver that decorators `ds`, registered in this order, leave around the resolver `r` of
the provider `p`: each decorator wraps the resolver before it. -/
def decorateAll (r p : Value) (ds : List Value) : Value :=
  ds.foldl (fun inner fn => .invocable [] (.decorate inner p fn)) r

@[simp] theorem decorateAll_nil (r p : Value) : decorateAll r p [] = r := rfl

@[simp] theorem decorateAll_append_singleton (r p fn : Value) (ds : List Value) :
    decorateAll r p (ds ++ [fn]) = .invocable [] (.decorate (decorateAll r p ds) p fn) := by
  simp [decorateAll, List.foldl_append]

/-- Resolution through decorators as documented: the provider's resolver is invoked once with the
provider as receiver, then each decorator in registration order with `_delegate` bound to that
instance, and the instance is the result. The decorator at position `i` is invoked `2 * i` levels
above the resolver: every wrapper around it costs two levels of the knot. -/
def decoratedRun (depth : Nat) (r p : Value) (ds : List Value) : Run Value := do
  let inst ← invokeWith (knot depth) .instances r p []
  ds.zipIdx.forM fun (fn, i) => do
    let _ ← invokeWith (knot (depth + 2 * i)) .instances fn .nil [("_delegate", inst)]
    pure ()
  pure inst

theorem decoratedRun_append (depth : Nat) (r p fn : Value) (ds : List Value) :
    decoratedRun depth r p (ds ++ [fn]) = (do
      let inst ← decoratedRun depth r p ds
      let _ ← invokeWith (knot (depth + 2 * ds.length)) .instances fn .nil [("_delegate", inst)]
      pure inst) := by
  simp [decoratedRun, List.zipIdx_append, List.forM_append]

/-- One wrapper, invoked without locals: the wrapped resolver with the provider as receiver, then
the decorator with `_delegate` bound to the instance, both one level further down. Neither
invocation can panic, so the wrapper's own recovery never acts. -/
theorem invokeWith_decorate (depth : Nat) (inner p fn receiver : Value) :
    invokeWith (knot (depth + 2)) .instances (.invocable [] (.decorate inner p fn)) receiver [] =
      (do
        let inst ← invokeWith (knot depth) .instances inner p []
        let _ ← invokeWith (knot depth) .instances fn .nil [("_delegate", inst)]
        pure inst) := by
  funext w
  show Run.recoverPanic (do
    let inst ← invokeWith (knot depth) .instances inner p []
    let _ ← invokeWith (knot depth) .instances fn .nil [("_delegate", inst)]
    pure inst) _ w = _
  have hk := knot_get_noPanic depth
  exact recoverPanic_of_noPanic
    (.bind (invokeWith_noPanic hk _ _ _ _) fun _ => .bind (invokeWith_noPanic hk _ _ _ _) fun _ =>
      .pure' _) w

/-- **Nested wrappers run in registration order.** Invoking the resolver that decorators leave,
with the provider as receiver, is the decorated run: the innermost resolver first, then the
decorators from the first registered to the last. -/
theorem invokeWith_decorateAll (depth : Nat) (r p : Value) (ds : List Value) :
    invokeWith (knot (depth + 2 * ds.length)) .instances (decorateAll r p ds) p [] =
      decoratedRun depth r p ds := by
  -- the last decorator registered is the outermost wrapper, so the induction adds it last
  induction ds using List.reverseRecOn with
  | nil => simp [decoratedRun]
  | append_singleton ds fn ih =>
    have hdepth : depth + 2 * (ds ++ [fn]).length = depth + 2 * ds.length + 2 := by
      simp only [List.length_append, List.length_singleton]
      omega
    rw [hdepth, decorateAll_append_singleton, invokeWith_decorate, ih, decoratedRun_append]

/-! ## Resolving a decorated key -/

theorem resolverFor_of_decorated {key : String} {p c : Value} {w : World}
    (h : w.injector.decorated.find? (·.1 == key) = some (key, c)) :
    resolverFor key p w = .ok c w := by
  unfold resolverFor
  rw [state_bind_run]
  simp only [h]
  rfl

theorem fallbackWith_decorated {depth : Nat} {key : String} {p c : Value} {w : World}
    {path : List String} {i : Nat}
    (hp : (w.injector.cache .providers).find? (key ++ "_provider") = some ⟨i, .resolved p⟩)
    (hprov : p.isProvider = true) (hdec : w.injector.decorated.find? (·.1 == key) = some (key, c)) :
    fallbackWith (knot (depth + 1)) .instances key path w =
      invokeWith (knot depth) .instances c p [] w := by
  unfold fallbackWith
  show (getWith (knot depth) .providers (key ++ "_provider") >>= _) w = _
  rw [bind_run_ok (getWith_of_resolved hp)]
  simp only [hprov, Bool.not_true, Bool.false_eq_true, if_false]
  rw [bind_run_ok (resolverFor_of_decorated hdec)]
  rfl

/-- The first resolution of a key with a settled provider and a decorated resolver begins the
build, invokes the decorated resolver with the provider as receiver, settles the value and
leaves. -/
theorem getWith_decorated {depth : Nat} {key : String} {p c : Value} {w : World} {i : Nat}
    (h0 : (w.injector.cache .instances).find? key = none)
    (hp : (w.injector.cache .providers).find? (key ++ "_provider") = some ⟨i, .resolved p⟩)
    (hprov : p.isProvider = true) (hdec : w.injector.decorated.find? (·.1 == key) = some (key, c)) :
    getWith (knot (depth + 1)) .instances key w =
      ensuring (do
          let v ← invokeWith (knot depth) .instances c p []
          settle .instances key w.injector.nextCell v
          pure v)
        (leave .instances key w.injector.nextCell)
        { w with injector := w.injector.begin .instances key } := by
  rw [getWith_of_absent h0]
  apply ensuring_run_congr
  unfold buildWith
  rw [state_bind_run]
  -- beginning the build touches neither the provider tier nor the decorations
  have hp1 : (({ w with injector := w.injector.begin .instances key } : World).injector.cache
      .providers).find? (key ++ "_provider") = some ⟨i, .resolved p⟩ := by
    rw [State.begin_cache_of_ne (by intro h; cases h)]
    exact hp
  have hdec1 : ({ w with injector := w.injector.begin .instances key } : World).injector.decorated.find?
      (·.1 == key) = some (key, c) := hdec
  -- the fallback invokes the decorated resolver, which cannot panic
  exact bind_run_congr ((recoverPanic_run_congr (fallbackWith_decorated hp1 hprov hdec1)).trans
    (recoverPanic_of_noPanic (invokeWith_noPanic (knot_get_noPanic depth) _ _ _ _) _))

/-! ## What registration leaves -/

/-- The key a registration gives a provider: through a provider, a factory, a value or a
service. -/
def Registration.providerKey? : Registration → Option String
  | .provider key _ | .factory key _ | .value key _ | .service key _ => some key
  | .constant .. | .decorator .. => none

/-- The registrations of a key as its first resolution finds them: its provider `p` is resolved on
the provider tier, and the decorators `ds`, in registration order, wrap `r`, the resolver `p` gave
when the first of them was registered. A key without decorators has no decorated resolver. -/
structure Decorated (w : World) (key : String) (p r : Value) (ds : List Value) : Prop where
  provider : ∃ i, (w.injector.cache .providers).find? (key ++ "_provider") = some ⟨i, .resolved p⟩
  isProvider : p.isProvider = true
  resolver : ds ≠ [] → ∃ u, resolverOf p u = .ok r u
  table : w.injector.decorated.find? (·.1 == key) =
    if ds.isEmpty then none else some (key, decorateAll r p ds)

theorem store_run (t : Tier) (key : String) (v : Value) (w : World) :
    store t key v w = .ok () { w with
      injector := State.setCache ({ w.injector with nextCell := w.injector.nextCell + 1 } : State) t
        ((w.injector.cache t).put key ⟨w.injector.nextCell, .resolved v⟩) } := rfl

theorem modifyState_run (f : State → State) (w : World) :
    modifyState f w = .ok () { w with injector := f w.injector } := rfl

/-- Replacing a key's decoration leaves the new one as the key's. -/
theorem find?_replaced (l : List (String × Value)) (key : String) (v : Value) :
    (l.filter (·.1 != key) ++ [(key, v)]).find? (·.1 == key) = some (key, v) := by
  have hnone : (l.filter (·.1 != key)).find? (·.1 == key) = none := by
    rw [List.find?_eq_none]
    intro e he
    simpa using (List.mem_filter.mp he).2
  rw [List.find?_append, hnone]
  simp

/-- The tail of a provider registration: the check, the store and the dropping of the key's
decorations. -/
theorem storeProvider_ok {key : String} {p : Value} {w w' : World}
    (h : (do
      if !p.isProvider then
        Run.fail (Fault.because .notProvider (Text.quoted key ++ " is " ++ p.typeName))
      store .providers (key ++ "_provider") p
      modifyState fun s => { s with decorated := s.decorated.filter (·.1 != key) } : Run Unit) w =
        .ok () w') :
    ∃ r, Decorated w' key p r [] := by
  cases hp : p.isProvider
  · simp only [hp, Bool.not_false, if_true] at h
    cases h
  · simp only [hp, Bool.not_true, Bool.false_eq_true, if_false] at h
    rw [bind_run_ok (store_run _ _ _ _), modifyState_run] at h
    cases h
    refine ⟨.nil, ⟨⟨w.injector.nextCell, ?_⟩, hp, fun h => absurd rfl h, ?_⟩⟩
    · simp [State.cache, State.setCache]
    · simp

theorem registerProvider_ok {k : Knot} {key : String} {p : Value} {w w' : World}
    (h : registerProvider k key p w = .ok () w') : ∃ p' r, Decorated w' key p' r [] := by
  unfold registerProvider at h
  -- a constructor is instantiated into the provider first; either way the tail is the same
  split at h
  · obtain ⟨res, w1, -, h⟩ := ok_of_bind h
    split at h
    · exact ⟨_, storeProvider_ok h⟩
    · cases h
  · exact ⟨_, storeProvider_ok h⟩

theorem registerFactory_ok {k : Knot} {key : String} {fn : Value} {w w' : World}
    (h : registerFactory k key fn w = .ok () w') : ∃ p r, Decorated w' key p r [] := by
  unfold registerFactory at h
  cases hf : fn.isInvocable
  · simp only [hf, Bool.not_false, if_true] at h
    cases h
  · simp only [hf, Bool.not_true, Bool.false_eq_true, if_false] at h
    exact registerProvider_ok h

/-- Giving a key a provider, through whichever registration, leaves it undecorated. -/
theorem Decorated.of_register {k : Knot} {reg : Registration} {key : String} {w w' : World}
    (hreg : reg.providerKey? = some key) (h : register k reg w = .ok () w') :
    ∃ p r, Decorated w' key p r [] := by
  cases reg with
  | provider key' p =>
    cases hreg
    exact registerProvider_ok h
  | factory key' fn =>
    cases hreg
    exact registerFactory_ok h
  | value key' v =>
    cases hreg
    exact registerFactory_ok (show registerFactory k key (.invocable [] (.yield v)) w = _ from h)
  | service key' c =>
    cases hreg
    exact registerFactory_ok
      (show registerFactory k key (.invocable ["_injector"] (.instantiate c)) w = _ from h)
  | constant => cases hreg
  | decorator => cases hreg

theorem resolverFor_reads {key : String} {p r : Value} {w w' : World}
    (h : resolverFor key p w = .ok r w') : w' = w :=
  (PrimitivesKeep.resolverFor key p : Keeps (.fixing fun u : World => u) _).rel_of_ok h

/-- A decorator registered on a decorated key wraps the key's current resolver. -/
theorem Decorated.register_decorator {d : Nat} {key : String} {p r fn : Value} {ds : List Value}
    {w w' : World} (hd : Decorated w key p r ds)
    (h : registerDecorator (knot (d + 1)) key fn w = .ok () w') :
    ∃ r', Decorated w' key p r' (ds ++ [fn]) := by
  unfold registerDecorator at h
  cases hf : fn.isInvocable
  · simp only [hf, Bool.not_false, if_true] at h
    cases h
  simp only [hf, Bool.not_true, Bool.false_eq_true, if_false] at h
  obtain ⟨i, hi⟩ := hd.provider
  change (getWith (knot d) .providers (key ++ "_provider") >>= _) w = _ at h
  rw [bind_run_ok (getWith_of_resolved hi)] at h
  simp only [hd.isProvider, Bool.not_true, Bool.false_eq_true, if_false] at h
  obtain ⟨inner, w1, hinner, h⟩ := ok_of_bind h
  cases resolverFor_reads hinner
  rw [modifyState_run] at h
  cases h
  -- the new wrapper closes over the resolver the key had: its provider's, or the last wrapper
  cases ds with
  | nil =>
    have htable : w.injector.decorated.find? (·.1 == key) = none := by simpa using hd.table
    rw [resolverFor_of_undecorated htable] at hinner
    exact ⟨inner, ⟨i, hi⟩, hd.isProvider, fun _ => ⟨w, hinner⟩,
      (find?_replaced _ _ _).trans (by simp [decorateAll])⟩
  | cons d ds =>
    have htable : w.injector.decorated.find? (·.1 == key) = some (key, decorateAll r p (d :: ds)) := by
      simpa using hd.table
    rw [resolverFor_of_decorated htable] at hinner
    cases hinner
    exact ⟨r, ⟨i, hi⟩, hd.isProvider, fun _ => hd.resolver (List.cons_ne_nil _ _),
      (find?_replaced _ _ _).trans (by simp [decorateAll])⟩

/-- Decorators registered one after another stack in registration order. -/
theorem Decorated.register_decorators {d : Nat} {key : String} {p r : Value} {ds : List Value}
    {w w' : World} (hd : Decorated w key p r ds) (fns : List Value)
    (h : (fns.forM fun fn => register (knot (d + 1)) (.decorator key fn)) w = .ok () w') :
    ∃ r', Decorated w' key p r' (ds ++ fns) := by
  induction fns generalizing r ds w with
  | nil =>
    cases h
    exact ⟨r, by simpa using hd⟩
  | cons fn fns ih =>
    simp only [List.forM] at h
    obtain ⟨_, w1, h1, h2⟩ := ok_of_bind h
    obtain ⟨r1, hd1⟩ := hd.register_decorator h1
    simpa using ih hd1 h2

/-- A decorator on a key without a provider fails as an unknown provider, after beginning and
leaving the provider's build: only the identity counter moves. -/
theorem registerDecorator_unknown {d : Nat} {key : String} {fn : Value} {w : World}
    (hf : fn.isInvocable = true)
    (h0 : (w.injector.cache .providers).find? (key ++ "_provider") = none) :
    registerDecorator (knot (d + 1)) key fn w =
      .error (.fault (.unknownProvider
          ((key ++ "_provider") :: w.injector.providerPath ++ w.injector.instancePath)))
        { w with injector := { w.injector with nextCell := w.injector.nextCell + 1 } } := by
  unfold registerDecorator
  simp only [hf, Bool.not_true, Bool.false_eq_true, if_false]
  change (getWith (knot d) .providers (key ++ "_provider") >>= _) w = _
  rw [bind_run_error (getWith_providers_of_absent h0), State.leave_begin h0]

/-! ## The first resolution of a decorated key -/

/-- The first resolution of a decorated key is the decorated run between the beginning and the
leaving of its build. -/
theorem getWith_decoratedRun {depth : Nat} {key : String} {p r : Value} {ds : List Value}
    {w : World} (hne : ds ≠ []) (hd : Decorated w key p r ds)
    (h0 : (w.injector.cache .instances).find? key = none) :
    getWith (knot (depth + 2 * ds.length + 1)) .instances key w =
      ensuring (do
          let v ← decoratedRun depth r p ds
          settle .instances key w.injector.nextCell v
          pure v)
        (leave .instances key w.injector.nextCell)
        { w with injector := w.injector.begin .instances key } := by
  obtain ⟨i, hi⟩ := hd.provider
  have htable : w.injector.decorated.find? (·.1 == key) = some (key, decorateAll r p ds) := by
    simpa [List.isEmpty_iff, hne] using hd.table
  rw [getWith_decorated h0 hi hd.isProvider htable, invokeWith_decorateAll]

/-- A provider whose resolver returns its value, decorated twice, resolves to that value. -/
example : (match (do
      register (knot 1) (.provider "a" (.providerFunc (.invocable [] (.yield (.int 7)))))
      [Value.invocable ["_delegate"] (.yield .nil), .invocable ["_delegate"] (.yield .nil)].forM
        fun fn => register (knot 1) (.decorator "a" fn)
      getWith (knot 6) .instances "a" : Run Value) {} with
    | .ok (.int 7) _ => true
    | _ => false) = true := by
  decide

theorem getWith_decoratedRun_error {depth : Nat} {key : String} {p r : Value} {ds : List Value}
    {w w2 : World} {e : Interrupt} (hne : ds ≠ []) (hd : Decorated w key p r ds)
    (h0 : (w.injector.cache .instances).find? key = none)
    (he : decoratedRun depth r p ds { w with injector := w.injector.begin .instances key } =
      .error e w2) :
    getWith (knot (depth + 2 * ds.length + 1)) .instances key w =
      .error e { w2 with injector := w2.injector.leave .instances key w.injector.nextCell } := by
  rw [getWith_decoratedRun hne hd h0]
  exact ensuring_run_error (bind_run_error he)

theorem State.leave_own_pending {s : State} {t : Tier} {key : String} {n : Nat}
    (h : (s.cache t).find? key = some ⟨n, .pending⟩) :
    ((s.leave t key n).cache t).find? key = none := by
  rw [State.leave_of_pending h]
  simp

/-! ## The laws of decoration -/

/-- Decoration of a key, from the registration of its provider to its first resolution. -/
structure DecorationLaws (key : String) : Prop where
  /-- Registering the key's provider through a provider, a factory, a value or a service leaves
  the provider resolved and discards every earlier decorator. -/
  provide : ∀ (k : Knot) (reg : Registration) (w w' : World), reg.providerKey? = some key →
    register k reg w = .ok () w' → ∃ p r, Decorated w' key p r []
  /-- Decorators registered one after another stack, in registration order, around the resolver
  of the key's provider. -/
  stack : ∀ (d : Nat) (p r : Value) (ds fns : List Value) (w w' : World), Decorated w key p r ds →
    (fns.forM fun fn => register (knot (d + 1)) (.decorator key fn)) w = .ok () w' →
    ∃ r', Decorated w' key p r' (ds ++ fns)
  /-- The first resolution of a decorated key invokes the provider's resolver once, with the
  provider as receiver, then each decorator in registration order with `_delegate` bound to that
  instance, and settles and returns the instance. -/
  resolve : ∀ (depth : Nat) (p r : Value) (ds : List Value) (w : World), ds ≠ [] →
    Decorated w key p r ds → (w.injector.cache .instances).find? key = none →
    getWith (knot (depth + 2 * ds.length + 1)) .instances key w =
      ensuring (do
          let v ← decoratedRun depth r p ds
          settle .instances key w.injector.nextCell v
          pure v)
        (leave .instances key w.injector.nextCell)
        { w with injector := w.injector.begin .instances key }
  /-- A failure of the resolver or of any decorator aborts the resolution with that failure; when
  the failed run registered nothing for the key, the key is left without an entry. -/
  abort : ∀ (depth : Nat) (p r : Value) (ds : List Value) (w w2 : World) (e : Interrupt),
    ds ≠ [] → Decorated w key p r ds → (w.injector.cache .instances).find? key = none →
    decoratedRun depth r p ds { w with injector := w.injector.begin .instances key } = .error e w2 →
    (w2.injector.cache .instances).find? key = some ⟨w.injector.nextCell, .pending⟩ →
    ∃ w', getWith (knot (depth + 2 * ds.length + 1)) .instances key w = .error e w' ∧
      (w'.injector.cache .instances).find? key = none
  /-- A decorator on a key without a provider fails as an unknown provider and leaves both caches
  and the decorations as they were. -/
  unknown : ∀ (d : Nat) (fn : Value) (w : World), fn.isInvocable = true →
    (w.injector.cache .providers).find? (key ++ "_provider") = none →
    register (knot (d + 1)) (.decorator key fn) w =
      .error (.fault (.unknownProvider
          ((key ++ "_provider") :: w.injector.providerPath ++ w.injector.instancePath)))
        { w with injector := { w.injector with nextCell := w.injector.nextCell + 1 } }

/-- **Decorators compose in registration order.** A key's provider registration discards its
decorators; decorators registered after it nest around the provider's resolver; the first
resolution runs the resolver once and then the decorators in registration order on that instance,
which it returns, and a failure anywhere aborts it without resolving the key; a decorator on a key
without a provider is refused as an unknown provider and changes nothing. -/
theorem decorators_compose_in_order (key : String) : DecorationLaws key where
  provide _ _ _ _ hreg h := Decorated.of_register hreg h
  stack _ _ _ _ fns _ _ hd h := hd.register_decorators fns h
  resolve _ _ _ _ _ hne hd h0 := getWith_decoratedRun hne hd h0
  abort _ _ _ _ _ _ _ hne hd h0 he hpend :=
    ⟨_, getWith_decoratedRun_error hne hd h0 he, State.leave_own_pending hpend⟩
  unknown _ _ _ hf h0 := registerDecorator_unknown hf h0

/-- Registering `k` as the value one leaves it provided with no decorators; a decorator on `j`,
which has no provider, is refused. -/
theorem value_provided_decorator_refused :
    (∃ w', register (knot 1) (.value "k" (.int 1)) {} = .ok () w' ∧
      ∃ p r, Decorated w' "k" p r []) ∧
    (Value.invocable [] .nothing).isInvocable = true ∧
    (({} : World).injector.cache .providers).find? ("j" ++ "_provider") = none ∧
    register (knot 1) (.decorator "j" (.invocable [] .nothing)) {} =
      .error (.fault (.unknownProvider (("j" ++ "_provider") ::
          ({} : World).injector.providerPath ++ ({} : World).injector.instancePath)))
        { ({} : World) with injector :=
          { ({} : World).injector with nextCell := ({} : World).injector.nextCell + 1 } } :=
  have hreg : register (knot 1) (.value "k" (.int 1)) {} =
      .ok () (Result.world (register (knot 1) (.value "k" (.int 1)) {})) := rfl
  ⟨⟨_, hreg, (decorators_compose_in_order "k").provide _ _ _ _ rfl hreg⟩, rfl, rfl,
    (decorators_compose_in_order "j").unknown 0 _ {} rfl rfl⟩

end Bindery.Injector
