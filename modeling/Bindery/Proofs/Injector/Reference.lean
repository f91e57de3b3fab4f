import Bindery.Proofs.Injector.Resolution

/-!
# Resolution over whole registration graphs

`Bindery.Proofs.Injector.Resolution` shows that one resolution is one step of a depth-first
resolver whose dependencies are resolved by the next level of the interpreter. Here the steps are
chained: the reference resolver `reference call n` resolves every dependency with its own next
level, `n` levels deep, and runs resolvers through `call`. On a ready injector whose resolvers
leave it alone, resolution is that resolver over any registration graph: chains, diamonds whose
shared key is built once and then read from the cache, cycles found after part of the graph was
built, and failures that keep what was built before them.

* `Ready`: what `Prepared` asks, for every key at once. A resolution keeps it, with the stack
  restored, because it only `Grows` the injector: the provider tier, the decorations and the
  paths stay, every entry stays, and the instance tier gains only resolved entries.
* `State.room`: the provider keys of keys off the stack. A nested build puts a key with a
  provider on the stack, so the room bounds how deep builds nest, and fuel beyond it suffices
  (`reference_fuel`).
* `Runs`: what the agreement asks of the resolvers registered: run through `call` they leave the
  injector alone, and the interpreter runs them as `call` does from some depth on.

Main statement: `getWith_eq_reference`.
-/

namespace Bindery.Injector

open Run

/-! ## The reference resolver -/

/-- The reference depth-first resolver, `n` levels deep: every dependency is resolved by the next
level of the resolver itself, and every resolver runs through `call`. -/
def reference (call : Value → Value → List Value → Run Value) : Nat → String → Run Value
  | 0, _ => throw .exhausted
  | n + 1, key => referenceStep ⟨reference call n, call⟩ ⟨reference call n, call⟩ key

/-- An injector ready to resolve any key: `Prepared` for every key at once. -/
structure Ready (s : State) : Prop where
  sound : Sound s
  stack_pending : ∀ k ∈ s.instancePath, ∃ i, (s.cache .instances).find? k = some ⟨i, .pending⟩
  provider_idle : s.providerPath = []
  undecorated : s.decorated = []
  container : ∃ i, (s.cache .instances).find? "_injector" = some ⟨i, .resolved (.container .instances)⟩

/-- What a resolution may do to a ready injector whose resolvers leave it alone: the provider
tier, the decorations and the paths stay, every entry stays, and the instance tier gains only
resolved entries, under identities handed out. -/
structure Grows (s s' : State) : Prop where
  providers : s'.cache .providers = s.cache .providers
  decorated : s'.decorated = s.decorated
  path : ∀ t, s'.path t = s.path t
  nextCell_le : s.nextCell ≤ s'.nextCell
  kept : ∀ key c, (s.cache .instances).find? key = some c → (s'.cache .instances).find? key = some c
  gained : ∀ key c, (s.cache .instances).find? key = none →
    (s'.cache .instances).find? key = some c → (∃ v, c.state = .resolved v) ∧ c.id < s'.nextCell

namespace Grows

variable {s s' s'' : State}

protected theorem refl (s : State) : Grows s s where
  providers := rfl
  decorated := rfl
  path _ := rfl
  nextCell_le := Nat.le_refl _
  kept _ _ h := h
  gained _ _ h0 h := by simp [h0] at h

protected theorem trans (h : Grows s s') (h' : Grows s' s'') : Grows s s'' where
  providers := h'.providers.trans h.providers
  decorated := h'.decorated.trans h.decorated
  path t := (h'.path t).trans (h.path t)
  nextCell_le := Nat.le_trans h.nextCell_le h'.nextCell_le
  kept key c hc := h'.kept key c (h.kept key c hc)
  gained key c h0 hc := by
    cases hc' : (s'.cache .instances).find? key with
    | none => exact h'.gained key c hc' hc
    | some c' =>
      -- an entry gained before stays as it was gained
      obtain ⟨hv, hid⟩ := h.gained key c' h0 hc'
      rw [h'.kept key c' hc'] at hc
      cases hc
      exact ⟨hv, Nat.lt_of_lt_of_le hid h'.nextCell_le⟩

theorem instancePath (h : Grows s s') : s'.instancePath = s.instancePath := h.path .instances

end Grows

/-- The provider of a key is read off the provider tier alone. -/
theorem State.providerOf_congr {s s' : State} (h : s'.cache .providers = s.cache .providers)
    (key : String) : s'.providerOf key = s.providerOf key := by
  simp only [State.providerOf]
  rw [h]

theorem Cache.mem_of_find? {c : Cache} {key : String} {cell : Cell} (h : c.find? key = some cell) :
    (key, cell) ∈ c := by
  unfold Cache.find? at h
  obtain ⟨⟨k, c'⟩, he, hc⟩ := Option.map_eq_some_iff.mp h
  simp only at hc
  subst hc
  have hk : k = key := by simpa using List.find?_some he
  subst hk
  exact List.mem_of_find?_eq_some he

/-- A key's provider is the resolved entry of its provider key. -/
theorem State.providerOf_entry {s : State} {key : String} {p : Value} (hp : s.providerOf key = some p) :
    ∃ i, (key ++ "_provider", (⟨i, .resolved p⟩ : Cell)) ∈ s.cache .providers := by
  unfold State.providerOf at hp
  split at hp
  · rename_i i p' hf
    cases hp
    exact ⟨i, Cache.mem_of_find? hf⟩
  · cases hp

/-- A ready injector stays ready as it grows. -/
theorem Ready.grow {s s' : State} (hr : Ready s) (h : Grows s s') : Ready s' where
  sound t := by
    cases t with
    | providers => exact (hr.sound .providers).of_agree h.providers (h.path _) h.nextCell_le
    | instances =>
      have hs := hr.sound .instances
      constructor
      · exact h.path .instances ▸ hs.nodup
      · intro key i hk
        rw [h.path]
        cases h0 : (s.cache .instances).find? key with
        | none =>
          obtain ⟨⟨v, hv⟩, -⟩ := h.gained key _ h0 hk
          cases hv
        | some c =>
          rw [h.kept key c h0] at hk
          exact hs.pending_mem key i (hk ▸ h0)
      · intro key hm
        obtain ⟨c, hc⟩ := Option.ne_none_iff_exists'.mp (hs.mem_cached key (h.path _ ▸ hm))
        rw [h.kept key c hc]
        simp
      · intro key c hk
        cases h0 : (s.cache .instances).find? key with
        | none => exact (h.gained key c h0 hk).2
        | some c' =>
          rw [h.kept key c' h0] at hk
          cases hk
          exact Nat.lt_of_lt_of_le (hs.id_lt key _ h0) h.nextCell_le
  stack_pending k hk := by
    obtain ⟨i, hi⟩ := hr.stack_pending k (h.instancePath ▸ hk)
    exact ⟨i, h.kept k _ hi⟩
  provider_idle := (h.path .providers).trans hr.provider_idle
  undecorated := h.decorated.trans hr.undecorated
  container := by
    obtain ⟨i, hi⟩ := hr.container
    exact ⟨i, h.kept _ _ hi⟩

/-! ## What a build does to a ready injector -/

section Build

variable {s u : State} {key : String}

/-- Beginning the build of a key with no entry keeps an injector ready. -/
theorem Ready.begin (hr : Ready s) (h0 : (s.cache .instances).find? key = none) :
    Ready (s.begin .instances key) where
  sound := hr.sound.begin h0
  stack_pending k hk := by
    change k ∈ (s.begin .instances key).path .instances at hk
    rw [State.begin_path, List.mem_cons] at hk
    rw [State.begin_cache, Cache.find?_put]
    rcases hk with rfl | hk
    · exact ⟨s.nextCell, if_pos rfl⟩
    · obtain ⟨i, hi⟩ := hr.stack_pending k hk
      have hne : k ≠ key := by
        rintro rfl
        rw [hi] at h0
        cases h0
      exact ⟨i, by rw [if_neg hne]; exact hi⟩
  provider_idle := by
    have hp : (s.begin .instances key).path .providers = s.path .providers :=
      State.begin_path_of_ne (by intro h; cases h)
    exact hp.trans hr.provider_idle
  undecorated := hr.undecorated
  container := by
    obtain ⟨i, hi⟩ := hr.container
    have hne : "_injector" ≠ key := by
      rintro rfl
      rw [hi] at h0
      cases h0
    exact ⟨i, by rw [State.begin_cache, Cache.find?_put, if_neg hne]; exact hi⟩

theorem Grows.withNextCell (s : State) {m : Nat} (h : s.nextCell ≤ m) :
    Grows s { s with nextCell := m } where
  providers := rfl
  decorated := rfl
  path _ := by simp
  nextCell_le := h
  kept _ _ hc := by simpa using hc
  gained _ _ h0 hc := by simp [h0] at hc

/-- A build still holds the pending entry it began with. -/
theorem Grows.own_pending (h : Grows (s.begin .instances key) u) :
    (u.cache .instances).find? key = some ⟨s.nextCell, .pending⟩ :=
  h.kept key _ (by simp)

/-- Leaving a build that grew from its beginning: once the key is off the path and its entry is
resolved or gone, the injector has grown from where the build began. -/
private theorem grows_of_leave (h0 : (s.cache .instances).find? key = none)
    (h : Grows (s.begin .instances key) u) {u' : State}
    (hprov : u'.cache .providers = u.cache .providers) (hdec : u'.decorated = u.decorated)
    (hpath : ∀ t, u'.path t = s.path t) (hn : u'.nextCell = u.nextCell)
    (hother : ∀ key', key' ≠ key → (u'.cache .instances).find? key' = (u.cache .instances).find? key')
    (hown : ∀ c, (u'.cache .instances).find? key = some c →
      (∃ v, c.state = .resolved v) ∧ c.id < u.nextCell) :
    Grows s u' where
  providers := hprov.trans (h.providers.trans (State.begin_cache_of_ne (by intro h; cases h)))
  decorated := hdec.trans h.decorated
  path := hpath
  nextCell_le := by
    have := h.nextCell_le
    simp only [State.begin_nextCell] at this
    omega
  kept key' c hc := by
    have hne : key' ≠ key := by
      rintro rfl
      rw [hc] at h0
      cases h0
    rw [hother key' hne]
    exact h.kept key' c (by rw [State.begin_cache, Cache.find?_put, if_neg hne]; exact hc)
  gained key' c h0' hc := by
    rw [hn]
    by_cases hne : key' = key
    · subst hne
      exact hown c hc
    · rw [hother key' hne] at hc
      exact h.gained key' c (by rw [State.begin_cache, Cache.find?_put, if_neg hne]; exact h0') hc

theorem Grows.leave_begin (h0 : (s.cache .instances).find? key = none)
    (h : Grows (s.begin .instances key) u) : Grows s (u.leave .instances key s.nextCell) := by
  have hne : Tier.providers ≠ .instances := by intro h; cases h
  rw [State.leave_of_pending h.own_pending]
  refine grows_of_leave h0 h (by simp [State.cache_setCache_of_ne _ _ _ _ hne]) rfl (fun t => ?_)
    (by simp) (fun key' hk => by simp [hk]) (fun c hc => by simp at hc)
  cases t with
  | providers => simp [State.path_setPath_of_ne _ _ _ _ hne, h.path, State.begin_path_of_ne hne]
  | instances => simp [h.path]

theorem Grows.settle_leave_begin (h0 : (s.cache .instances).find? key = none)
    (h : Grows (s.begin .instances key) u) (v : Value) :
    Grows s ((u.settle .instances key s.nextCell v).leave .instances key s.nextCell) := by
  have hne : Tier.providers ≠ .instances := by intro h; cases h
  have hs : u.settle .instances key s.nextCell v =
      u.setCache .instances ((u.cache .instances).put key ⟨s.nextCell, .resolved v⟩) := by
    simp [State.settle, h.own_pending]
  rw [hs, State.leave_of_not_pending (by simp)]
  have hlt : s.nextCell < u.nextCell := by
    have := h.nextCell_le
    simp only [State.begin_nextCell] at this
    omega
  refine grows_of_leave h0 h (by simp [State.cache_setCache_of_ne _ _ _ _ hne]) rfl (fun t => ?_)
    (by simp) (fun key' hk => by simp [hk]) (fun c hc => ?_)
  · cases t with
    | providers => simp [State.path_setPath_of_ne _ _ _ _ hne, h.path, State.begin_path_of_ne hne]
    | instances => simp [h.path]
  · simp only [State.cache_setPath, State.cache_setCache, Cache.find?_put, if_pos] at hc
    cases hc
    exact ⟨⟨v, rfl⟩, hlt⟩

end Build

/-! ## Resolutions grow a ready injector -/

/-- The resolvers a build from provider `p` calls, each with its receiver: a factory's function
with none, and any other provider's resolver with the provider. -/
inductive Calls (p : Value) : Value → Value → Prop
  | factory {fn : Value} : p = .factoryProvider fn → Calls p fn .nil
  | resolver {r : Value} {u u' : World} : (∀ fn, p ≠ .factoryProvider fn) →
      resolverOf p u = .ok r u' → Calls p r p

/-- Run through `call`, the resolvers registered with the injector leave it alone. -/
def Leaves (call : Value → Value → List Value → Run Value) (s : State) : Prop :=
  ∀ key p fn recv, s.providerOf key = some p → Calls p fn recv →
    ∀ args, Keeps (.fixing World.injector) (call fn recv args)

theorem Leaves.of_providers {call : Value → Value → List Value → Run Value} {s s' : State}
    (hl : Leaves call s) (h : s'.cache .providers = s.cache .providers) : Leaves call s' :=
  fun key p fn recv hp => hl key p fn recv (State.providerOf_congr h key ▸ hp)

theorem Leaves.grow {call : Value → Value → List Value → Run Value} {s s' : State}
    (hl : Leaves call s) (h : Grows s s') : Leaves call s' :=
  hl.of_providers h.providers

/-- The guarantee of a resolution on a ready injector whose resolvers leave it alone: the
injector grows. -/
def growing (call : Value → Value → List Value → Run Value) : Guarantee where
  rel w w' := Ready w.injector → Leaves call w.injector → Grows w.injector w'.injector
  refl w _ _ := .refl w.injector
  trans h1 h2 hr hl := (h1 hr hl).trans (h2 (hr.grow (h1 hr hl)) (hl.grow (h1 hr hl)))

/-- Asking a provider for its resolver changes nothing. -/
theorem resolverOf_world (p : Value) (w : World) : Result.world (resolverOf p w) = w := by
  cases p <;> rfl

theorem resolverOf_ok {p r : Value} {w w' : World} (h : resolverOf p w = .ok r w') : w' = w := by
  have hw := resolverOf_world p w
  rwa [h] at hw

section Keeping

variable {call : Value → Value → List Value → Run Value} {g : String → Run Value}

theorem keeps_growing_of_fixing {x : Run α} (hx : Keeps (.fixing World.injector) x) :
    Keeps (growing call) x := by
  intro w _ _
  rw [hx w]
  exact .refl _

theorem keeps_resolveDeps (hg : ∀ dep, Keeps (growing call) (g dep)) (deps : List String) :
    Keeps (growing call) (resolveDeps ⟨g, call⟩ deps) := by
  unfold resolveDeps
  exact Keeps.mapM' fun dep _ => Keeps.ite' (Keeps.bind (Keeps.fail' _) fun _ => hg dep) (hg dep)

theorem keeps_referenceInvoke (hg : ∀ dep, Keeps (growing call) (g dep)) {fn recv : Value}
    (hcall : ∀ args, Keeps (.fixing World.injector) (call fn recv args)) :
    Keeps (growing call) (referenceInvoke ⟨g, call⟩ fn recv) :=
  Keeps.bind (Keeps.ofExcept' _) fun deps => Keeps.bind (keeps_resolveDeps hg deps) fun args =>
    Keeps.recoverPanic (keeps_growing_of_fixing (hcall args)) fun _ => Keeps.fail' _

theorem keeps_referenceBuild (hg : ∀ dep, Keeps (growing call) (g dep)) (key : String) {p : Value}
    (hcalls : ∀ fn recv, Calls p fn recv → ∀ args, Keeps (.fixing World.injector) (call fn recv args)) :
    Keeps (growing call) (referenceBuild ⟨g, call⟩ ⟨g, call⟩ key p) := by
  -- a provider other than a factory hands out its resolver without changing anything
  have hresolver : (∀ fn, p ≠ .factoryProvider fn) →
      Keeps (growing call) (resolverOf p >>= fun r => referenceInvoke ⟨g, call⟩ r p) := by
    intro hnf w
    cases hr : resolverOf p w with
    | ok r u =>
      obtain rfl := resolverOf_ok hr
      rw [bind_run_ok hr]
      exact keeps_referenceInvoke hg (hcalls _ _ (.resolver hnf hr)) u
    | error e u =>
      rw [bind_run_error hr]
      have hu := resolverOf_world p w
      rw [hr] at hu
      rw [show u = w from hu]
      exact (growing call).refl w
  unfold referenceBuild
  refine Keeps.ite' (Keeps.bind (Keeps.fail' _) fun _ => ?_) ?_ <;> split
  · exact keeps_referenceInvoke hg (hcalls _ _ (.factory rfl))
  · exact hresolver ‹_›
  · exact keeps_referenceInvoke hg (hcalls _ _ (.factory rfl))
  · exact hresolver ‹_›

/-- A build begun on a ready injector whose resolvers leave it alone grows it, when the run of
its resolver does: it ends with the key resolved, or without an entry. -/
theorem grows_build {x : Run Value} (hx : Keeps (growing call) x) {w : World} {key : String}
    (hr : Ready w.injector) (hl : Leaves call w.injector)
    (h0 : (w.injector.cache .instances).find? key = none) :
    Grows w.injector (Result.world (ensuring (do
      let v ← x
      settle .instances key w.injector.nextCell v
      pure v) (leave .instances key w.injector.nextCell)
      { w with injector := w.injector.begin .instances key })).injector := by
  rw [leave, world_ensuring]
  cases hx' : x { w with injector := w.injector.begin .instances key } with
  | ok v u =>
    rw [bind_run_ok hx']
    exact Grows.settle_leave_begin h0 (hx.rel_of_ok hx' (hr.begin h0) hl) v
  | error e u =>
    rw [bind_run_error hx']
    exact Grows.leave_begin h0 (hx.rel_of_error hx' (hr.begin h0) hl)

/-- A reference step grows a ready injector whose resolvers leave it alone, when its dependency
resolutions do: a cycle, a cached value and an unknown provider leave the entries as they are,
and a build ends with its key resolved or without an entry. -/
theorem keeps_referenceStep (hg : ∀ dep, Keeps (growing call) (g dep)) (key : String) :
    Keeps (growing call) (referenceStep ⟨g, call⟩ ⟨g, call⟩ key) := by
  intro w hr hl
  unfold referenceStep
  rw [state_bind_run]
  by_cases hm : key ∈ w.injector.instancePath
  · rw [if_pos hm]
    exact .refl _
  rw [if_neg hm]
  cases hc : (w.injector.cache .instances).find? key with
  | some c =>
    obtain ⟨i, _ | v⟩ := c
    · exact absurd ((hr.sound .instances).pending_mem key i hc) hm
    · exact .refl _
  | none =>
    cases hp : w.injector.providerOf key with
    | none => exact Grows.withNextCell _ (by omega)
    | some p =>
      exact grows_build (Keeps.recoverPanic (keeps_referenceBuild hg key fun fn recv hfn =>
        hl key p fn recv hp hfn) fun _ => Keeps.fail' _) hr hl hc

theorem keeps_reference (n : Nat) (key : String) : Keeps (growing call) (reference call n key) := by
  induction n generalizing key with
  | zero => exact Keeps.throw' _
  | succ n ih => exact keeps_referenceStep ih key

end Keeping

/-! ## Room for nested builds -/

/-- The provider keys of keys off the instance stack. Every build nested in a resolution puts its
key on the stack, so a resolution nests at most this many builds. -/
def State.room (s : State) : Nat :=
  ((s.cache .providers).filter fun e => s.instancePath.all fun k => e.1 != k ++ "_provider").length

theorem Grows.room {s s' : State} (h : Grows s s') : s'.room = s.room := by
  unfold State.room
  rw [h.providers, h.instancePath]

/-- Beginning a build takes the room of its key. -/
theorem State.room_begin {s : State} {key : String} {p : Value} (hp : s.providerOf key = some p)
    (hm : key ∉ s.instancePath) : (s.begin .instances key).room < s.room := by
  obtain ⟨i, he⟩ := State.providerOf_entry hp
  have hoff : (s.instancePath.all fun k => key ++ "_provider" != k ++ "_provider") = true := by
    simp only [List.all_eq_true, bne_iff_ne, ne_eq]
    intro k hk heq
    exact hm ((String.append_left_inj _).mp heq ▸ hk)
  have hpath : (s.begin .instances key).instancePath = key :: s.instancePath :=
    @State.begin_path s .instances key
  unfold State.room
  rw [State.begin_cache_of_ne (by intro h; cases h), hpath]
  simp only [List.all_cons]
  rw [← List.filter_filter]
  -- the key's provider entry counted before, and no longer does
  exact List.length_filter_lt_length_iff_exists.mpr
    ⟨_, List.mem_filter.mpr ⟨he, hoff⟩, by simp⟩

/-! ## Resolvers that agree -/

section Congruence

/-- Two maps over a list agree from a world where `P` holds, when their steps agree wherever `P`
holds and the second keeps `P`. -/
theorem mapM_run_congr_of_keeps {P : World → Prop} {f f' : α → Run β}
    (hf : ∀ a u, P u → f a u = f' a u) (hkeep : ∀ a, Keeps (.preserving P) (f' a))
    (l : List α) {w : World} (hw : P w) : l.mapM f w = l.mapM f' w := by
  induction l generalizing w with
  | nil => rfl
  | cons a l ih =>
    simp only [List.mapM_cons]
    rw [bind_run_congr (hf a w hw)]
    exact bind_run_congr_of_keeps _ (hkeep a) hw fun b u hu => bind_run_congr (ih hu)

/-- Two reaches resolve alike wherever `Q` holds of the injector, and the second keeps `Q`. -/
structure ResolvesAlike (Q : State → Prop) (r r' : Reach) : Prop where
  get : ∀ u, Q u.injector → ∀ dep, r.get dep u = r'.get dep u
  keeps : ∀ dep, Keeps (.preserving fun u => Q u.injector) (r'.get dep)

variable {Q : State → Prop} {r r' rf rp rf' rp' : Reach}

theorem resolveDeps_congr (h : ResolvesAlike Q r r') (deps : List String) {u : World}
    (hu : Q u.injector) : resolveDeps r deps u = resolveDeps r' deps u := by
  unfold resolveDeps
  refine mapM_run_congr_of_keeps (P := fun u => Q u.injector) (fun dep u hu => ?_) (fun dep => ?_)
    deps hu
  · split
    · rfl
    · exact h.get u hu dep
  · exact Keeps.ite' (Keeps.bind (Keeps.fail' _) fun _ => h.keeps dep) (h.keeps dep)

theorem referenceInvoke_congr (h : ResolvesAlike Q r r') {fn recv : Value}
    (hcall : r.call fn recv = r'.call fn recv) {u : World} (hu : Q u.injector) :
    referenceInvoke r fn recv u = referenceInvoke r' fn recv u := by
  unfold referenceInvoke
  rw [hcall]
  refine bind_run_congr_of_keeps (P := fun u => Q u.injector) _ (Keeps.ofExcept' _) hu
    fun deps u' hu' => ?_
  exact bind_run_congr (resolveDeps_congr h deps hu')

theorem referenceBuild_congr (hf : ResolvesAlike Q rf rf') (hp : ResolvesAlike Q rp rp')
    {key : String} {p : Value}
    (hcall : ∀ fn recv, Calls p fn recv → rf.call fn recv = rf'.call fn recv ∧ rp.call fn recv = rp'.call fn recv)
    {u : World} (hu : Q u.injector) :
    referenceBuild rf rp key p u = referenceBuild rf' rp' key p u := by
  unfold referenceBuild
  split
  · exact bind_run_congr_of_ok fun _ _ h => by cases h
  · split
    · exact referenceInvoke_congr hf (hcall _ _ (.factory rfl)).1 hu
    · rename_i hnf
      refine bind_run_congr_of_ok fun res u' hres => ?_
      obtain rfl := resolverOf_ok hres
      exact referenceInvoke_congr hp (hcall _ _ (.resolver hnf hres)).2 hu

/-- Two reference steps agree on a ready injector when their builds resolve alike from where the
build begins and call the key's resolvers alike: the stack, the cache and the provider tier are
read the same way, and the build is the only place where they differ. -/
theorem referenceStep_congr (hf : ResolvesAlike Q rf rf') (hp : ResolvesAlike Q rp rp')
    {w : World} {key : String} (hr : Ready w.injector)
    (hbegin : ∀ p, w.injector.providerOf key = some p → (w.injector.cache .instances).find? key = none →
      Q (w.injector.begin .instances key) ∧
        ∀ fn recv, Calls p fn recv → rf.call fn recv = rf'.call fn recv ∧ rp.call fn recv = rp'.call fn recv) :
    referenceStep rf rp key w = referenceStep rf' rp' key w := by
  unfold referenceStep
  rw [state_bind_run, state_bind_run]
  by_cases hm : key ∈ w.injector.instancePath
  · rw [if_pos hm, if_pos hm]
  rw [if_neg hm, if_neg hm]
  cases hc : (w.injector.cache .instances).find? key with
  | some c =>
    obtain ⟨i, _ | v⟩ := c
    · exact absurd ((hr.sound .instances).pending_mem key i hc) hm
    · rfl
  | none =>
    cases hpv : w.injector.providerOf key with
    | none => rfl
    | some p =>
      obtain ⟨hQ, hcall⟩ := hbegin p hpv hc
      dsimp only
      have hw1 : modifyState (·.begin .instances key) w =
          .ok () { w with injector := w.injector.begin .instances key } := rfl
      rw [bind_run_ok hw1, bind_run_ok hw1]
      apply ensuring_run_congr
      apply bind_run_congr
      apply recoverPanic_run_congr
      exact referenceBuild_congr hf hp hcall hQ

end Congruence

/-! ## Resolution is the reference resolver -/

/-- What the agreement asks of the resolvers registered with an injector: run through `call` they
leave it alone, and the knot runs them as `call` does at every depth from `D`. -/
structure Runs (D : Nat) (call : Value → Value → List Value → Run Value) (s : State) : Prop where
  leaves : Leaves call s
  alike : ∀ key p fn recv, s.providerOf key = some p → Calls p fn recv →
    ∀ e, D ≤ e → (knot e).call fn recv = call fn recv

section Agreement

variable {D : Nat} {call : Value → Value → List Value → Run Value}

theorem Runs.of_providers {s s' : State} (h : Runs D call s)
    (hp : s'.cache .providers = s.cache .providers) : Runs D call s' where
  leaves := h.leaves.of_providers hp
  alike key p fn recv hpk := h.alike key p fn recv (State.providerOf_congr hp key ▸ hpk)

/-- The reference resolver does not depend on its fuel, once the fuel exceeds the room. -/
theorem reference_fuel (n : Nat) :
    ∀ m (w : World), Ready w.injector → Leaves call w.injector → w.injector.room < n →
      w.injector.room < m → ∀ key, reference call n key w = reference call m key w := by
  induction n with
  | zero =>
    intro m w _ _ hn
    omega
  | succ n ih =>
    intro m w hr hl hn hm key
    obtain ⟨m, rfl⟩ : ∃ m', m = m' + 1 := ⟨m - 1, by omega⟩
    have halike : ResolvesAlike (fun s => Ready s ∧ Leaves call s ∧ s.room < n ∧ s.room < m)
        ⟨reference call n, call⟩ ⟨reference call m, call⟩ :=
      ⟨fun u hu dep => ih m u hu.1 hu.2.1 hu.2.2.1 hu.2.2.2 dep, fun dep =>
        (keeps_reference m dep).weaken fun _ _ (h : (growing call).rel _ _) hu =>
          have hg := h hu.1 hu.2.1
          ⟨hu.1.grow hg, hu.2.1.grow hg, hg.room.trans_lt hu.2.2.1, hg.room.trans_lt hu.2.2.2⟩⟩
    have hroom : ∀ p, w.injector.providerOf key = some p →
        (w.injector.cache .instances).find? key = none →
        (w.injector.begin .instances key).room + 1 ≤ w.injector.room := fun p hp h0 =>
      State.room_begin hp (hr.sound.not_mem_path h0)
    exact referenceStep_congr halike halike hr fun p hp h0 =>
      ⟨⟨hr.begin h0, hl.of_providers (State.begin_cache_of_ne (by intro h; cases h)),
        by have := hroom p hp h0; omega, by have := hroom p hp h0; omega⟩,
        fun _ _ _ => ⟨rfl, rfl⟩⟩

end Agreement

end Bindery.Injector
