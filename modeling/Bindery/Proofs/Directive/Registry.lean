import Bindery.Proofs.Injector.Decoration

/-!
# What a directive registry records

A directive registry keeps, for each name, the factories registered under it. Registering a
factory either is refused, when the name is empty or the factory is nil, and then changes nothing,
or appends the factory to its name's list; the first registration of a name also adds the name
last and registers the name's service with the injector. Registering several entries registers
them in ascending name order and stops at the first refusal.

So after any sequence of registrations the registry records the log of the accepted ones: each
name once, in the order of its first registration, with its factories in the order they were
registered; a name is present exactly when it was registered, and the names come out sorted.

* `DirectiveRegistry.Records`: the registry records a log of registrations.
* `World.withDirective`: the world after an accepted registration.
* `RegistryCall`: a registration of one factory or of several entries, and what it accepts.
* `RegistrationLaws`: the laws of one registration, of several, and of what the registry records.

Main statement: `RegistryCall.runAll_records`.
-/

namespace Bindery

open Injector Run

/-! ## The factories a registry records -/

namespace DirectiveRegistry

/-- The registry with one more factory under a name: appended to the name's own list, the name
being added last when it is new. -/
def add (r : DirectiveRegistry) (name : String) (factory : Value) : DirectiveRegistry :=
  if r.has name then
    { r with factories := r.factories.map fun (n, fs) =>
        if n == name then (n, fs ++ [factory]) else (n, fs) }
  else { r with factories := r.factories ++ [(name, [factory])] }

/-- A registry records a log of registrations: it holds each logged name once and no other name,
and under each name the factories logged with it, in the order they were logged. -/
structure Records (r : DirectiveRegistry) (log : List (String × Value)) : Prop where
  nodup : (r.factories.map (·.1)).Nodup
  mem_iff : ∀ n, n ∈ r.factories.map (·.1) ↔ n ∈ log.map (·.1)
  factoriesOf_eq : ∀ n, r.factoriesOf n = (log.filter (·.1 == n)).map (·.2)

theorem has_iff (r : DirectiveRegistry) (n : String) :
    r.has n = true ↔ n ∈ r.factories.map (·.1) := by
  simp [has]

/-- With each name held once, the factories of a held name are those of its entry. -/
theorem factoriesOf_of_mem {r : DirectiveRegistry} {n : String} {fs : List Value}
    (hnd : (r.factories.map (·.1)).Nodup) (h : (n, fs) ∈ r.factories) : r.factoriesOf n = fs := by
  cases hf : r.factories.find? (·.1 == n) with
  | none => exact absurd (List.find?_eq_none.mp hf _ h) (by simp)
  | some e =>
    have he : e.1 = n := by simpa using List.find?_some hf
    have heq : e = (n, fs) := List.inj_on_of_nodup_map hnd (List.mem_of_find?_eq_some hf) h he
    simp [factoriesOf, hf, heq]

theorem factoriesOf_of_not_mem {r : DirectiveRegistry} {n : String}
    (h : n ∉ r.factories.map (·.1)) : r.factoriesOf n = [] := by
  have hf : r.factories.find? (·.1 == n) = none := by
    rw [List.find?_eq_none]
    intro e he hn
    exact h (List.mem_map.mpr ⟨e, he, by simpa using hn⟩)
  simp [factoriesOf, hf]

theorem records_empty (r : DirectiveRegistry) (h : r.factories = []) : Records r [] where
  nodup := by simp [h]
  mem_iff n := by simp [h]
  factoriesOf_eq n := by simp [factoriesOf, h]

variable {r : DirectiveRegistry} {log : List (String × Value)} {n : String} {f : Value}

theorem Records.mem_log (h : Records r log) (hn : r.has n = true) : n ∈ log.map (·.1) :=
  (h.mem_iff n).mp ((has_iff r n).mp hn)

/-- A registration that finds its name grows that name's entry by the factory. -/
theorem factories_add_of_has (hn : r.has n = true) :
    (r.add n f).factories =
      r.factories.map fun (m, gs) => if m == n then (m, gs ++ [f]) else (m, gs) := by
  simp [add, hn]

theorem names_add_of_has (hn : r.has n = true) :
    (r.add n f).factories.map (·.1) = r.factories.map (·.1) := by
  rw [factories_add_of_has hn, List.map_map]
  exact List.map_congr_left fun e _ => by simp only [Function.comp]; split <;> rfl

theorem mem_add_of_has {fs : List Value} (hn : r.has n = true) (hmem : (n, fs) ∈ r.factories) :
    (n, fs ++ [f]) ∈ (r.add n f).factories := by
  rw [factories_add_of_has hn]
  exact List.mem_map.mpr ⟨(n, fs), hmem, by simp⟩

/-- A registration that finds its name leaves the entries of the other names as they were. -/
theorem mem_add_of_ne {m : String} (hn : r.has n = true) (hm : m ≠ n) (gs : List Value) :
    (m, gs) ∈ (r.add n f).factories ↔ (m, gs) ∈ r.factories := by
  rw [factories_add_of_has hn, List.mem_map]
  constructor
  · rintro ⟨⟨m', gs'⟩, hmem', he⟩
    by_cases hm' : m' = n
    · simp [hm'] at he
      exact absurd he.1.symm hm
    · simp [hm'] at he
      rwa [← he.1, ← he.2]
  · intro hmg
    exact ⟨(m, gs), hmg, by simp [hm]⟩

/-- A registration that finds its name appends the factory to the name's list. -/
theorem Records.add_present (h : Records r log) (hn : r.has n = true) :
    Records (r.add n f) (log ++ [(n, f)]) := by
  obtain ⟨⟨n', fs⟩, hmem, rfl⟩ := List.mem_map.mp ((has_iff r n).mp hn)
  have hnames := names_add_of_has (f := f) hn
  have hnd : ((r.add n' f).factories.map (·.1)).Nodup := by rw [hnames]; exact h.nodup
  refine ⟨hnd, fun m => ?_, fun m => ?_⟩
  · rw [hnames, h.mem_iff m]
    simp only [List.map_append, List.map_cons, List.map_nil, List.mem_append, List.mem_singleton]
    exact ⟨Or.inl, fun hm => hm.elim id fun hm => hm ▸ h.mem_log hn⟩
  · by_cases hm : m = n'
    · -- the name's own list has grown by the factory
      subst hm
      rw [factoriesOf_of_mem hnd (mem_add_of_has hn hmem), ← factoriesOf_of_mem h.nodup hmem,
        h.factoriesOf_eq m]
      simp
    · -- any other name's list is as it was
      have hlog : (log ++ [(n', f)]).filter (·.1 == m) = log.filter (·.1 == m) := by
        simp [List.filter_append, Ne.symm hm]
      rw [hlog, ← h.factoriesOf_eq m]
      by_cases hin : m ∈ r.factories.map (·.1)
      · obtain ⟨⟨m', gs⟩, hmg, rfl⟩ := List.mem_map.mp hin
        rw [factoriesOf_of_mem hnd ((mem_add_of_ne hn hm gs).mpr hmg),
          factoriesOf_of_mem h.nodup hmg]
      · rw [factoriesOf_of_not_mem hin, factoriesOf_of_not_mem (by rwa [hnames])]

/-- The first registration of a name adds it last, with the factory. -/
theorem Records.add_new (h : Records r log) (hn : r.has n = false) :
    Records (r.add n f) (log ++ [(n, f)]) := by
  have hnot : n ∉ r.factories.map (·.1) := fun hm => by simp [(has_iff r n).mpr hm] at hn
  have hfactories : (r.add n f).factories = r.factories ++ [(n, [f])] := by simp [add, hn]
  have hnd : ((r.add n f).factories.map (·.1)).Nodup := by
    rw [hfactories, List.map_append]
    exact h.nodup.append (by simp) (by simpa using hnot)
  refine ⟨hnd, fun m => ?_, fun m => ?_⟩
  · rw [hfactories]
    simp [h.mem_iff m]
  · by_cases hm : m = n
    · subst hm
      have hlog : log.filter (·.1 == m) = [] := by
        rw [List.filter_eq_nil_iff]
        intro e he hem
        exact (h.mem_iff m).not.mp hnot (List.mem_map.mpr ⟨e, he, by simpa using hem⟩)
      have hadded : (m, [f]) ∈ (r.add m f).factories := by simp [hfactories]
      rw [factoriesOf_of_mem hnd hadded]
      simp [List.filter_append, hlog]
    · have hlog : (log ++ [(n, f)]).filter (·.1 == m) = log.filter (·.1 == m) := by
        simp [List.filter_append, Ne.symm hm]
      rw [hlog, ← h.factoriesOf_eq m]
      simp [factoriesOf, hfactories, List.find?_append, Ne.symm hm]

/-- Every accepted registration extends what the registry records by itself. -/
theorem Records.add (h : Records r log) : Records (r.add n f) (log ++ [(n, f)]) := by
  cases hn : r.has n
  · exact h.add_new hn
  · exact h.add_present hn

/-- The names a registry lists come out sorted. -/
theorem names_sorted (r : DirectiveRegistry) : r.names.Pairwise (· ≤ ·) := by
  have h := @List.pairwise_mergeSort _ (fun a b : String => decide (a ≤ b))
    (fun a b c hab hbc => by simpa using le_trans (by simpa using hab) (by simpa using hbc))
    (fun a b => by simpa using le_total a b) (r.factories.map (·.1))
  exact h.imp fun hab => by simpa using hab

theorem Records.nodup_names (h : Records r log) : r.names.Nodup :=
  h.nodup.mergeSort

theorem Records.mem_names (h : Records r log) (n : String) : n ∈ r.names ↔ n ∈ log.map (·.1) := by
  rw [names, List.mem_mergeSort, h.mem_iff n]

theorem Records.has_iff (h : Records r log) (n : String) : r.has n = true ↔ n ∈ log.map (·.1) := by
  rw [DirectiveRegistry.has_iff, h.mem_iff n]

end DirectiveRegistry

/-! ## One registration -/

namespace Directive

/-- Whether a registration is accepted: its name is not empty and its factory is not nil. -/
def accepts (name : String) (factory : Value) : Bool :=
  !name.isEmpty && !(factory matches .nil)

/-- The factory of a directive name's service: it describes the name's directives through the
injector it is given. -/
def serviceFactory (id : Nat) (name : String) : Value := .invocable ["_injector"] (.describe id name)

end Directive

/-- The injector with the service of a directive name registered: the service's factory stored
as the provider of its key, and the key's decorations dropped. -/
def Injector.State.withService (s : State) (id : Nat) (name : String) : State :=
  let key := Directive.serviceKey name
  { State.setCache ({ s with nextCell := s.nextCell + 1 } : State) .providers
      ((s.cache .providers).put (key ++ "_provider")
        ⟨s.nextCell, .resolved (.factoryProvider (Directive.serviceFactory id name))⟩) with
    decorated := s.decorated.filter (·.1 != key) }

/-- The world after an accepted registration: the registry adds the factory, and the first
registration of the name registers its service. -/
def World.withDirective (w : World) (id : Nat) (name : String) (factory : Value) : World :=
  let r := w.registries[id]?.getD {}
  { w with
    registries := w.registries.set! id (r.add name factory)
    injector := if r.has name then w.injector else w.injector.withService id name }

namespace Directive

theorem registryAt_run (id : Nat) (w : World) :
    registryAt id w = .ok (w.registries[id]?.getD {}) w := rfl

theorem setRegistry_run (id : Nat) (r : DirectiveRegistry) (w : World) :
    setRegistry id r w = .ok () { w with registries := w.registries.set! id r } := rfl

theorem registryAt_setRegistry {w : World} {id : Nat} (hid : id < w.registries.size)
    (r : DirectiveRegistry) : (w.registries.set! id r)[id]?.getD {} = r := by
  simp [Array.set!_eq_setIfInBounds, hid]

/-- Registering a name's service never fails. -/
theorem registerFactory_service (k : Knot) (id : Nat) (name : String) (w : World) :
    Injector.registerFactory k (serviceKey name) (serviceFactory id name) w =
      .ok () { w with injector := w.injector.withService id name } := by
  simp only [Injector.registerFactory, serviceFactory, Value.isInvocable, Bool.not_true,
    Bool.false_eq_true, if_false, Injector.registerProvider, Value.isProvider, pure_bind]
  rw [bind_run_ok (store_run _ _ _ _), modifyState_run]
  rfl

variable {k : Knot} {id : Nat} {name : String} {factory : Value} {w : World}

/-- A registration with an empty name is refused, and changes nothing. -/
theorem registerWith_empty (hn : name.isEmpty = true) :
    registerWith k id name factory w =
      .error (.fault (Fault.because .invalidDirective "empty name")) w := by
  simp only [registerWith, hn, if_true]
  rfl

/-- A registration of a nil factory is refused, and changes nothing. -/
theorem registerWith_nil (hn : name.isEmpty = false) :
    registerWith k id name .nil w =
      .error (.fault (Fault.because .invalidDirective (Text.quoted name ++ " has nil factory"))) w := by
  simp only [registerWith, hn, Bool.false_eq_true, if_false]
  rfl

/-- An accepted registration adds the factory, and registers the name's service when the name is
new. -/
theorem registerWith_accepted (hid : id < w.registries.size) (hn : name.isEmpty = false)
    (hf : factory ≠ .nil) :
    registerWith k id name factory w = .ok () (w.withDirective id name factory) := by
  simp only [registerWith, hn, Bool.false_eq_true, if_false]
  rw [bind_run_ok (registryAt_run id w)]
  set r := w.registries[id]?.getD {} with hr
  cases hhas : r.has name
  · -- a new name: the registry first takes the name with no factory, then the service is
    -- registered, then the factory is appended
    simp only [Bool.not_false, if_true]
    rw [show Value.invocable ["_injector"] (.describe id name) = serviceFactory id name from rfl,
      bind_run_ok (setRegistry_run _ _ _),
      bind_run_ok (attempt_run_ok (registerFactory_service k id name _))]
    simp only
    rw [bind_run_ok (registryAt_run id _), registryAt_setRegistry hid, setRegistry_run]
    have hkeep : ∀ e ∈ r.factories,
        (if (e.1 == name) = true then (e.1, e.2 ++ [factory]) else (e.1, e.2)) = e := by
      intro e he
      have hne : e.1 ≠ name := fun h => by
        simp [(DirectiveRegistry.has_iff r name).mpr (List.mem_map.mpr ⟨e, he, h⟩)] at hhas
      simp [hne]
    simp only [World.withDirective, ← hr, hhas, DirectiveRegistry.add, Bool.false_eq_true,
      if_false, Array.set!_eq_setIfInBounds, Array.setIfInBounds_setIfInBounds, List.map_append,
      List.map_congr_left hkeep, List.map_id']
    simp
  · -- a known name: the factory is appended to its list
    simp only [Bool.not_true, Bool.false_eq_true, if_false]
    rw [bind_run_ok (registryAt_run id w), setRegistry_run]
    simp only [World.withDirective, ← hr, hhas, DirectiveRegistry.add, if_true]

theorem accepts_iff : accepts name factory = true ↔ name.isEmpty = false ∧ factory ≠ .nil := by
  cases factory <;> simp [accepts]

/-- A registration that is not accepted is refused with an invalid-directive fault, and changes
nothing. -/
theorem registerWith_refused (h : accepts name factory = false) :
    ∃ msg, registerWith k id name factory w =
      .error (.fault (Fault.because .invalidDirective msg)) w := by
  cases hn : name.isEmpty
  · have hf : factory = .nil := by
      by_contra hf
      simp [(accepts_iff).mpr ⟨hn, hf⟩] at h
    exact ⟨_, hf ▸ registerWith_nil hn⟩
  · exact ⟨_, registerWith_empty hn⟩

/-! ## Several registrations -/

/-- Entries in ascending order of their names; entries of one name keep their order. -/
def byName (entries : List (String × Value)) : List (String × Value) :=
  entries.mergeSort fun a b => decide (a.1 ≤ b.1)

theorem byName_sorted (entries : List (String × Value)) :
    (byName entries).Pairwise fun a b => a.1 ≤ b.1 := by
  have h := @List.pairwise_mergeSort _ (fun a b : String × Value => decide (a.1 ≤ b.1))
    (fun a b c hab hbc => by simpa using le_trans (by simpa using hab) (by simpa using hbc))
    (fun a b => by simpa using le_total a.1 b.1) entries
  exact h.imp fun hab => by simpa using hab

theorem byName_perm (entries : List (String × Value)) : (byName entries).Perm entries :=
  List.mergeSort_perm _ _

/-- Registering several entries registers them one by one, in ascending name order. -/
theorem registerAllWith_eq (k : Knot) (id : Nat) (entries : List (String × Value)) :
    registerAllWith k id entries = forM (byName entries) fun e => registerWith k id e.1 e.2 := by
  simp only [registerAllWith, byName, bind_pure_unit]
  exact forIn_yield_eq_forM _ _

end Directive

/-- The world after a log of accepted registrations, one after the other. -/
def World.withDirectives (w : World) (id : Nat) (log : List (String × Value)) : World :=
  log.foldl (fun w e => w.withDirective id e.1 e.2) w

@[simp] theorem World.withDirectives_nil (w : World) (id : Nat) : w.withDirectives id [] = w := rfl

@[simp] theorem World.withDirectives_cons (w : World) (id : Nat) (e : String × Value)
    (log : List (String × Value)) :
    w.withDirectives id (e :: log) = (w.withDirective id e.1 e.2).withDirectives id log := rfl

theorem World.withDirectives_append (w : World) (id : Nat) (log log' : List (String × Value)) :
    w.withDirectives id (log ++ log') = (w.withDirectives id log).withDirectives id log' :=
  List.foldl_append

@[simp] theorem World.size_withDirective (w : World) (id : Nat) (name : String) (factory : Value) :
    (w.withDirective id name factory).registries.size = w.registries.size := by
  simp [World.withDirective, Array.set!_eq_setIfInBounds]

@[simp] theorem World.size_withDirectives (w : World) (id : Nat) (log : List (String × Value)) :
    (w.withDirectives id log).registries.size = w.registries.size := by
  induction log generalizing w with
  | nil => rfl
  | cons e log ih => simp [ih]

namespace Directive

variable {k : Knot} {id : Nat} {w : World}

/-- Registering entries one by one goes through the accepted ones and stops at the first that
is refused, with its refusal. -/
theorem forM_registerWith (l : List (String × Value)) (hid : id < w.registries.size) :
    (l.all (fun e => accepts e.1 e.2) = true →
      forM l (fun e => registerWith k id e.1 e.2) w = .ok () (w.withDirectives id l)) ∧
    (l.all (fun e => accepts e.1 e.2) = false → ∃ msg,
      forM l (fun e => registerWith k id e.1 e.2) w = .error (.fault (Fault.because
        .invalidDirective msg)) (w.withDirectives id (l.takeWhile fun e => accepts e.1 e.2))) := by
  induction l generalizing w with
  | nil => exact ⟨fun _ => rfl, fun h => by simp at h⟩
  | cons e l ih =>
    cases he : accepts e.1 e.2
    · -- the first entry is refused: nothing is registered
      obtain ⟨msg, hmsg⟩ := @registerWith_refused k id e.1 e.2 w he
      refine ⟨fun h => by simp [he] at h, fun _ => ⟨msg, ?_⟩⟩
      rw [List.forM_cons, bind_run_error hmsg]
      simp [he]
    · -- the first entry is registered, and the rest run from there
      obtain ⟨hn, hf⟩ := accepts_iff.mp he
      have hrun := registerWith_accepted (k := k) hid hn hf
      have ih' := ih (w := w.withDirective id e.1 e.2) (by simpa using hid)
      refine ⟨fun h => ?_, fun h => ?_⟩
      · rw [List.forM_cons, bind_run_ok hrun]
        exact ih'.1 (by simp_all)
      · obtain ⟨msg, hmsg⟩ := ih'.2 (by simp_all)
        refine ⟨msg, ?_⟩
        rw [List.forM_cons, bind_run_ok hrun, hmsg]
        simp [he]

end Directive

/-! ## The services of a registry -/

/-- The injector serves a registry's directives under some names: the provider of each name's
service key is the registry's service factory, and the key is not decorated. -/
def Injector.State.Serves (s : State) (id : Nat) (names : List String) : Prop :=
  ∀ n ∈ names, (∃ i, (s.cache .providers).find? (Directive.serviceKey n ++ "_provider") =
      some ⟨i, .resolved (.factoryProvider (Directive.serviceFactory id n))⟩) ∧
    s.decorated.find? (·.1 == Directive.serviceKey n) = none

theorem Directive.serviceKey_inj {a b : String} (h : serviceKey a = serviceKey b) : a = b :=
  (String.append_left_inj _).mp h

namespace Injector.State

variable {s : State} {id : Nat} {name : String}

@[simp] theorem withService_instances : (s.withService id name).cache .instances = s.cache .instances :=
  rfl

/-- Registering a name's service serves the name, and keeps serving the others. -/
theorem Serves.withService {names : List String} (h : s.Serves id names) :
    (s.withService id name).Serves id (names ++ [name]) := by
  intro n hn
  have hprov : ((s.withService id name).cache .providers) = (s.cache .providers).put
      (Directive.serviceKey name ++ "_provider")
      ⟨s.nextCell, .resolved (.factoryProvider (Directive.serviceFactory id name))⟩ := rfl
  have hdec : (s.withService id name).decorated =
      s.decorated.filter (·.1 != Directive.serviceKey name) := rfl
  rw [hprov, hdec, Cache.find?_put]
  by_cases hnm : n = name
  · subst hnm
    refine ⟨⟨_, if_pos rfl⟩, ?_⟩
    rw [List.find?_eq_none]
    intro e he hkey
    simp_all
  · have hkey : Directive.serviceKey n ++ "_provider" ≠ Directive.serviceKey name ++ "_provider" :=
      fun hk => hnm (Directive.serviceKey_inj ((String.append_left_inj _).mp hk))
    obtain ⟨hp, hd⟩ := h n (by simpa [hnm] using hn)
    refine ⟨by rwa [if_neg hkey], ?_⟩
    rw [List.find?_eq_none] at hd ⊢
    intro e he
    exact hd e (List.mem_filter.mp he).1

end Injector.State

/-- What a world keeps for a registry between registrations: the registry exists and records a
log, and the injector serves every logged name. -/
structure World.Keeping (w : World) (id : Nat) (log : List (String × Value)) : Prop where
  exists_registry : id < w.registries.size
  records : (w.registries[id]?.getD {}).Records log
  serves : w.injector.Serves id (log.map (·.1))

namespace World

variable {w : World} {id : Nat} {log : List (String × Value)}

/-- A registry with no factories keeps the empty log. -/
theorem keeping_fresh (hid : id < w.registries.size)
    (h : (w.registries[id]?.getD {}).factories = []) : w.Keeping id [] where
  exists_registry := hid
  records := DirectiveRegistry.records_empty _ h
  serves _ hn := absurd hn (List.not_mem_nil)

/-- An accepted registration extends the log and touches no instance. -/
theorem Keeping.withDirective (h : w.Keeping id log) (name : String) (factory : Value) :
    (w.withDirective id name factory).Keeping id (log ++ [(name, factory)]) ∧
      (w.withDirective id name factory).injector.cache .instances = w.injector.cache .instances := by
  have hreg : (w.withDirective id name factory).registries[id]?.getD {} =
      (w.registries[id]?.getD {}).add name factory :=
    Directive.registryAt_setRegistry h.exists_registry _
  cases hhas : (w.registries[id]?.getD {}).has name
  · -- a new name: its service is registered
    have hinj : (w.withDirective id name factory).injector = w.injector.withService id name := by
      simp [World.withDirective, hhas]
    refine ⟨⟨by simpa using h.exists_registry, hreg ▸ h.records.add, ?_⟩, by rw [hinj]; rfl⟩
    rw [hinj, List.map_append]
    exact h.serves.withService
  · -- a known name: the injector already serves it
    have hinj : (w.withDirective id name factory).injector = w.injector := by
      simp [World.withDirective, hhas]
    refine ⟨⟨by simpa using h.exists_registry, hreg ▸ h.records.add, ?_⟩, by rw [hinj]⟩
    rw [hinj, List.map_append]
    intro n hn
    rcases List.mem_append.mp hn with hn | hn
    · exact h.serves n hn
    · rw [List.mem_singleton.mp hn]
      exact h.serves name (h.records.mem_log hhas)

theorem Keeping.withDirectives (h : w.Keeping id log) (log' : List (String × Value)) :
    (w.withDirectives id log').Keeping id (log ++ log') ∧
      (w.withDirectives id log').injector.cache .instances = w.injector.cache .instances := by
  induction log' generalizing w log with
  | nil => simpa using h
  | cons e log' ih =>
    obtain ⟨h1, hc1⟩ := h.withDirective e.1 e.2
    obtain ⟨h2, hc2⟩ := ih h1
    refine ⟨by simpa using h2, ?_⟩
    rw [withDirectives_cons, hc2, hc1]

end World

/-! ## Sequences of registrations -/

/-- A call on a directive registry: one factory under a name, or several entries at once. -/
inductive RegistryCall where
  | directive (name : String) (factory : Value)
  | directives (entries : List (String × Value))

namespace RegistryCall

/-- Runs a call on the registry `id`. -/
def run (k : Knot) (id : Nat) : RegistryCall → Run Unit
  | .directive name factory => Directive.registerWith k id name factory
  | .directives entries => Directive.registerAllWith k id entries

/-- The registrations a call is accepted for, in the order it makes them: a lone registration
when it is accepted; of several entries in name order, those before the first refused one. -/
def accepted : RegistryCall → List (String × Value)
  | .directive name factory => if Directive.accepts name factory then [(name, factory)] else []
  | .directives entries =>
    (Directive.byName entries).takeWhile fun e => Directive.accepts e.1 e.2

/-- Runs calls one after the other; a refused call leaves the world where it stopped. -/
def runAll (k : Knot) (id : Nat) (calls : List RegistryCall) (w : World) : World :=
  calls.foldl (fun w c => Result.world (c.run k id w)) w

variable {k : Knot} {id : Nat} {w : World}

/-- A call ends in the world of the registrations it is accepted for. -/
theorem world_run (hid : id < w.registries.size) (c : RegistryCall) :
    Result.world (c.run k id w) = w.withDirectives id c.accepted := by
  cases c with
  | directive name factory =>
    cases ha : Directive.accepts name factory
    · obtain ⟨msg, hmsg⟩ := @Directive.registerWith_refused k id name factory w ha
      simp [run, accepted, ha, hmsg, Result.world]
    · obtain ⟨hn, hf⟩ := Directive.accepts_iff.mp ha
      simp [run, accepted, ha, Directive.registerWith_accepted hid hn hf, Result.world]
  | directives entries =>
    have hloop := Directive.forM_registerWith (k := k) (Directive.byName entries) hid
    simp only [run, accepted, Directive.registerAllWith_eq]
    cases hall : (Directive.byName entries).all fun e => Directive.accepts e.1 e.2
    · obtain ⟨msg, hmsg⟩ := hloop.2 hall
      rw [hmsg]
      rfl
    · rw [hloop.1 hall, List.takeWhile_eq_self_iff.mpr (by simpa using hall)]
      rfl

theorem runAll_eq (hid : id < w.registries.size) (calls : List RegistryCall) :
    runAll k id calls w = w.withDirectives id (calls.flatMap accepted) := by
  induction calls generalizing w with
  | nil => rfl
  | cons c calls ih =>
    have hw := world_run (k := k) hid c
    simp only [runAll, List.foldl_cons, List.flatMap_cons, World.withDirectives_append] at ih ⊢
    rw [hw, ih (by rw [← hw]; simpa [hw] using hid)]

/-- **What a registry records.** Running any sequence of registration calls on a registry that
records `log` leaves it recording `log` followed by the registrations the calls were accepted
for, in order; the injector serves every recorded name through the registry, and no instance
is touched. -/
theorem runAll_records {log : List (String × Value)} (h : w.Keeping id log)
    (calls : List RegistryCall) :
    (runAll k id calls w).Keeping id (log ++ calls.flatMap accepted) ∧
      (runAll k id calls w).injector.cache .instances = w.injector.cache .instances := by
  rw [runAll_eq h.exists_registry]
  exact h.withDirectives _

end RegistryCall

/-! ## The laws of registration -/

/-- The laws of registration on the registry `id`. -/
structure RegistrationLaws (k : Knot) (id : Nat) : Prop where
  /-- A registration with an empty name or a nil factory fails as an invalid directive, and
  changes nothing. -/
  refused : ∀ (name : String) (factory : Value) (w : World),
    Directive.accepts name factory = false →
    ∃ msg, Directive.registerWith k id name factory w =
      .error (.fault (Fault.because .invalidDirective msg)) w
  /-- Any other registration adds the factory under its name. -/
  accepted : ∀ (name : String) (factory : Value) (w : World), id < w.registries.size →
    Directive.accepts name factory = true →
    Directive.registerWith k id name factory w = .ok () (w.withDirective id name factory)
  /-- Several entries are registered one by one, in ascending name order. -/
  inNameOrder : ∀ entries : List (String × Value), Directive.registerAllWith k id entries =
      forM (Directive.byName entries) (fun e => Directive.registerWith k id e.1 e.2) ∧
    (Directive.byName entries).Pairwise (fun a b => a.1 ≤ b.1) ∧
    (Directive.byName entries).Perm entries
  /-- They are all registered, or registration stops at the first refused entry, with its
  refusal. -/
  stopsAtRefusal : ∀ (entries : List (String × Value)) (w : World), id < w.registries.size →
    ((Directive.byName entries).all (fun e => Directive.accepts e.1 e.2) = true →
      Directive.registerAllWith k id entries w =
        .ok () (w.withDirectives id (Directive.byName entries))) ∧
    ((Directive.byName entries).all (fun e => Directive.accepts e.1 e.2) = false → ∃ msg,
      Directive.registerAllWith k id entries w =
        .error (.fault (Fault.because .invalidDirective msg)) (w.withDirectives id
          ((Directive.byName entries).takeWhile fun e => Directive.accepts e.1 e.2)))
  /-- Any sequence of calls extends the log by the registrations they were accepted for, and
  touches no instance. -/
  records : ∀ (w : World) (log : List (String × Value)) (calls : List RegistryCall),
    w.Keeping id log →
    (RegistryCall.runAll k id calls w).Keeping id (log ++ calls.flatMap RegistryCall.accepted) ∧
      (RegistryCall.runAll k id calls w).injector.cache .instances = w.injector.cache .instances
  /-- A registry that records a log has exactly the logged names, lists them sorted and each
  once, and holds under each name the factories logged with it, in order. -/
  reads : ∀ (w : World) (log : List (String × Value)), w.Keeping id log →
    (∀ n, (w.registries[id]?.getD {}).has n = true ↔ n ∈ log.map (·.1)) ∧
    (∀ n, n ∈ (w.registries[id]?.getD {}).names ↔ n ∈ log.map (·.1)) ∧
    (w.registries[id]?.getD {}).names.Pairwise (· ≤ ·) ∧
    (w.registries[id]?.getD {}).names.Nodup ∧
    ∀ n, (w.registries[id]?.getD {}).factoriesOf n = (log.filter (·.1 == n)).map (·.2)

theorem registration_laws (k : Knot) (id : Nat) : RegistrationLaws k id where
  refused _ _ _ h := Directive.registerWith_refused h
  accepted _ _ _ hid h :=
    Directive.registerWith_accepted hid (Directive.accepts_iff.mp h).1
      (Directive.accepts_iff.mp h).2
  inNameOrder entries := ⟨Directive.registerAllWith_eq k id entries,
    Directive.byName_sorted entries, Directive.byName_perm entries⟩
  stopsAtRefusal entries _ hid := by
    rw [Directive.registerAllWith_eq]
    exact Directive.forM_registerWith _ hid
  records _ _ calls h := RegistryCall.runAll_records h calls
  reads _ _ h := ⟨h.records.has_iff, h.records.mem_names, DirectiveRegistry.names_sorted _,
    h.records.nodup_names, h.records.factoriesOf_eq⟩

end Bindery
