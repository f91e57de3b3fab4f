import Bindery.Proofs.Directive.Registry
import Bindery.Proofs.Record.Decode

/-!
# The service of a directive name

The first registration of a directive name registers the name's service with the injector: a
factory that depends on the injector and builds the name's descriptors from the registry. The
factories are read when the service is first resolved, not when it is registered, and the list
built then is memoized like any instance: factories registered afterwards are not in it.

The build produces each factory's directive, in registration order, and describes it at its
position: a constructor is instantiated, a function is invoked, anything else is the directive
itself; a directive object answers for itself, a definition gives its fields with an empty
restriction meaning both positions, a table is decoded as a definition and refused when it has
an entry that is no field of one, and any other value is refused. The first failure fails the
whole build, and then the resolution settles nothing.

* `getWith_service_ok`, `getWith_service_fault`: the first resolution of a service.
* `Directive.buildWith_ok`, `Directive.DescribedAll.named`: a build that returns gives one
  descriptor per factory, named and numbered by position.
* `Directive.describe_table_unknown`: a table with an entry that no field takes is refused, by
  any record decoder that refuses unused entries (`Record.RecordDecoder.RefusesUnused`).
* `ServiceLaws`: the laws of the services, with `RegistrationLaws` those of the registry.

Main statement: `directive_registry_service`.
-/

namespace Bindery

open Injector Run

/-! ## Resolving a service -/

section Resolution

variable {d : Nat} {id : Nat} {name : String} {w : World} {i j : Nat}

/-- The first resolution of a service builds the name's descriptors, three levels further down,
from the world in which the resolution has begun. -/
theorem fallbackWith_service (path : List String)
    (hp : (w.injector.cache .providers).find? (Directive.serviceKey name ++ "_provider") =
      some ⟨i, .resolved (.factoryProvider (Directive.serviceFactory id name))⟩)
    (hdec : w.injector.decorated.find? (·.1 == Directive.serviceKey name) = none)
    (hc : (w.injector.cache .instances).find? "_injector" =
      some ⟨j, .resolved (.container .instances)⟩) :
    fallbackWith (knot (d + 4)) .instances (Directive.serviceKey name) path w =
      Run.recoverPanic (Directive.buildWith Record.decodeRecord (knot d) id name .instances) (fun t =>
        Run.fail (.text ("injector: panic during invocation: " ++ t))) w := by
  rw [fallbackWith_factory (d := d + 1) hp hdec hc]
  unfold referenceBuild referenceInvoke
  -- the service's factory depends on the injector alone, and its call builds the descriptors
  show (resolveDeps (knot (d + 1)).reach ["_injector"] >>= fun args => Run.recoverPanic
    ((knot (d + 1)).call (Directive.serviceFactory id name) .nil args) _) w = _
  rw [bind_run_ok (resolveDeps_container hc)]
  rfl

/-- What the first resolution of a service needs of the injector: the key has no entry yet, its
provider is the registry's service factory, it is not decorated, and the injector is registered
as `_injector`. -/
structure ServiceReady (w : World) (id : Nat) (name : String) : Prop where
  absent : (w.injector.cache .instances).find? (Directive.serviceKey name) = none
  served : w.injector.Serves id [name]
  container : ∃ j, (w.injector.cache .instances).find? "_injector" =
    some ⟨j, .resolved (.container .instances)⟩

/-- The world in which the resolution of a key has begun. -/
def World.begun (w : World) (key : String) : World :=
  { w with injector := w.injector.begin .instances key }

/-- The build of a first resolution runs from the begun world as from the world itself, for the
service's provider and the injector. -/
theorem fallbackWith_begun (h : ServiceReady w id name) (path : List String) :
    fallbackWith (knot (d + 4)) .instances (Directive.serviceKey name) path
        (w.begun (Directive.serviceKey name)) =
      Run.recoverPanic (Directive.buildWith Record.decodeRecord (knot d) id name .instances) (fun t =>
        Run.fail (.text ("injector: panic during invocation: " ++ t)))
        (w.begun (Directive.serviceKey name)) := by
  obtain ⟨⟨i, hp⟩, hdec⟩ := h.served name (List.mem_singleton_self _)
  obtain ⟨j, hc⟩ := h.container
  have hkey : "_injector" ≠ Directive.serviceKey name := by
    rintro hk
    have habsent := h.absent
    rw [← hk, hc] at habsent
    cases habsent
  apply fallbackWith_service (i := i) (j := j)
  · rw [World.begun, State.begin_cache_of_ne (by intro h; cases h)]
    exact hp
  · exact hdec
  · rw [World.begun, State.begin_cache, Cache.find?_put, if_neg hkey]
    exact hc

/-- **The first resolution of a service that builds.** The descriptors built from the begun
world are memoized under the key, and the resolution is left. -/
theorem getWith_service_ok (h : ServiceReady w id name) {v : Value} {w2 : World}
    (hb : Directive.buildWith Record.decodeRecord (knot d) id name .instances (w.begun (Directive.serviceKey name)) =
      .ok v w2) :
    getWith (knot (d + 4)) .instances (Directive.serviceKey name) w =
      .ok v { w2 with injector := ((w2.injector.settle .instances (Directive.serviceKey name)
        w.injector.nextCell v).leave .instances (Directive.serviceKey name)
          w.injector.nextCell) } := by
  have hbuild : buildWith (knot (d + 4)) .instances (Directive.serviceKey name) w.injector.nextCell
      (w.begun (Directive.serviceKey name)) = .ok v { w2 with injector :=
        (w2.injector.settle .instances (Directive.serviceKey name) w.injector.nextCell v) } := by
    unfold buildWith
    rw [state_bind_run, bind_run_ok (recoverPanic_run_ok
      ((fallbackWith_begun h _).trans (recoverPanic_run_ok hb)))]
    rfl
  rw [getWith_of_absent h.absent, leave]
  exact ensuring_run_ok hbuild

/-- **The first resolution of a service that fails.** It fails as the build failed, and it is
left without settling anything. -/
theorem getWith_service_fault (h : ServiceReady w id name) {e : Fault} {w2 : World}
    (hb : Directive.buildWith Record.decodeRecord (knot d) id name .instances (w.begun (Directive.serviceKey name)) =
      .error (.fault e) w2) :
    getWith (knot (d + 4)) .instances (Directive.serviceKey name) w =
      .error (.fault e) { w2 with injector :=
        (w2.injector.leave .instances (Directive.serviceKey name) w.injector.nextCell) } := by
  rw [getWith_of_absent h.absent]
  apply ensuring_run_error
  exact buildWith_of_fault ((fallbackWith_begun h _).trans (recoverPanic_run_fault hb))

end Resolution

/-! ## Building the descriptors -/

section Build

/-- Descriptors described from factories: one for each factory, in order, each what describing
the factory at its position returned. -/
def Directive.DescribedAll (record : Record.RecordDecoder) (k : Knot) (tier : Tier) (name : String)
    (factories : List Value) (ds : List Descriptor) : Prop :=
  List.Forall₂ (fun (p : Value × Nat) d => ∃ w1 w2,
    Directive.describeFactory record k tier name p.1 p.2 w1 = .ok d w2) factories.zipIdx ds

variable {record : Record.RecordDecoder} {k : Knot} {tier : Tier} {id : Nat} {name : String}
  {w w' : World}

/-- A build maps the factories registered under the name, in the world it starts in. -/
theorem Directive.buildWith_run (record : Record.RecordDecoder) (k : Knot) (id : Nat) (name : String)
    (tier : Tier) (w : World) :
    Directive.buildWith record k id name tier w =
      ((((w.registries[id]?.getD {}).factoriesOf name).zipIdx.mapM fun (factory, i) =>
        Directive.describeFactory record k tier name factory i) >>= fun out =>
          pure (Value.descriptors out)) w := by
  unfold Directive.buildWith
  rw [bind_run_ok (Directive.registryAt_run id w)]

/-- A build that returns gives the descriptors of the factories registered under the name. -/
theorem Directive.buildWith_ok {v : Value} (h : Directive.buildWith record k id name tier w = .ok v w') :
    ∃ ds, v = .descriptors ds ∧
      Directive.DescribedAll record k tier name ((w.registries[id]?.getD {}).factoriesOf name) ds := by
  rw [buildWith_run] at h
  obtain ⟨ds, w1, hds, hv⟩ := ok_of_bind h
  cases hv
  exact ⟨ds, rfl, mapM_run_ok hds⟩

/-- A build that stops stops as describing one of the factories stopped. -/
theorem Directive.buildWith_error {e : Interrupt}
    (h : Directive.buildWith record k id name tier w = .error e w') :
    ∃ p ∈ ((w.registries[id]?.getD {}).factoriesOf name).zipIdx, ∃ w1 w2,
      Directive.describeFactory record k tier name p.1 p.2 w1 = .error e w2 := by
  rw [buildWith_run] at h
  rcases bind_run_error_cases h with hds | ⟨ds, w1, -, hv⟩
  · exact mapM_run_error hds
  · cases hv

/-- A build returns when describing each factory returns, from every world. -/
theorem Directive.buildWith_returns
    (h : ∀ p ∈ ((w.registries[id]?.getD {}).factoriesOf name).zipIdx, ∀ w1, ∃ d w2,
      Directive.describeFactory record k tier name p.1 p.2 w1 = .ok d w2) :
    ∃ ds w', Directive.buildWith record k id name tier w = .ok (.descriptors ds) w' := by
  obtain ⟨ds, w', hds⟩ := mapM_run_returns h w
  refine ⟨ds, w', ?_⟩
  rw [buildWith_run, bind_run_ok hds]
  rfl

end Build

/-! ## Describing a directive -/

/-- Whether a produced value describes a directive: a directive object, the application
directive, a definition by address or by value, or a table. -/
def Value.describable : Value → Bool
  | .directive _ | .app | .definition .. | .table _ => true
  | _ => false

section Describe

variable {record : Record.RecordDecoder} {k : Knot} {tier : Tier} {name : String} {i : Nat}
  {w w' : World}

/-- Every descriptor a description returns carries the directive's name and position. -/
theorem Directive.describe_named (record : Record.RecordDecoder) (name : String) (i : Nat)
    (v : Value) :
    Returns (fun d : Descriptor => d.name = name ∧ d.index = i)
      (Directive.describe record name i v) := by
  unfold Directive.describe
  split
  · exact Returns.bind fun _ => Returns.pure' ⟨rfl, rfl⟩
  · exact Returns.pure' ⟨rfl, rfl⟩
  · exact Returns.pure' ⟨rfl, rfl⟩
  · refine Returns.bind fun r => ?_
    cases r with
    | ok fields => exact Returns.pure' ⟨rfl, rfl⟩
    | error p => exact Returns.fail' _ _
  · exact Returns.fail' _ _

theorem Directive.describeFactory_named (record : Record.RecordDecoder) (k : Knot) (tier : Tier)
    (name : String) (factory : Value) (i : Nat) :
    Returns (fun d : Descriptor => d.name = name ∧ d.index = i)
      (Directive.describeFactory record k tier name factory i) :=
  Returns.bind fun r => by cases r <;> exact Returns.bind fun v => describe_named record name i v

/-- A factory described at a position was produced, and its directive then described. -/
theorem Directive.describeFactory_ok {factory : Value} {d : Descriptor}
    (h : Directive.describeFactory record k tier name factory i w = .ok d w') :
    ∃ v w1, Directive.produceWith k tier factory w = .ok v w1 ∧
      Directive.describe record name i v w1 = .ok d w' := by
  unfold Directive.describeFactory at h
  obtain ⟨r, w0, hr, hd⟩ := ok_of_bind h
  -- the production returned: a failure would have been reported instead
  cases r with
  | ok v => exact ⟨v, w0, ok_of_attempt_ok hr, hd⟩
  | error e => cases hd

/-- A factory whose production fails fails the description, with the failure under the
directive's name. -/
theorem Directive.describeFactory_fault {factory : Value} {e : Fault}
    (h : Directive.produceWith k tier factory w = .error (.fault e) w') :
    Directive.describeFactory record k tier name factory i w =
      .error (.fault (.within ("compile: directive " ++ Text.quoted name ++ ": ") e)) w' := by
  unfold Directive.describeFactory
  rw [bind_run_ok (attempt_run_fault h)]
  rfl

theorem Directive.describe_directive (id : Nat) (w : World) :
    Directive.describe record name i (.directive id) w =
      .ok (Descriptor.ofObject name i (w.directives[id]?.getD { restrict := ⟨0⟩ })) w := rfl

theorem Directive.describe_definition (d : Definition) (byAddress : Bool) (w : World) :
    Directive.describe record name i (.definition d byAddress) w =
      .ok (Descriptor.ofDefinition name i d) w :=
  rfl

/-- An empty restriction means both positions. -/
theorem Descriptor.restrict_ofDefinition_empty {d : Definition} (h : d.restrict = "") :
    (Descriptor.ofDefinition name i d).restrict = .both := by
  simp [Descriptor.ofDefinition, h]

/-- A value that describes no directive is refused. -/
theorem Directive.describe_refused {v : Value} (h : v.describable = false) (w : World) :
    Directive.describe record name i v w = .error (.fault (Fault.because .invalidDirective
      (Text.quoted name ++ " produced " ++ v.typeName))) w := by
  cases v <;> first | rfl | cases h

/-- A definition table with an entry that names no field of a definition, even up to case, is
refused, by a record decoder that refuses unused entries. -/
theorem Directive.describe_table_unknown
    (hrecord : record.RefusesUnused Directive.definitionOptions Directive.definitionSchema)
    {id : Nat} {key : String} (hk : key ∈ (w.tables[id]?.getD []).map Prod.fst)
    (hnone : ∀ f ∈ Directive.definitionSchema, Text.equalFold key f.name = false) :
    ∃ msg w', Directive.describe record name i (.table id) w =
      .error (.fault (Fault.because .invalidDirective msg)) w' := by
  obtain ⟨p, w', hrun⟩ := hrecord id w key hk hnone
  unfold Directive.describe
  dsimp only
  rw [bind_run_ok hrun]
  exact ⟨_, _, rfl⟩

/-- Descriptors described from factories carry the name, and are numbered by position. -/
theorem Directive.DescribedAll.named {fs : List Value} {ds : List Descriptor}
    (h : Directive.DescribedAll record k tier name fs ds) :
    (∀ d ∈ ds, d.name = name) ∧ ds.map (·.index) = List.range fs.length := by
  have hnamed : List.Forall₂
      (fun (p : Value × Nat) (d : Descriptor) => d.name = name ∧ d.index = p.2) fs.zipIdx ds :=
    h.imp fun p d ⟨w1, w2, hd⟩ => describeFactory_named record k tier name p.1 p.2 w1 d w2 hd
  constructor
  · -- every descriptor stands against the factory at its position
    intro d hd
    obtain ⟨i, rfl⟩ := List.mem_iff_get.mp hd
    have hi : i.1 < fs.zipIdx.length := by rw [hnamed.length_eq]; exact i.2
    exact (hnamed.get hi i.2).1
  · -- the positions of the factories are the numbers below their count
    have hindex : List.Forall₂ (· = ·) (fs.zipIdx.map Prod.snd) (ds.map (·.index)) := by
      rw [List.forall₂_map_left_iff, List.forall₂_map_right_iff]
      exact hnamed.imp fun _ _ hd => hd.2.symm
    rw [List.forall₂_eq_eq_eq] at hindex
    rw [← hindex, List.zipIdx_eq_zip_range', List.map_snd_zip (by simp), List.range_eq_range']

end Describe

/-! ## The registry and its services -/

/-- After registrations from a world that keeps a log, the service of every registered name is
ready for its first resolution, when the injector is registered and the name's key has no
instance. -/
theorem RegistryCall.runAll_ready {k : Knot} {id : Nat} {w : World} {log : List (String × Value)}
    (h : w.Keeping id log)
    (hc : ∃ j, (w.injector.cache .instances).find? "_injector" =
      some ⟨j, .resolved (.container .instances)⟩)
    (calls : List RegistryCall) {name : String}
    (hn : name ∈ (log ++ calls.flatMap RegistryCall.accepted).map (·.1))
    (habsent : (w.injector.cache .instances).find? (Directive.serviceKey name) = none) :
    ServiceReady (RegistryCall.runAll k id calls w) id name := by
  obtain ⟨hkeep, hcache⟩ := RegistryCall.runAll_records (k := k) h calls
  refine ⟨by rw [hcache]; exact habsent, fun n hn' => hkeep.serves n ?_,
    by rw [hcache]; exact hc⟩
  rw [List.mem_singleton.mp hn']
  exact hn

/-- The laws of the services of the registry `id`: when a service is ready, its first resolution
builds the descriptors of the factories registered under the name at that moment, and each
factory is described from the directive it produces. -/
structure ServiceLaws (id : Nat) : Prop where
  /-- Registrations make the services of the registered names ready. -/
  ready : ∀ (k : Knot) (w : World) (log : List (String × Value)) (calls : List RegistryCall)
    (name : String), w.Keeping id log →
    (∃ j, (w.injector.cache .instances).find? "_injector" =
      some ⟨j, .resolved (.container .instances)⟩) →
    name ∈ (log ++ calls.flatMap RegistryCall.accepted).map (·.1) →
    (w.injector.cache .instances).find? (Directive.serviceKey name) = none →
    ServiceReady (RegistryCall.runAll k id calls w) id name
  /-- A first resolution whose build returns gives one descriptor for each factory registered
  under the name, in registration order, each with the name and its position, and memoizes
  them under the key. -/
  builds : ∀ (d : Nat) (w : World) (name : String), ServiceReady w id name → ∀ v w2,
    Directive.buildWith Record.decodeRecord (knot d) id name .instances (w.begun (Directive.serviceKey name)) =
      .ok v w2 →
    getWith (knot (d + 4)) .instances (Directive.serviceKey name) w =
      .ok v { w2 with injector := ((w2.injector.settle .instances (Directive.serviceKey name)
        w.injector.nextCell v).leave .instances (Directive.serviceKey name)
          w.injector.nextCell) } ∧
    ∃ ds, v = .descriptors ds ∧
      Directive.DescribedAll Record.decodeRecord (knot d) .instances name
        ((w.registries[id]?.getD {}).factoriesOf name) ds ∧
      (∀ x ∈ ds, x.name = name) ∧
      ds.map (·.index) = List.range ((w.registries[id]?.getD {}).factoriesOf name).length
  /-- The build returns when describing each factory returns. -/
  total : ∀ (d : Nat) (w : World) (name : String),
    (∀ p ∈ ((w.registries[id]?.getD {}).factoriesOf name).zipIdx, ∀ w1, ∃ x w2,
      Directive.describeFactory Record.decodeRecord (knot d) .instances name p.1 p.2 w1 = .ok x w2) →
    ∃ ds w2, Directive.buildWith Record.decodeRecord (knot d) id name .instances w = .ok (.descriptors ds) w2
  /-- A first resolution whose build fails fails as describing one of the factories failed, and
  is left without settling the key: its pending entry is dropped. -/
  fails : ∀ (d : Nat) (w : World) (name : String), ServiceReady w id name → ∀ e w2,
    Directive.buildWith Record.decodeRecord (knot d) id name .instances (w.begun (Directive.serviceKey name)) =
      .error (.fault e) w2 →
    getWith (knot (d + 4)) .instances (Directive.serviceKey name) w =
      .error (.fault e) { w2 with injector :=
        (w2.injector.leave .instances (Directive.serviceKey name) w.injector.nextCell) } ∧
    ((w2.injector.cache .instances).find? (Directive.serviceKey name) =
        some ⟨w.injector.nextCell, .pending⟩ →
      ((w2.injector.leave .instances (Directive.serviceKey name) w.injector.nextCell).cache
        .instances).find? (Directive.serviceKey name) = none) ∧
    ∃ p ∈ ((w.registries[id]?.getD {}).factoriesOf name).zipIdx, ∃ w1 w3,
      Directive.describeFactory Record.decodeRecord (knot d) .instances name p.1 p.2 w1 =
        .error (.fault e) w3
  /-- A factory is described from the directive it produces. -/
  produced : ∀ (record : Record.RecordDecoder) (k : Knot) (tier : Tier) (name : String) (factory : Value) (i : Nat) (w : World)
    (x : Descriptor) (w' : World),
    Directive.describeFactory record k tier name factory i w = .ok x w' →
    ∃ v w1, Directive.produceWith k tier factory w = .ok v w1 ∧
      Directive.describe record name i v w1 = .ok x w'
  /-- A production that fails fails the description, under the directive's name. -/
  productionFails : ∀ (record : Record.RecordDecoder) (k : Knot) (tier : Tier) (name : String)
    (factory : Value) (i : Nat) (w : World) (e : Fault) (w' : World),
    Directive.produceWith k tier factory w = .error (.fault e) w' →
    Directive.describeFactory record k tier name factory i w =
      .error (.fault (.within ("compile: directive " ++ Text.quoted name ++ ": ") e)) w'
  /-- A directive object answers for itself. -/
  object : ∀ (record : Record.RecordDecoder) (name : String) (i oid : Nat) (w : World),
    Directive.describe record name i (.directive oid) w =
      .ok (Descriptor.ofObject name i (w.directives[oid]?.getD { restrict := ⟨0⟩ })) w
  /-- A definition gives its fields, an empty restriction meaning both positions. -/
  definition : ∀ (record : Record.RecordDecoder) (name : String) (i : Nat) (d : Definition)
    (byAddress : Bool) (w : World),
    Directive.describe record name i (.definition d byAddress) w =
      .ok (Descriptor.ofDefinition name i d) w ∧
    (d.restrict = "" → (Descriptor.ofDefinition name i d).restrict = .both)
  /-- A table with an entry that names no field of a definition, even up to case, is refused,
  when the record decoder refuses unused entries. -/
  unknownEntry : ∀ (record : Record.RecordDecoder),
    record.RefusesUnused Directive.definitionOptions Directive.definitionSchema →
    ∀ (name : String) (i : Nat) (w : World) (tid : Nat) (key : String),
    key ∈ (w.tables[tid]?.getD []).map Prod.fst →
    (∀ f ∈ Directive.definitionSchema, Text.equalFold key f.name = false) →
    ∃ msg w', Directive.describe record name i (.table tid) w =
      .error (.fault (Fault.because .invalidDirective msg)) w'
  /-- Any other value is refused. -/
  other : ∀ (record : Record.RecordDecoder) (name : String) (i : Nat) (v : Value) (w : World),
    v.describable = false →
    Directive.describe record name i v w = .error (.fault (Fault.because .invalidDirective
      (Text.quoted name ++ " produced " ++ v.typeName))) w

theorem service_laws (id : Nat) : ServiceLaws id where
  ready _ _ _ calls _ h hc hn habsent := RegistryCall.runAll_ready h hc calls hn habsent
  builds _ _ _ h _ _ hb := by
    obtain ⟨ds, rfl, hds⟩ := Directive.buildWith_ok hb
    exact ⟨getWith_service_ok h hb, ds, rfl, hds, hds.named⟩
  total _ _ _ h := Directive.buildWith_returns h
  fails _ _ _ h _ _ hb := by
    -- the build reads the registry of the begun world, which is the world's own
    have hfactory := Directive.buildWith_error hb
    exact ⟨getWith_service_fault h hb, State.leave_own_pending, hfactory⟩
  produced _ _ _ _ _ _ _ _ _ h := Directive.describeFactory_ok h
  productionFails _ _ _ _ _ _ _ _ _ h := Directive.describeFactory_fault h
  object _ _ _ oid w := Directive.describe_directive oid w
  definition _ _ _ d byAddress w :=
    ⟨Directive.describe_definition d byAddress w, Descriptor.restrict_ofDefinition_empty⟩
  unknownEntry _ hrecord _ _ _ _ _ hk hnone := Directive.describe_table_unknown hrecord hk hnone
  other _ _ _ _ w h := Directive.describe_refused h w

/-- **The directive registry and its services.** Registrations are refused exactly when the
name is empty or the factory nil, and then change nothing; several entries are registered in
ascending name order up to the first refusal; the registry records the accepted registrations,
its names sorted. The first resolution of a name's service builds one descriptor for each factory
registered under the name before it, in order, named and numbered, each described from the
directive its factory produces, or fails as one factory failed and settles nothing. -/
theorem directive_registry_service (k : Knot) (id : Nat) :
    RegistrationLaws k id ∧ ServiceLaws id :=
  ⟨registration_laws k id, service_laws id⟩

/-- A world whose table 0 is the definition `{"bogus": 1}`. -/
def bogusDefinitionWorld : World := { tables := #[[("bogus", .int 1)]] }

/-- The library's record decoder refuses unused entries of a definition, so the definition
`{"bogus": 1}` is refused. -/
theorem bogus_definition_refused :
    Record.RecordDecoder.RefusesUnused Record.decodeRecord Directive.definitionOptions
      Directive.definitionSchema ∧
    ∃ msg w', Directive.describe Record.decodeRecord "d" 0 (.table 0) bogusDefinitionWorld =
      .error (.fault (Fault.because .invalidDirective msg)) w' :=
  have hrecord := Record.decodeRecord_refusesUnused Directive.definitionOptions
    Directive.definitionSchema rfl fun _ => rfl
  ⟨hrecord, (directive_registry_service machine 0).2.unknownEntry Record.decodeRecord hrecord "d" 0
    bogusDefinitionWorld 0 "bogus" (by decide) (by decide)⟩

end Bindery
