import Bindery.Injector.Load
import Bindery.Proofs.Run.Keeps

/-!
# What registration keeps

Registrations, directive registrations, a module's queued calls and its configuration blocks
change the world only through a few primitive steps: stores into a cache, changes of the
decorations and of the directive registries, allocation of objects, and resolution, invocation
and calls through the entry points. Whatever those steps keep, all of these keep.

Main statements: `PrimitivesKeep.applyQueued` and `PrimitivesKeep.applyConfig`.
-/

namespace Bindery.Injector

open Run

/-- The entry points of a knot keep a guarantee. -/
structure EntriesKeep (g : Guarantee) (k : Knot) : Prop where
  get : ∀ t key, Keeps g (k.get t key)
  invoke : ∀ t fn receiver locals, Keeps g (k.invoke t fn receiver locals)
  call : ∀ fn receiver args, Keeps g (k.call fn receiver args)

/-- Invocation keeps what the entry points keep: its dependencies are locals or resolutions,
then the function is called. -/
theorem EntriesKeep.invokeWith {g : Guarantee} {k : Knot} (h : EntriesKeep g k) (t : Tier)
    (fn receiver : Value) (locals : Locals) :
    Keeps g (Injector.invokeWith k t fn receiver locals) := by
  unfold Injector.invokeWith
  refine Keeps.bind (Keeps.ofExcept' _) fun tokens => ?_
  refine Keeps.bind (Keeps.mapM' fun token _ => ?_) fun args => ?_
  · -- a blank name is refused; otherwise the dependency is a local or a resolution
    dsimp only
    refine Keeps.ite' (Keeps.bind (Keeps.fail' _) fun _ => ?_) ?_ <;> split
    · exact Keeps.pure' _
    · exact h.get _ _
    · exact Keeps.pure' _
    · exact h.get _ _
  · exact Keeps.recoverPanic (h.call _ _ _) fun _ => Keeps.fail' _

/-- A guarantee kept by the entry points and by every primitive step of registration. -/
structure PrimitivesKeep (g : Guarantee) (k : Knot) : Prop extends EntriesKeep g k where
  store : ∀ t key v, Keeps g (store t key v)
  decorate : ∀ f : State → List (String × Value),
    Keeps g (modifyState fun s => { s with decorated := f s })
  registries : ∀ f : World → Array DirectiveRegistry,
    Keeps g (modify fun w => { w with registries := f w } : Run Unit)
  allocate : ∀ m, Keeps g (allocate m)

namespace PrimitivesKeep

variable {g : Guarantee} {k : Knot}

theorem readState : Keeps g state := Keeps.bind Keeps.get' fun _ => Keeps.pure' _

theorem resolverOf (p : Value) : Keeps g (Injector.resolverOf p) := by
  unfold Injector.resolverOf
  split
  · exact Keeps.bind (Keeps.bind Keeps.get' fun _ => Keeps.pure' _) fun _ => Keeps.pure' _
  · exact Keeps.pure' _
  · exact Keeps.pure' _
  · exact Keeps.pure' _
  · exact Keeps.pure' _
  · exact Keeps.pure' _
  · exact Keeps.panicWith' _
  · exact Keeps.pure' _

theorem resolverFor (key : String) (p : Value) : Keeps g (Injector.resolverFor key p) := by
  unfold Injector.resolverFor
  refine Keeps.bind readState fun s => ?_
  split
  · exact Keeps.pure' _
  · exact resolverOf p

theorem instantiateWith (h : PrimitivesKeep g k) (t : Tier) (c : Ctor) (locals : Locals) :
    Keeps g (Injector.instantiateWith k t c locals) := by
  unfold Injector.instantiateWith
  split
  · exact Keeps.fail' _
  · exact Keeps.bind (h.allocate _) fun _ =>
      Keeps.bind (h.toEntriesKeep.invokeWith _ _ _ _) fun _ => Keeps.pure' _

theorem registerProvider (h : PrimitivesKeep g k) (key : String) (p : Value) :
    Keeps g (Injector.registerProvider k key p) := by
  unfold Injector.registerProvider
  extract_lets jp
  -- the provider check, then the store and the dropped decorations
  have hjp : ∀ p, Keeps g (jp p) := by
    intro p
    simp only [jp]
    refine Keeps.ite' (Keeps.bind (Keeps.fail' _) fun _ => ?_) ?_ <;>
      exact Keeps.bind (h.store _ _ _) fun _ => h.decorate _
  -- a constructor is instantiated on the provider tier first
  split
  · refine Keeps.bind (Keeps.attempt (h.instantiateWith _ _ _)) fun r => ?_
    split
    · exact Keeps.bind (Keeps.pure' _) hjp
    · exact Keeps.bind (Keeps.fail' _) hjp
  · exact Keeps.bind (Keeps.pure' _) hjp

theorem registerFactory (h : PrimitivesKeep g k) (key : String) (fn : Value) :
    Keeps g (Injector.registerFactory k key fn) := by
  unfold Injector.registerFactory
  exact Keeps.ite' (Keeps.bind (Keeps.fail' _) fun _ => h.registerProvider _ _)
    (h.registerProvider _ _)

theorem registerDecorator (h : PrimitivesKeep g k) (key : String) (fn : Value) :
    Keeps g (Injector.registerDecorator k key fn) := by
  unfold Injector.registerDecorator
  extract_lets jp
  -- after the check of the decorator: its key's provider, checked, and its current resolver
  have hjp : ∀ u, Keeps g (jp u) := by
    intro u
    simp only [jp]
    refine Keeps.bind (h.get _ _) fun provider => ?_
    refine Keeps.ite' (Keeps.bind (Keeps.fail' _) fun _ => ?_) ?_ <;>
      exact Keeps.bind (resolverFor _ _) fun _ => h.decorate _
  exact Keeps.ite' (Keeps.bind (Keeps.fail' _) hjp) (hjp ())

theorem register (h : PrimitivesKeep g k) (r : Registration) : Keeps g (Injector.register k r) := by
  cases r with
  | constant key v => exact Keeps.bind (h.store _ _ _) fun _ => h.store _ _ _
  | provider key p => exact h.registerProvider key p
  | factory key fn => exact h.registerFactory key fn
  | value key v => exact h.registerFactory key (.invocable [] (.yield v))
  | service key c => exact h.registerFactory key (.invocable ["_injector"] (.instantiate c))
  | decorator key fn => exact h.registerDecorator key fn

theorem registerWith (h : PrimitivesKeep g k) (id : Nat) (name : String) (factory : Value) :
    Keeps g (Directive.registerWith k id name factory) := by
  have hat : Keeps g (Directive.registryAt id) := Keeps.bind Keeps.get' fun _ => Keeps.pure' _
  have hset : ∀ r, Keeps g (Directive.setRegistry id r) := fun _ => h.registries _
  unfold Directive.registerWith
  -- the join points, last first: the factory appended, the service registered for a new name,
  -- and the check for a nil factory
  extract_lets append registerNew checkNil
  have happend : ∀ u, Keeps g (append u) := fun _ => Keeps.bind hat fun _ => hset _
  have hregisterNew : ∀ u, Keeps g (registerNew u) := by
    intro u
    unfold registerNew
    refine Keeps.bind hat fun r => Keeps.ite' ?_ (happend ())
    refine Keeps.bind (hset _) fun _ => ?_
    refine Keeps.bind (Keeps.attempt (h.registerFactory _ _)) fun res => ?_
    split
    · exact happend ()
    · exact Keeps.bind hat fun _ => Keeps.bind (hset _) fun _ => Keeps.bind (Keeps.fail' _) happend
  have hcheckNil : ∀ u, Keeps g (checkNil u) := by
    intro u
    unfold checkNil
    exact Keeps.ite' (Keeps.bind (Keeps.fail' _) hregisterNew) (hregisterNew ())
  exact Keeps.ite' (Keeps.bind (Keeps.fail' _) hcheckNil) (hcheckNil ())

/-- A queued call keeps what the primitive steps keep: a registration against the registration
surface, or a directive against the directive registry. -/
theorem applyQueued (h : PrimitivesKeep g k) (module : String) (q : Queued) :
    Keeps g (Injector.applyQueued k module q) := by
  unfold Injector.applyQueued
  split
  · refine Keeps.bind (Keeps.attempt (h.get _ _)) fun res => ?_
    extract_lets registerIt checkTarget
    have hregister : ∀ u, Keeps g (registerIt u) := by
      intro u
      unfold registerIt
      refine Keeps.bind (Keeps.attempt (h.register _)) fun res => ?_
      split
      · exact Keeps.pure' _
      · exact Keeps.fail' _
    have hcheck : ∀ target, Keeps g (checkTarget target) := by
      intro target
      unfold checkTarget
      exact Keeps.ite' (Keeps.bind (Keeps.panicWith' _) hregister) (hregister ())
    split
    · exact Keeps.bind (Keeps.pure' _) hcheck
    · exact Keeps.bind (Keeps.fail' _) hcheck
  · refine Keeps.bind (Keeps.attempt (h.get _ _)) fun res => ?_
    extract_lets registerIn
    have hregister : ∀ target, Keeps g (registerIn target) := by
      intro target
      unfold registerIn
      split
      · refine Keeps.bind (Keeps.attempt (h.registerWith _ _ _)) fun res => ?_
        split
        · exact Keeps.pure' _
        · exact Keeps.fail' _
      · exact Keeps.fail' _
    split
    · exact Keeps.bind (Keeps.pure' _) hregister
    · exact Keeps.bind (Keeps.fail' _) hregister

/-- A configuration block keeps what the entry points keep. -/
theorem applyConfig (h : PrimitivesKeep g k) (module : String) (block : Value) :
    Keeps g (Injector.applyConfig k module block) := by
  unfold Injector.applyConfig
  refine Keeps.bind (Keeps.attempt (h.get _ _)) fun res => ?_
  extract_lets invokeIn
  have hinvoke : ∀ target, Keeps g (invokeIn target) := by
    intro target
    unfold invokeIn
    -- a target that is not a container panics, as the type assertion does
    split
    · refine Keeps.bind (Keeps.attempt (h.invoke _ _ _ _)) fun res => ?_
      split
      · exact Keeps.pure' _
      · exact Keeps.fail' _
    · exact Keeps.panicWith' _
  split
  · exact Keeps.bind (Keeps.pure' _) hinvoke
  · exact Keeps.bind (Keeps.fail' _) hinvoke

end PrimitivesKeep

end Bindery.Injector
