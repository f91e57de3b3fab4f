import Bindery.Injector.Load
import Bindery.Proofs.Injector.Bookkeeping
import Bindery.Proofs.Injector.Registration

/-!
# The bookkeeping across an injector's life

Registration and loading keep the books as resolution does (`Bookkeeping`), and so does every
operation an injector offers at the top level. Tied around any calling function that reaches the
injector only through the entry points it is given, an injector therefore keeps its bookkeeping at
every depth, however its operations end.

Main statement: `injector_books_balanced`. Every entry point and every top-level operation keeps
the books; an injector built from a fresh state is at rest, with no pending entry, after any
session of operations; a failed resolution of a key with no entry leaves no entry of its own, and
one that returns leaves its key resolved with the value.
-/

namespace Bindery.Injector

/-! ## Registration -/

section Registration

open Run

variable {k : Knot}

/-- A change of the injector's state that keeps every cache, path and the identity counter keeps
the books: the decorations and the loaded modules are not part of them. -/
theorem keeps_modifyState {f : State → State} (hc : ∀ s t, (f s).cache t = s.cache t)
    (hp : ∀ s t, (f s).path t = s.path t) (hn : ∀ s, (f s).nextCell = s.nextCell) :
    Keeps books (modifyState f) :=
  Keeps.modify' fun w => books_of_agree (hc w.injector) (hp w.injector) (hn w.injector)

theorem keeps_constant (key : String) (v : Value) : Keeps books (constant key v) :=
  Keeps.bind (keeps_store _ _ _) fun _ => keeps_store _ _ _

/-- Registration's primitive steps keep the books: stores go through the books' own store,
decorations and directive registries are not part of the books, and allocation touches only the
objects. Registration, directive registration, queued calls and configuration blocks therefore keep
the books whenever the entry points do. -/
theorem KeepsBooks.primitives (hk : KeepsBooks k) : PrimitivesKeep books k where
  get := hk.get
  invoke := hk.invoke
  call := hk.call
  store := keeps_store
  decorate _ :=
    keeps_modifyState (fun _ t => by cases t <;> rfl) (fun _ t => by cases t <;> rfl) fun _ => rfl
  registries _ := Keeps.modify' fun _ => books_of_injector_eq rfl
  allocate := keeps_allocate

end Registration

/-! ## Building an injector -/

section Loading

open Run

variable {k : Knot}

theorem keeps_prepare : Keeps books prepare :=
  Keeps.bind (keeps_store _ _ _) fun _ => Keeps.bind (keeps_store _ _ _) fun _ => keeps_store _ _ _

/-- Loading modules keeps the books, by induction on the requirement depth left. -/
theorem keeps_loadWith (hk : KeepsBooks k) (registry : Registry) (fuel : Nat) :
    ∀ entries, Keeps books (loadWith k registry fuel entries) := by
  induction fuel with
  | zero =>
    intro entries
    unfold loadWith
    exact Keeps.pure' _
  | succ fuel ih =>
    intro entries
    unfold loadWith
    refine Keeps.bind (Keeps.forIn' fun entry _ blocks => ?_) fun _ => Keeps.pure' _
    extract_lets blocks'
    split
    · -- a module name: loaded once; its requirements, queue and configuration blocks in turn
      refine Keeps.bind keeps_state fun s => Keeps.ite' (Keeps.pure' _) ?_
      refine Keeps.bind (keeps_modifyState (fun _ t => by cases t <;> rfl) (fun _ t => by cases t <;> rfl)
        fun _ => rfl) fun _ => ?_
      split
      · refine Keeps.bind (ih _) fun _ => ?_
        extract_lets
        refine Keeps.bind (Keeps.forIn' fun _ _ _ =>
          Keeps.bind (hk.primitives.applyQueued _ _) fun _ => Keeps.pure' _) fun _ => ?_
        refine Keeps.bind (Keeps.forIn' fun _ _ _ =>
          Keeps.bind (hk.primitives.applyConfig _ _) fun _ => Keeps.pure' _) fun _ => ?_
        exact Keeps.pure' _
      · exact Keeps.bind (Keeps.fail' _) fun _ => Keeps.pure' _
    · -- anything else is an inline configuration, invoked on the provider tier
      extract_lets keepResult
      have hkeep : ∀ u, Keeps books (keepResult u) := by
        intro u
        unfold keepResult
        refine Keeps.bind (Keeps.attempt (hk.invoke _ _ _ _)) fun res => ?_
        split
        · exact Keeps.ite' (Keeps.pure' _) (Keeps.pure' _)
        · exact Keeps.bind (Keeps.fail' _) fun _ => Keeps.pure' _
      exact Keeps.ite' (Keeps.bind (Keeps.fail' _) hkeep) (hkeep ())

/-- Building an injector keeps the books: the well-known keys are stored, the modules loaded, and
the run blocks invoked. -/
theorem keeps_newWith (hk : KeepsBooks k) (registry : Registry) (entries : List Value) :
    Keeps books (newWith k registry entries) := by
  unfold newWith
  refine Keeps.bind keeps_prepare fun _ => Keeps.bind (keeps_loadWith hk _ _ _) fun blocks => ?_
  refine Keeps.bind (Keeps.forIn' fun block _ _ => ?_) fun _ => Keeps.pure' _
  refine Keeps.bind (Keeps.attempt (hk.invoke _ _ _ _)) fun res => ?_
  split
  · exact Keeps.pure' _
  · exact Keeps.bind (Keeps.fail' _) fun _ => Keeps.pure' _

end Loading

/-! ## Sessions -/

/-- The operations an injector offers at the top level. -/
inductive Operation where
  | get (t : Tier) (key : String)
  | has (t : Tier) (key : String)
  | invoke (t : Tier) (fn receiver : Value) (locals : Locals)
  | instantiate (t : Tier) (c : Ctor) (locals : Locals)
  | register (r : Registration)

/-- Runs an operation against the entry points `k`, dropping its value. -/
def Operation.run (k : Knot) : Operation → Run Unit
  | .get t key => do let _ ← k.get t key
  | .has t key => do let _ ← hasOn t key
  | .invoke t fn receiver locals => do let _ ← k.invoke t fn receiver locals
  | .instantiate t c locals => do let _ ← instantiateWith k t c locals
  | .register r => Injector.register k r

/-- Runs operations one after another; an operation that stops early stops only itself. -/
def session (k : Knot) (ops : List Operation) : Run Unit :=
  ops.forM fun op => tryCatch (op.run k) fun _ => pure ()

section Sessions

open Run

variable {k : Knot}

theorem keeps_hasOn (t : Tier) (key : String) : Keeps books (hasOn t key) :=
  Keeps.bind keeps_state fun _ => Keeps.pure' _

theorem keeps_run (hk : KeepsBooks k) (op : Operation) : Keeps books (op.run k) := by
  cases op with
  | get t key => exact Keeps.bind (hk.get t key) fun _ => Keeps.pure' _
  | has t key => exact Keeps.bind (keeps_hasOn t key) fun _ => Keeps.pure' _
  | invoke t fn receiver locals =>
    exact Keeps.bind (hk.invoke t fn receiver locals) fun _ => Keeps.pure' _
  | instantiate t c locals =>
    exact Keeps.bind (keeps_instantiateWith hk t c locals) fun _ => Keeps.pure' _
  | register r => exact hk.primitives.register r

theorem keeps_session (hk : KeepsBooks k) (ops : List Operation) : Keeps books (session k ops) :=
  Keeps.forM' fun op _ => Keeps.tryCatch (keeps_run hk op) fun _ => Keeps.pure' _

/-- A fresh injector is at rest. -/
theorem AtRest.empty : AtRest {} := by
  refine ⟨fun t => ⟨?_, fun key i hk => ?_, fun key hk => ?_, fun key c hk => ?_⟩, fun t => ?_⟩ <;>
    cases t <;> simp_all [State.path, State.cache, Cache.find?]

/-- What keeps the books keeps an injector at rest. -/
theorem AtRest.of_books {w w' : World} (h : books.rel w w') (hr : AtRest w.injector) :
    AtRest w'.injector :=
  ⟨(h hr.1).1, fun t => ((h hr.1).2.path_eq t).trans (hr.2 t)⟩

end Sessions

/-! ## The bookkeeping claims -/

/-- The bookkeeping of an injector whose entry points are `k`. -/
structure BooksBalanced (k : Knot) : Prop where
  /-- Every entry point keeps the books, so the bookkeeping is sound whenever control passes
  to a calling function or back. -/
  entries : KeepsBooks k
  /-- Every top-level operation keeps the books. -/
  operations : ∀ op : Operation, Run.Keeps books (op.run k)
  /-- Building an injector keeps the books. -/
  build : ∀ registry entries, Run.Keeps books (newWith k registry entries)
  /-- An injector built from a fresh state is at rest after any session: no key is being built
  and no entry is pending. -/
  rest : ∀ registry entries ops (w : World), w.injector = {} →
    let w' := Run.Result.world ((do newWith k registry entries; session k ops) w)
    AtRest w'.injector ∧ ∀ t key i, (w'.injector.cache t).find? key ≠ some ⟨i, .pending⟩
  /-- A resolution of a key with no entry that fails leaves no entry of its own: the key has no
  entry, or one a registration made during the attempt. -/
  failed : ∀ t key (w w' : World) e, Sound w.injector → (w.injector.cache t).find? key = none →
    getWith k t key w = .error e w' →
    (w'.injector.cache t).find? key = none ∨
      Newer (w.injector.nextCell + 1) ((w'.injector.cache t).find? key)
  /-- A resolution that returns leaves its key resolved with the value, unless a registration
  made during the resolution replaced the entry. -/
  resolved : ∀ t key (w w' : World) v, Sound w.injector → getWith k t key w = .ok v w' →
    (∃ i, (w'.injector.cache t).find? key = some ⟨i, .resolved v⟩) ∨
      Newer w.injector.nextCell ((w'.injector.cache t).find? key)

/-- **The books balance.** Tied around a calling function that keeps the books whenever the entry
points it is given do (the user's functions reach the injector only through its operations), an
injector keeps its bookkeeping at every depth: every operation, however it ends, keeps each tier's
path free of repeats with every pending entry on it, ends with the paths it started with, and
changes an entry only by a newer registration or by settling its own build; a fresh injector is at
rest after any session; a failed resolution drops its own entry, while entries resolved meanwhile
stay as they are. -/
theorem injector_books_balanced {call : Knot → Value → Value → List Value → Run Value}
    (hcall : CallKeepsBooks call) (depth : Nat) : BooksBalanced (knotOf call depth) := by
  have hk := keepsBooks_knotOf hcall depth
  refine ⟨hk, keeps_run hk, keeps_newWith hk, fun registry entries ops w hw => ?_,
    fun t key w w' e hs h0 h => getWith_error_of_absent hk hs h0 h,
    fun t key w w' v hs h => getWith_ok hk hs h⟩
  have hr : AtRest w.injector := hw ▸ AtRest.empty
  have hrun := Run.Keeps.bind (keeps_newWith hk registry entries) (fun _ => keeps_session hk ops) w
  have hr' := AtRest.of_books hrun hr
  exact ⟨hr', hr'.not_pending⟩

/-- A user's function that registers a constant, invokes a function and then panics. -/
def registeringCall (k : Knot) (fn receiver : Value) (_args : List Value) : Run Value := do
  constant "registered" .nil
  let _ ← k.invoke .instances fn receiver []
  Run.panicWith "user panic"

theorem registeringCall_keepsBooks : CallKeepsBooks registeringCall := fun _ hk _ _ _ =>
  Run.Keeps.bind (keeps_constant _ _) fun _ =>
    Run.Keeps.bind (hk.invoke _ _ _ _) fun _ => Run.Keeps.panicWith' _

theorem registering_books_balanced :
    CallKeepsBooks registeringCall ∧ BooksBalanced (knotOf registeringCall 3) :=
  ⟨registeringCall_keepsBooks, injector_books_balanced registeringCall_keepsBooks 3⟩

end Bindery.Injector
