import Bindery.Proofs.Injector.Bookkeeping
import Bindery.Proofs.Injector.Registration

/-!
# Loading modules

An injector loads its module list by a depth-first walk of the modules' requirements. Its plan is
a list of steps computed from the registry alone (`loadPlan`): a name not loaded yet is marked
loaded, its module's requirements are planned one level down, and then the module is replayed; a
name loaded already is passed over; any other entry is an inline configuration. Running a plan
(`runLoad`) takes its steps in turn, and the first step that fails ends it.

Main statement: `modules_load_in_order`. For entry points that leave the loaded names alone,
building an injector runs the plan of its module list and then its run blocks, so the depth bound
of the loader never cuts the walk short, whatever cycles the requirements have. The plan marks no
name loaded twice, replays each module at most once, and replays a module only once every module it
requires is loaded or on the way down to it; a module described by calls queues its constants ahead
of its other calls.
-/

namespace Bindery.Injector

open Run

/-! ## The loaded names -/

/-- The guarantee that the loaded module names stay as they are. -/
def loadedKept : Guarantee := .fixing fun w => w.injector.loaded

@[simp] theorem loadedKept_rel {w w' : World} :
    loadedKept.rel w w' ↔ w'.injector.loaded = w.injector.loaded := Iff.rfl

/-- Entry points that leave the loaded names alone keep them through every registration: no
primitive step of registration touches them. -/
theorem EntriesKeep.primitives {k : Knot} (hk : EntriesKeep loadedKept k) :
    PrimitivesKeep loadedKept k where
  toEntriesKeep := hk
  store t _ _ _ := by cases t <;> rfl
  decorate _ _ := rfl
  registries _ _ := rfl
  allocate m _ := by cases m <;> rfl

/-! ## Load plans -/

/-- A step of loading a module list. -/
inductive LoadStep where
  /-- A module name is marked loaded. -/
  | visit (name : String)
  /-- No module has the name: loading fails. -/
  | missing (name : String)
  /-- A module's queued calls are applied and its configuration blocks invoked; its run blocks
  are kept. -/
  | replay (m : Module)
  /-- An inline configuration is invoked; an invocable result is kept as a run block. -/
  | inline (fn : Value)
  /-- An entry that is neither a name nor invocable: loading fails. -/
  | unknown (entry : Value)

/-- The step of a module list entry that is not a name. -/
def LoadStep.ofInline (entry : Value) : LoadStep :=
  if entry.isInvocable then .inline entry else .unknown entry

/-- The names a step marks loaded. -/
def LoadStep.visited : LoadStep → List String
  | .visit name => [name]
  | _ => []

/-- The modules a step replays. -/
def LoadStep.replayed : LoadStep → List Module
  | .replay m => [m]
  | _ => []

@[simp] theorem LoadStep.visited_ofInline (entry : Value) : (LoadStep.ofInline entry).visited = [] := by
  unfold LoadStep.ofInline
  split <;> rfl

@[simp] theorem LoadStep.replayed_ofInline (entry : Value) :
    (LoadStep.ofInline entry).replayed = [] := by
  unfold LoadStep.ofInline
  split <;> rfl

/-- The names steps mark loaded, in order. -/
def visits (steps : List LoadStep) : List String := steps.flatMap LoadStep.visited

/-- The modules steps replay, in order. -/
def replays (steps : List LoadStep) : List Module := steps.flatMap LoadStep.replayed

@[simp] theorem visits_nil : visits [] = [] := rfl

@[simp] theorem visits_cons (s : LoadStep) (steps : List LoadStep) :
    visits (s :: steps) = s.visited ++ visits steps := List.flatMap_cons

@[simp] theorem visits_append (steps steps' : List LoadStep) :
    visits (steps ++ steps') = visits steps ++ visits steps' := List.flatMap_append

@[simp] theorem replays_nil : replays [] = [] := rfl

@[simp] theorem replays_cons (s : LoadStep) (steps : List LoadStep) :
    replays (s :: steps) = s.replayed ++ replays steps := List.flatMap_cons

@[simp] theorem replays_append (steps steps' : List LoadStep) :
    replays (steps ++ steps') = replays steps ++ replays steps' := List.flatMap_append

/-- The steps of loading module list entries, at most `depth` requirement levels deep, when the
names `loaded` are loaded already. A loaded name is passed over; any other name is marked loaded,
then its module's requirements are loaded and the module is replayed. -/
def loadSteps (registry : Registry) : Nat → List String → List Value → List LoadStep
  | 0, _, _ => []
  | _ + 1, _, [] => []
  | depth + 1, loaded, entry :: rest =>
    match entry with
    | .str name =>
      if name ∈ loaded then loadSteps registry (depth + 1) loaded rest
      else
        match registry.lookup? name with
        | none => .visit name :: .missing name :: loadSteps registry (depth + 1) (loaded ++ [name]) rest
        | some m =>
          let inner := loadSteps registry depth (loaded ++ [name]) (m.requires.map .str)
          .visit name :: inner ++
            .replay m :: loadSteps registry (depth + 1) (loaded ++ name :: visits inner) rest
    | entry => .ofInline entry :: loadSteps registry (depth + 1) loaded rest
termination_by depth _ entries => (depth, entries.length)

section Steps

variable {registry : Registry} {depth : Nat} {loaded : List String} {name : String}
  {rest : List Value}

@[simp] theorem loadSteps_zero (loaded : List String) (entries : List Value) :
    loadSteps registry 0 loaded entries = [] := by
  simp [loadSteps]

@[simp] theorem loadSteps_nil (loaded : List String) :
    loadSteps registry (depth + 1) loaded [] = [] := by
  simp [loadSteps]

theorem loadSteps_loaded (h : name ∈ loaded) :
    loadSteps registry (depth + 1) loaded (.str name :: rest) =
      loadSteps registry (depth + 1) loaded rest := by
  rw [loadSteps]
  simp [h]

theorem loadSteps_missing (h : name ∉ loaded) (hm : registry.lookup? name = none) :
    loadSteps registry (depth + 1) loaded (.str name :: rest) =
      .visit name :: .missing name :: loadSteps registry (depth + 1) (loaded ++ [name]) rest := by
  rw [loadSteps]
  simp [h, hm]

theorem loadSteps_module {m : Module} (h : name ∉ loaded) (hm : registry.lookup? name = some m) :
    loadSteps registry (depth + 1) loaded (.str name :: rest) =
      .visit name :: loadSteps registry depth (loaded ++ [name]) (m.requires.map .str) ++
        .replay m :: loadSteps registry (depth + 1)
          (loaded ++ name :: visits (loadSteps registry depth (loaded ++ [name]) (m.requires.map .str)))
          rest := by
  rw [loadSteps]
  simp [h, hm]

theorem loadSteps_inline {entry : Value} (h : ∀ name, entry ≠ .str name) :
    loadSteps registry (depth + 1) loaded (entry :: rest) =
      .ofInline entry :: loadSteps registry (depth + 1) loaded rest := by
  rw [loadSteps]
  exact h

end Steps

/-- Induction along the recursion of `loadSteps`, one case per equation: no depth left, no
entry left, a name loaded already, a name no module has, a module followed one level down, and
an entry loaded in place. -/
theorem loadSteps_induction (registry : Registry) {motive : Nat → List String → List Value → Prop}
    (zero : ∀ loaded entries, motive 0 loaded entries)
    (nil : ∀ depth loaded, motive (depth + 1) loaded [])
    (known : ∀ depth loaded rest name, name ∈ loaded → motive (depth + 1) loaded rest →
      motive (depth + 1) loaded (.str name :: rest))
    (missing : ∀ depth loaded rest name, name ∉ loaded → registry.lookup? name = none →
      motive (depth + 1) (loaded ++ [name]) rest → motive (depth + 1) loaded (.str name :: rest))
    (module : ∀ depth loaded rest name, name ∉ loaded → ∀ m, registry.lookup? name = some m →
      let inner := loadSteps registry depth (loaded ++ [name]) (m.requires.map .str)
      motive depth (loaded ++ [name]) (m.requires.map .str) →
        motive (depth + 1) (loaded ++ name :: visits inner) rest →
          motive (depth + 1) loaded (.str name :: rest))
    (inline : ∀ depth loaded rest entry, (∀ name, entry ≠ .str name) →
      motive (depth + 1) loaded rest → motive (depth + 1) loaded (entry :: rest))
    (depth : Nat) (loaded : List String) (entries : List Value) : motive depth loaded entries := by
  -- the requirements of a module are one level down, the entries after it on the same level
  induction depth generalizing loaded entries with
  | zero => exact zero loaded entries
  | succ depth ihDepth =>
    induction entries generalizing loaded with
    | nil => exact nil depth loaded
    | cons entry rest ihRest =>
      cases entry with
      | str name =>
        by_cases hmem : name ∈ loaded
        · exact known depth loaded rest name hmem (ihRest loaded)
        · cases hm : registry.lookup? name with
          | none => exact missing depth loaded rest name hmem hm (ihRest _)
          | some m => exact module depth loaded rest name hmem m hm (ihDepth _ _) (ihRest _)
      | _ => exact inline depth loaded rest _ (fun _ h => by cases h) (ihRest loaded)

/-- How many modules of a registry have a name that is not loaded. -/
def unloaded (registry : Registry) (loaded : List String) : Nat :=
  registry.countP fun m => m.name ∉ loaded

section Depth

variable {registry : Registry}

theorem Registry.name_of_lookup? {name : String} {m : Module} (h : registry.lookup? name = some m) :
    m.name = name ∧ m ∈ registry := by
  have hfound := List.find?_some h
  exact ⟨by simpa using hfound, List.mem_of_find?_eq_some h⟩

theorem unloaded_le_length (loaded : List String) : unloaded registry loaded ≤ registry.length :=
  List.countP_le_length

theorem unloaded_anti {loaded loaded' : List String} (h : loaded ⊆ loaded') :
    unloaded registry loaded' ≤ unloaded registry loaded :=
  List.countP_mono_left fun m _ hm => by
    simp only [decide_eq_true_eq] at hm ⊢
    exact fun hl => hm (h hl)

theorem unloaded_append_lt {loaded : List String} {depth : Nat} (names : List String)
    (h : unloaded registry loaded < depth) : unloaded registry (loaded ++ names) < depth :=
  Nat.lt_of_le_of_lt (unloaded_anti (List.subset_append_left _ _)) h

/-- Marking the name of a module of the registry loaded leaves fewer modules unloaded. -/
theorem unloaded_lt {loaded : List String} {m : Module} (hmem : m ∈ registry)
    (h : m.name ∉ loaded) : unloaded registry (loaded ++ [m.name]) < unloaded registry loaded := by
  induction registry with
  | nil => simp at hmem
  | cons m' ms ih =>
    have hle : unloaded ms (loaded ++ [m.name]) ≤ unloaded ms loaded := unloaded_anti (by simp)
    simp only [unloaded, List.countP_cons] at ih hle ⊢
    rcases List.mem_cons.mp hmem with rfl | hms
    · -- the module's own name is counted before and not after
      have hafter : (decide ¬m.name ∈ loaded ++ [m.name]) = false := by simp
      have hbefore : (decide ¬m.name ∈ loaded) = true := by simp [h]
      rw [hafter, hbefore]
      simp only [Bool.false_eq_true, ↓reduceIte]
      omega
    · have hlt := ih hms
      have hhead : (if (decide ¬m'.name ∈ loaded ++ [m.name]) = true then 1 else 0) ≤
          (if (decide ¬m'.name ∈ loaded) = true then 1 else 0) := by
        by_cases hb : m'.name ∈ loaded
        · simp [hb]
        · simp only [hb, not_false_eq_true, decide_true, ↓reduceIte]
          split <;> omega
      omega

/-- Beyond the number of unloaded modules, the depth of the requirements followed changes
nothing: each level down marks one more module's name loaded. -/
theorem loadSteps_congr_depth {depth : Nat} {loaded : List String} (entries : List Value)
    (h : unloaded registry loaded < depth) :
    ∀ depth', unloaded registry loaded ≤ depth' →
      loadSteps registry depth loaded entries = loadSteps registry (depth' + 1) loaded entries := by
  induction depth, loaded, entries using loadSteps_induction registry with
  | zero => omega
  | nil => simp
  | known depth loaded rest name hmem ih =>
    rw [loadSteps_loaded hmem]
    intro depth' h'
    rw [loadSteps_loaded hmem, ih h _ h']
  | missing depth loaded rest name hmem hm ih =>
    rw [loadSteps_missing hmem hm]
    intro depth' h'
    rw [loadSteps_missing hmem hm, ih (unloaded_append_lt _ h) _
      (Nat.le_trans (unloaded_anti (List.subset_append_left _ _)) h')]
  | module depth loaded rest name hmem m hm inner ihInner ihRest =>
    rw [loadSteps_module hmem hm]
    intro depth' h'
    obtain ⟨rfl, hreg⟩ := Registry.name_of_lookup? hm
    -- the requirements are one level down on both sides, with one more module loaded
    have hlt := unloaded_lt hreg hmem
    obtain ⟨depth', rfl⟩ : ∃ d, depth' = d + 1 := ⟨depth' - 1, by omega⟩
    rw [loadSteps_module hmem hm, ← ihInner (by omega) depth' (by omega),
      ihRest (unloaded_append_lt _ h) _
        (Nat.le_trans (unloaded_anti (List.subset_append_left _ _)) h')]
  | inline depth loaded rest entry hne ih =>
    rw [loadSteps_inline hne]
    intro depth' h'
    rw [loadSteps_inline hne, ih h _ h']

end Depth

/-- The steps of loading module list entries when the names `loaded` are loaded already, with
requirements followed to any depth. -/
def loadPlan (registry : Registry) (loaded : List String) (entries : List Value) : List LoadStep :=
  loadSteps registry (unloaded registry loaded + 1) loaded entries

theorem loadSteps_eq_loadPlan {registry : Registry} {depth : Nat} {loaded : List String}
    (entries : List Value) (h : unloaded registry loaded < depth) :
    loadSteps registry depth loaded entries = loadPlan registry loaded entries :=
  loadSteps_congr_depth entries h _ (Nat.le_refl _)

/-! ## Running a plan -/

/-- Runs a load step: the run blocks it keeps. -/
def LoadStep.run (k : Knot) : LoadStep → Run (List Value)
  | .visit name => do
    modifyState fun s => { s with loaded := s.loaded ++ [name] }
    pure []
  | .missing name => Run.fail (Fault.because .moduleNotFound (Text.quoted name))
  | .replay m => do
    for q in m.queue do applyQueued k m.name q
    for c in m.configBlocks do applyConfig k m.name c
    pure m.runBlocks
  | .inline fn => do
    match ← Run.attempt (k.invoke .providers fn .nil []) with
    | .ok result => pure (if result.isInvocable then [result] else [])
    | .error e => Run.fail (.within "injector: inline config: " e)
  | .unknown entry => Run.fail (Fault.because .unknownModuleType entry.typeName)

/-- Runs load steps in turn; the run blocks they keep, in order. -/
def runLoad (k : Knot) (steps : List LoadStep) : Run (List Value) := do
  let blocks ← steps.mapM (LoadStep.run k)
  pure blocks.flatten

/-- Invokes run blocks on the instance tier in turn; the first failure stops them. -/
def runBlocks (k : Knot) (blocks : List Value) : Run Unit := do
  for block in blocks do
    match ← Run.attempt (k.invoke .instances block .nil []) with
    | .ok _ => pure ()
    | .error e => Run.fail (.within "injector: run block: " e)

section Running

variable {k : Knot}

theorem runLoad_nil : runLoad k [] = pure [] := by simp [runLoad]

theorem runLoad_cons (s : LoadStep) (steps : List LoadStep) :
    runLoad k (s :: steps) =
      s.run k >>= fun blocks => runLoad k steps >>= fun rest => pure (blocks ++ rest) := by
  simp [runLoad, List.mapM_cons]

theorem runLoad_append (steps steps' : List LoadStep) :
    runLoad k (steps ++ steps') =
      runLoad k steps >>= fun blocks => runLoad k steps' >>= fun rest => pure (blocks ++ rest) := by
  simp [runLoad, List.mapM_append]

theorem LoadStep.run_visit (name : String) (w : World) :
    (LoadStep.visit name).run k w =
      .ok [] { w with injector := { w.injector with loaded := w.injector.loaded ++ [name] } } := rfl

/-- Every step but a visit leaves the loaded names alone. -/
theorem LoadStep.keeps_run (hk : EntriesKeep loadedKept k) {s : LoadStep} (hs : s.visited = []) :
    Keeps loadedKept (s.run k) := by
  have hp := hk.primitives
  cases s with
  | visit name => simp [LoadStep.visited] at hs
  | missing name => exact Keeps.fail' _
  | replay m =>
    refine Keeps.bind (Keeps.forIn' fun q _ _ => Keeps.bind (hp.applyQueued _ q) fun _ => Keeps.pure' _)
      fun _ => ?_
    exact Keeps.bind (Keeps.forIn' fun c _ _ => Keeps.bind (hp.applyConfig _ c) fun _ => Keeps.pure' _)
      fun _ => Keeps.pure' _
  | inline fn =>
    refine Keeps.bind (Keeps.attempt (hk.invoke _ _ _ _)) fun res => ?_
    cases res with
    | ok result => exact Keeps.pure' _
    | error e => exact Keeps.fail' _
  | unknown entry => exact Keeps.fail' _

/-- A step that returns has marked loaded the names it visits. -/
theorem LoadStep.loaded_of_run (hk : EntriesKeep loadedKept k) {s : LoadStep} {w w' : World}
    {blocks : List Value} (h : s.run k w = .ok blocks w') :
    w'.injector.loaded = w.injector.loaded ++ s.visited := by
  cases s with
  | visit name =>
    rw [LoadStep.run_visit] at h
    cases h
    rfl
  | _ =>
    have hkeep := Keeps.rel_of_ok (LoadStep.keeps_run hk rfl) h
    simpa [LoadStep.visited] using hkeep

/-- Steps that return have marked loaded the names they visit, in order. -/
theorem loaded_of_runLoad (hk : EntriesKeep loadedKept k) {steps : List LoadStep} {w w' : World}
    {blocks : List Value} (h : runLoad k steps w = .ok blocks w') :
    w'.injector.loaded = w.injector.loaded ++ visits steps := by
  induction steps generalizing w blocks with
  | nil =>
    rw [runLoad_nil] at h
    cases h
    simp
  | cons s steps ih =>
    rw [runLoad_cons] at h
    obtain ⟨first, w1, h1, h2⟩ := ok_of_bind h
    obtain ⟨rest, w2, h2, h3⟩ := ok_of_bind h2
    cases h3
    rw [ih h2, LoadStep.loaded_of_run hk h1]
    simp

end Running

/-! ## Loading runs its plan -/

/-- What loading one module list entry does, with `load` loading a module's requirements: the
run blocks it keeps. -/
def loadEntry (k : Knot) (registry : Registry) (load : List Value → Run (List Value)) :
    Value → Run (List Value)
  | .str name => do
    if (← state).loaded.contains name then return []
    modifyState fun s => { s with loaded := s.loaded ++ [name] }
    let some m := registry.lookup? name
      | Run.fail (Fault.because .moduleNotFound (Text.quoted name))
    let inner ← load (m.requires.map .str)
    for q in m.queue do applyQueued k m.name q
    for c in m.configBlocks do applyConfig k m.name c
    pure (inner ++ m.runBlocks)
  | entry => do
    if !entry.isInvocable then
      Run.fail (Fault.because .unknownModuleType entry.typeName)
    match ← Run.attempt (k.invoke .providers entry .nil []) with
    | .ok result => pure (if result.isInvocable then [result] else [])
    | .error e => Run.fail (.within "injector: inline config: " e)

/-- A loop whose body runs `f` on each element and appends what it returns to the accumulator
appends to the accumulator what the loop from the empty accumulator returns. -/
theorem forIn_appending {f : α → Run (List β)} {body : α → List β → Run (ForInStep (List β))}
    (h : ∀ a b, body a b = f a >>= fun r => pure (.yield (b ++ r))) (l : List α) (b : List β) :
    forIn l b body = forIn l [] body >>= fun rs => pure (b ++ rs) := by
  induction l generalizing b with
  | nil => simp
  | cons a l ih =>
    simp only [List.forIn_cons, h, bind_assoc, pure_bind, List.nil_append]
    congr 1
    funext r
    rw [ih (b ++ r), ih r, bind_assoc]
    simp

theorem forIn_cons_appending {f : α → Run (List β)} {body : α → List β → Run (ForInStep (List β))}
    (h : ∀ a b, body a b = f a >>= fun r => pure (.yield (b ++ r))) (a : α) (l : List α) :
    forIn (a :: l) [] body = f a >>= fun r => forIn l [] body >>= fun rs => pure (r ++ rs) := by
  rw [List.forIn_cons, h, bind_assoc]
  congr 1
  funext r
  simp only [pure_bind, List.nil_append]
  exact forIn_appending h l r

/-- Loading a list one level deeper loads its first entry, then the rest. -/
theorem loadWith_succ_cons (k : Knot) (registry : Registry) (depth : Nat) (entry : Value)
    (entries : List Value) :
    loadWith k registry (depth + 1) (entry :: entries) =
      loadEntry k registry (loadWith k registry depth) entry >>= fun blocks =>
        loadWith k registry (depth + 1) entries >>= fun rest => pure (blocks ++ rest) := by
  simp only [loadWith, bind_pure]
  rw [@forIn_cons_appending _ _ (loadEntry k registry (loadWith k registry depth)) _
    (fun e b => ?_)]
  -- the loop body appends what loading the entry returns
  split
  next name =>
    simp only [loadEntry, bind_assoc]
    congr 1
    funext s
    split
    · simp
    · simp only [bind_assoc]
      congr 1
      funext u
      cases registry.lookup? name with
      | none => simp only [fail_bind]
      | some m => simp only [bind_assoc, pure_bind, List.append_assoc]
  next hne =>
    rw [loadEntry.eq_2 _ _ _ _ hne]
    by_cases hinv : (!e.isInvocable) = true
    · simp only [hinv, ↓reduceIte, fail_bind]
    · simp only [hinv, ↓reduceIte, bind_assoc, Bool.false_eq_true]
      congr 1
      funext res
      cases res with
      | ok result =>
        dsimp only
        by_cases hr : result.isInvocable = true <;> simp [hr]
      | error e => simp only [fail_bind]

section Entries

variable {k : Knot} {registry : Registry} {load : List Value → Run (List Value)} {w : World}
  {name : String}

theorem loadEntry_loaded (hmem : name ∈ w.injector.loaded) :
    loadEntry k registry load (.str name) w = .ok [] w := by
  have hc : w.injector.loaded.contains name = true := by simpa using hmem
  simp only [loadEntry, state_bind_run, hc, ↓reduceIte]
  rfl

theorem loadEntry_missing (hmem : name ∉ w.injector.loaded) (hm : registry.lookup? name = none) :
    loadEntry k registry load (.str name) w =
      ((LoadStep.visit name).run k >>= fun _ => (LoadStep.missing name).run k) w := by
  have hc : w.injector.loaded.contains name = false := by simpa using hmem
  simp only [loadEntry, state_bind_run, hc, hm, LoadStep.run]
  rfl

theorem loadEntry_module {m : Module} (hmem : name ∉ w.injector.loaded)
    (hm : registry.lookup? name = some m) :
    loadEntry k registry load (.str name) w =
      ((LoadStep.visit name).run k >>= fun _ => load (m.requires.map .str) >>= fun inner =>
        (LoadStep.replay m).run k >>= fun blocks => pure (inner ++ blocks)) w := by
  have hc : w.injector.loaded.contains name = false := by simpa using hmem
  simp only [loadEntry, state_bind_run, hc, hm, LoadStep.run, bind_assoc, pure_bind]
  rfl

theorem loadEntry_inline {entry : Value} (hne : ∀ name, entry ≠ .str name) :
    loadEntry k registry load entry = (LoadStep.ofInline entry).run k := by
  rw [loadEntry.eq_2 _ _ _ _ hne]
  by_cases hinv : entry.isInvocable = true
  · simp [hinv, LoadStep.ofInline, LoadStep.run]
  · simp [hinv, LoadStep.ofInline, LoadStep.run]

/-- Loading runs its plan: from any world whose loaded names are `loaded`, loading module list
entries at most `depth` requirement levels deep runs the steps of loading them. -/
theorem loadWith_eq_runLoad (hk : EntriesKeep loadedKept k) (registry : Registry) (depth : Nat)
    (loaded : List String) (entries : List Value) :
    ∀ w : World, w.injector.loaded = loaded →
      loadWith k registry depth entries w = runLoad k (loadSteps registry depth loaded entries) w := by
  induction depth, loaded, entries using loadSteps_induction registry with
  | zero =>
    intro w _
    simp [loadWith, runLoad_nil]
  | nil =>
    intro w _
    rw [loadSteps_nil, runLoad_nil]
    rfl
  | known depth loaded rest name hmem ih =>
    -- a loaded name is passed over
    rw [loadSteps_loaded hmem]
    intro w hw
    rw [loadWith_succ_cons, bind_run_ok (loadEntry_loaded (hw ▸ hmem)), ← ih w hw]
    simp
  | missing depth loaded rest name hmem hm ih =>
    rw [loadSteps_missing hmem hm]
    intro w hw
    rw [loadWith_succ_cons, bind_run_congr (loadEntry_missing (hw ▸ hmem) hm), runLoad_cons,
      runLoad_cons]
    simp only [bind_assoc]
    rw [bind_run_ok (LoadStep.run_visit name w), bind_run_ok (LoadStep.run_visit name w)]
    rfl
  | module depth loaded rest name hmem m hm inner ihInner ihRest =>
    rw [loadSteps_module hmem hm]
    intro w hw
    rw [loadWith_succ_cons, bind_run_congr (loadEntry_module (hw ▸ hmem) hm), runLoad_append,
      runLoad_cons, runLoad_cons]
    simp only [bind_assoc, pure_bind]
    rw [bind_run_ok (LoadStep.run_visit name w), bind_run_ok (LoadStep.run_visit name w)]
    -- the requirements, one level down, run their own plan; then the module is replayed
    rw [bind_run_congr (ihInner _ (by simp [hw]))]
    refine bind_run_congr_of_ok fun blocks w2 h2 => ?_
    have hl2 := loaded_of_runLoad hk h2
    refine bind_run_congr_of_ok fun replayed w3 h3 => ?_
    have hl3 := LoadStep.loaded_of_run hk h3
    rw [bind_run_congr (ihRest w3 (by simp [hl3, hl2, hw, LoadStep.visited, inner]))]
    simp [inner]
  | inline depth loaded rest entry hne ih =>
    rw [loadSteps_inline hne]
    intro w hw
    rw [loadWith_succ_cons, loadEntry_inline hne, runLoad_cons]
    refine bind_run_congr_of_ok fun blocks w1 h1 => ?_
    have hl1 := LoadStep.loaded_of_run hk h1
    rw [bind_run_congr (ih w1 (by simp [hl1, hw]))]

end Entries

theorem newWith_eq (k : Knot) (registry : Registry) (entries : List Value) :
    newWith k registry entries =
      prepare >>= fun _ => loadWith k registry (registry.length + 2) entries >>= runBlocks k := rfl

/-- Building an injector prepares the well-known keys, runs the plan of its module list from the
names loaded already, then invokes the run blocks the plan kept on the instance tier. -/
theorem newWith_eq_runLoad {k : Knot} (hk : EntriesKeep loadedKept k) (registry : Registry)
    (entries : List Value) (w : World) :
    newWith k registry entries w =
      (prepare >>= fun _ => runLoad k (loadPlan registry w.injector.loaded entries) >>= runBlocks k) w := by
  rw [newWith_eq]
  refine bind_run_congr_of_ok fun _ w1 h1 => ?_
  have hprepare : Keeps loadedKept prepare :=
    Keeps.bind (hk.primitives.store _ _ _) fun _ =>
      Keeps.bind (hk.primitives.store _ _ _) fun _ => hk.primitives.store _ _ _
  have hl1 : w1.injector.loaded = w.injector.loaded := Keeps.rel_of_ok hprepare h1
  -- the loader's depth bound is beyond the number of modules
  have hdepth : unloaded registry w1.injector.loaded < registry.length + 2 := by
    have := @unloaded_le_length registry w1.injector.loaded
    omega
  rw [bind_run_congr (loadWith_eq_runLoad hk registry _ _ entries w1 rfl),
    loadSteps_eq_loadPlan entries hdepth, hl1]

/-! ## What a plan does -/

/-- Names without repeats, none of them among `loaded`. -/
def Fresh (loaded names : List String) : Prop := names.Nodup ∧ ∀ n ∈ names, n ∉ loaded

theorem fresh_nil (loaded : List String) : Fresh loaded [] := by simp [Fresh]

theorem fresh_cons {loaded names : List String} {n : String} :
    Fresh loaded (n :: names) ↔ n ∉ loaded ∧ Fresh (loaded ++ [n]) names := by
  simp only [Fresh, List.nodup_cons, List.mem_cons, List.mem_append]
  grind

theorem fresh_append {loaded names names' : List String} :
    Fresh loaded (names ++ names') ↔ Fresh loaded names ∧ Fresh (loaded ++ names) names' := by
  simp only [Fresh, List.nodup_append, List.mem_append]
  grind

/-- Each module the steps replay comes after every module it requires is among the names
loaded before it; `loaded` names those loaded before the steps. -/
def RequiresFirst : List String → List LoadStep → Prop
  | _, [] => True
  | loaded, s :: rest =>
    (∀ m ∈ s.replayed, ∀ r ∈ m.requires, r ∈ loaded) ∧ RequiresFirst (loaded ++ s.visited) rest

theorem requiresFirst_append {loaded : List String} {steps steps' : List LoadStep} :
    RequiresFirst loaded (steps ++ steps') ↔
      RequiresFirst loaded steps ∧ RequiresFirst (loaded ++ visits steps) steps' := by
  induction steps generalizing loaded with
  | nil => simp [RequiresFirst]
  | cons s steps ih => simp [RequiresFirst, ih, and_assoc]

section Facts

variable (registry : Registry)

/-- A plan marks no name loaded twice, nor one that is loaded already. -/
theorem fresh_visits (depth : Nat) (loaded : List String) (entries : List Value) :
    Fresh loaded (visits (loadSteps registry depth loaded entries)) := by
  induction depth, loaded, entries using loadSteps_induction registry with
  | zero | nil =>
    simp only [loadSteps_zero, loadSteps_nil]
    exact fresh_nil _
  | known depth loaded rest name hmem ih =>
    rw [loadSteps_loaded hmem]
    exact ih
  | missing depth loaded rest name hmem hm ih =>
    rw [loadSteps_missing hmem hm]
    simpa [LoadStep.visited] using fresh_cons.mpr ⟨hmem, ih⟩
  | module depth loaded rest name hmem m hm inner ihInner ihRest =>
    rw [loadSteps_module hmem hm]
    simp only [visits_append, visits_cons, LoadStep.visited, List.singleton_append, List.nil_append]
    exact fresh_cons.mpr ⟨hmem, fresh_append.mpr ⟨ihInner, by simpa using ihRest⟩⟩
  | inline depth loaded rest entry hne ih =>
    rw [loadSteps_inline hne]
    simpa using ih

/-- Every module a plan replays is the registry's module of its name. -/
theorem lookup?_of_replay (depth : Nat) (loaded : List String) (entries : List Value) :
    ∀ m ∈ replays (loadSteps registry depth loaded entries), registry.lookup? m.name = some m := by
  induction depth, loaded, entries using loadSteps_induction registry with
  | zero | nil => simp
  | known depth loaded rest name hmem ih =>
    rw [loadSteps_loaded hmem]
    exact ih
  | missing depth loaded rest name hmem hm ih =>
    rw [loadSteps_missing hmem hm]
    simpa [LoadStep.replayed] using ih
  | module depth loaded rest name hmem m hm inner ihInner ihRest =>
    rw [loadSteps_module hmem hm]
    have hname := (Registry.name_of_lookup? hm).1
    simp only [replays_append, replays_cons, LoadStep.replayed, List.nil_append, List.mem_append,
      List.mem_singleton]
    rintro m' (hm' | rfl | hm')
    · exact ihInner m' hm'
    · rw [hname, hm]
    · exact ihRest m' hm'
  | inline depth loaded rest entry hne ih =>
    rw [loadSteps_inline hne]
    simpa using ih

/-- A plan replays a module's name no more often than it marks the name loaded. -/
theorem count_replays_le (depth : Nat) (loaded : List String) (entries : List Value) (n : String) :
    ((replays (loadSteps registry depth loaded entries)).map (·.name)).count n ≤
      (visits (loadSteps registry depth loaded entries)).count n := by
  induction depth, loaded, entries using loadSteps_induction registry with
  | zero | nil => simp
  | known depth loaded rest name hmem ih =>
    rw [loadSteps_loaded hmem]
    exact ih
  | missing depth loaded rest name hmem hm ih =>
    rw [loadSteps_missing hmem hm]
    simp only [replays_cons, visits_cons, LoadStep.replayed, LoadStep.visited, List.nil_append,
      List.count_append] at ih ⊢
    omega
  | module depth loaded rest name hmem m hm inner ihInner ihRest =>
    rw [loadSteps_module hmem hm]
    have hname := (Registry.name_of_lookup? hm).1
    dsimp only [inner] at ihRest ⊢
    simp only [replays_append, replays_cons, visits_append, visits_cons, LoadStep.replayed,
      LoadStep.visited, List.nil_append, List.map_append, List.map_cons, List.map_nil,
      List.count_append, hname, List.count_cons, List.count_nil] at ihInner ihRest ⊢
    omega
  | inline depth loaded rest entry hne ih =>
    rw [loadSteps_inline hne]
    simpa using ih

/-- A plan replays each module at most once. -/
theorem nodup_replays (depth : Nat) (loaded : List String) (entries : List Value) :
    ((replays (loadSteps registry depth loaded entries)).map (·.name)).Nodup := by
  have hvisits := List.nodup_iff_count.mp (fresh_visits registry depth loaded entries).1
  exact List.nodup_iff_count.mpr fun n =>
    Nat.le_trans (count_replays_le registry depth loaded entries n) (hvisits n)

/-- With depth enough, every name among the entries is loaded already or marked loaded. -/
theorem mem_of_requested {depth : Nat} {loaded : List String} {entries : List Value}
    (hdepth : unloaded registry loaded < depth) {name : String} (hname : .str name ∈ entries) :
    name ∈ loaded ++ visits (loadSteps registry depth loaded entries) := by
  induction depth, loaded, entries using loadSteps_induction registry with
  | zero => omega
  | nil => simp at hname
  | known depth loaded rest name' hmem ih =>
    rw [loadSteps_loaded hmem]
    rcases List.mem_cons.mp hname with h | h
    · cases h
      exact List.mem_append_left _ hmem
    · exact ih hdepth h
  | missing depth loaded rest name' hmem hm ih =>
    rw [loadSteps_missing hmem hm]
    rcases List.mem_cons.mp hname with h | h
    · cases h
      simp [LoadStep.visited]
    · simpa [LoadStep.visited] using ih (unloaded_append_lt _ hdepth) h
  | module depth loaded rest name' hmem m hm inner ihInner ihRest =>
    rw [loadSteps_module hmem hm]
    rcases List.mem_cons.mp hname with h | h
    · cases h
      simp [LoadStep.visited]
    · simpa [LoadStep.visited] using ihRest (unloaded_append_lt _ hdepth) h
  | inline depth loaded rest entry hne ih =>
    rw [loadSteps_inline hne]
    rcases List.mem_cons.mp hname with h | h
    · exact absurd h.symm (hne name)
    · simpa using ih hdepth h

/-- With depth enough, a plan replays a module only once every module it requires is loaded or
marked loaded: done, or on the way down to it. -/
theorem requiresFirst_loadSteps {depth : Nat} {loaded : List String} (entries : List Value)
    (hdepth : unloaded registry loaded < depth) :
    RequiresFirst loaded (loadSteps registry depth loaded entries) := by
  induction depth, loaded, entries using loadSteps_induction registry with
  | zero => omega
  | nil =>
    rw [loadSteps_nil]
    trivial
  | known depth loaded rest name hmem ih =>
    rw [loadSteps_loaded hmem]
    exact ih hdepth
  | missing depth loaded rest name hmem hm ih =>
    rw [loadSteps_missing hmem hm]
    simpa [RequiresFirst, LoadStep.replayed, LoadStep.visited] using ih (unloaded_append_lt _ hdepth)
  | module depth loaded rest name hmem m hm inner ihInner ihRest =>
    rw [loadSteps_module hmem hm]
    obtain ⟨rfl, hreg⟩ := Registry.name_of_lookup? hm
    -- the requirements are followed one level down, with one more module loaded
    have hlt : unloaded registry (loaded ++ [m.name]) < depth := by
      have := unloaded_lt hreg hmem
      omega
    rw [requiresFirst_append]
    refine ⟨⟨by simp [LoadStep.replayed], by simpa [LoadStep.visited] using ihInner hlt⟩,
      fun m' hm' r hr => ?_, by simpa [LoadStep.visited] using ihRest (unloaded_append_lt _ hdepth)⟩
    -- the module replayed is the one marked loaded, and its requirements were just loaded
    simp only [LoadStep.replayed, List.mem_singleton] at hm'
    rw [hm'] at hr
    have hreq := mem_of_requested registry hlt
      (List.mem_map_of_mem hr : Value.str r ∈ m.requires.map Value.str)
    simpa [LoadStep.visited] using hreq
  | inline depth loaded rest entry hne ih =>
    rw [loadSteps_inline hne]
    refine ⟨by simp, ?_⟩
    simpa using ih hdepth

end Facts

/-! ## Describing a module -/

/-- The constant a describing call queues. -/
def ModuleCall.constant? : ModuleCall → Option Queued
  | .register (.constant key v) => some (.register (.constant key v))
  | _ => none

/-- The call a describing call queues behind the others: any registration but a constant, or a
directive. -/
def ModuleCall.queued? : ModuleCall → Option Queued
  | .register (.constant _ _) => none
  | .register r => some (.register r)
  | .directive name factory => some (.directive name factory)
  | _ => none

/-- The configuration block a describing call adds. -/
def ModuleCall.config? : ModuleCall → Option Value
  | .config fn => some fn
  | _ => none

/-- The run block a describing call adds. -/
def ModuleCall.run? : ModuleCall → Option Value
  | .run fn => some fn
  | _ => none

/-- Describing a module by calls in turn queues its constants ahead of what it queued before,
the last one first, and every other registration and directive behind, in order; configuration
and run blocks are added in order. -/
theorem foldl_add (m : Module) (calls : List ModuleCall) :
    (calls.foldl Module.add m).queue =
        (calls.filterMap ModuleCall.constant?).reverse ++ m.queue ++ calls.filterMap ModuleCall.queued? ∧
      (calls.foldl Module.add m).configBlocks = m.configBlocks ++ calls.filterMap ModuleCall.config? ∧
      (calls.foldl Module.add m).runBlocks = m.runBlocks ++ calls.filterMap ModuleCall.run? := by
  induction calls generalizing m with
  | nil => simp
  | cons c calls ih =>
    obtain ⟨hq, hc, hr⟩ := ih (m.add c)
    rw [List.foldl_cons, hq, hc, hr]
    -- a constant goes to the front of what was queued, the rest to the back
    cases c with
    | register r =>
      cases r <;> simp [Module.add, ModuleCall.constant?, ModuleCall.queued?, ModuleCall.config?,
        ModuleCall.run?, List.filterMap_cons]
    | directive _ _ | config _ | run _ =>
      simp [Module.add, ModuleCall.constant?, ModuleCall.queued?, ModuleCall.config?, ModuleCall.run?,
        List.filterMap_cons]

/-! ## Loading modules in order -/

/-- What building an injector from a registry does, with entry points `k`. -/
structure LoadsModules (k : Knot) (registry : Registry) : Prop where
  /-- Building prepares the well-known keys, runs the plan of its module list from the names
  loaded already, and then invokes the run blocks the plan kept, in order, on the instance tier. -/
  runs : ∀ entries (w : World), newWith k registry entries w =
    (prepare >>= fun _ => runLoad k (loadPlan registry w.injector.loaded entries) >>= runBlocks k) w
  /-- The plan marks no name loaded twice, nor one loaded already. -/
  fresh : ∀ loaded entries, Fresh loaded (visits (loadPlan registry loaded entries))
  /-- The plan replays each module at most once. -/
  once : ∀ loaded entries, ((replays (loadPlan registry loaded entries)).map (·.name)).Nodup
  /-- The plan replays only the registry's module of a name. -/
  registered : ∀ loaded entries, ∀ m ∈ replays (loadPlan registry loaded entries),
    registry.lookup? m.name = some m
  /-- The plan replays a module only once each module it requires is loaded or marked loaded:
  done, or on the way down to it. -/
  requiresFirst : ∀ loaded entries, RequiresFirst loaded (loadPlan registry loaded entries)
  /-- A module described by calls queues its constants first, the last one first, then its other
  registrations and directives in order; its configuration and run blocks keep their order. -/
  described : ∀ (m : Module) (calls : List ModuleCall),
    (calls.foldl Module.add m).queue =
        (calls.filterMap ModuleCall.constant?).reverse ++ m.queue ++ calls.filterMap ModuleCall.queued? ∧
      (calls.foldl Module.add m).configBlocks = m.configBlocks ++ calls.filterMap ModuleCall.config? ∧
      (calls.foldl Module.add m).runBlocks = m.runBlocks ++ calls.filterMap ModuleCall.run?

/-- **Modules load in order.** With entry points that leave the loaded names alone (the functions
an injector invokes reach it only through its operations), building an injector runs the plan of
its module list, whatever cycles, repeats and missing names the registry and the list hold: each
module is replayed at most once, after the modules it requires unless they are on the way down to
it, and the run blocks come last, in the order kept. -/
theorem modules_load_in_order {k : Knot} (hk : EntriesKeep loadedKept k) (registry : Registry) :
    LoadsModules k registry where
  runs := newWith_eq_runLoad hk registry
  fresh _ _ := fresh_visits registry _ _ _
  once _ _ := nodup_replays registry _ _ _
  registered _ _ := lookup?_of_replay registry _ _ _
  requiresFirst _ entries := requiresFirst_loadSteps registry entries (Nat.lt_succ_self _)
  described := foldl_add

/-- Entry points that resolve every key to nil, invoke a function by returning it, and call
nothing. -/
def inertKnot : Knot where
  get _ _ := pure .nil
  invoke _ fn _ _ := pure fn
  call _ _ _ := pure .nil

theorem inertKnot_keepsLoaded : EntriesKeep loadedKept inertKnot :=
  ⟨fun _ _ => Keeps.pure' _, fun _ _ _ _ => Keeps.pure' _, fun _ _ _ => Keeps.pure' _⟩

/-- Two modules that require each other, the second also itself. -/
def cyclicRegistry : Registry :=
  [{ name := "a", requires := ["b"] }, { name := "b", requires := ["a", "b"] }]

example :
    let plan := loadPlan cyclicRegistry [] [.str "a", .str "b", .str "a"]
    visits plan = ["a", "b"] ∧ (replays plan).map (·.name) = ["b", "a"] := by
  simp [loadPlan, unloaded, cyclicRegistry, loadSteps, Registry.lookup?, LoadStep.visited,
    LoadStep.replayed]

theorem cyclic_loads_modules :
    EntriesKeep loadedKept inertKnot ∧ LoadsModules inertKnot cyclicRegistry :=
  ⟨inertKnot_keepsLoaded, modules_load_in_order inertKnot_keepsLoaded cyclicRegistry⟩

end Bindery.Injector
