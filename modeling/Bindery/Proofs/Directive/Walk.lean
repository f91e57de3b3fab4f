import Bindery.Proofs.Directive.Threshold

/-!
# The walk of a compile

A compile visits the nodes of a forest in pre-order. At each node it collects the directives the
node matches, ordered by priority, and compiles those at or above the priority of the first
terminal one. A node on which a terminal directive applied keeps the walk from going below it;
the walk goes on with the node's next sibling. The first failure stops the walk.

Here that walk is stated on its own terms: `preorder` lists the nodes below some roots, each with
the number of nodes listed below it; `selectMatches` is the rule for the matches a node compiles;
`compileInOrder` runs through the list and, after a node on which a terminal directive applied,
skips the nodes listed below it. The compiler's nested loops, with their running threshold, are
that walk as long as resolving directives leaves the forest's shape alone (`KeepsShape`). On an
acyclic forest the walk does not depend on the depth the compile is allowed, once that reaches
the number of nodes.

The matches a node compiles are those of `applyMatches_eq`. Main statements:
`runWith_eq_compileInOrder` and `compile_walks_preorder`.
-/

namespace Bindery.Directive

open Run

/-! ## The order of a node's matches -/

/-- The order of sorted matches: a higher priority first, then, at equal priority, the smaller
name. -/
def MatchLe (a b : Match) : Prop :=
  b.descriptor.priority < a.descriptor.priority ∨
    (a.descriptor.priority = b.descriptor.priority ∧ a.descriptor.name ≤ b.descriptor.name)

instance : DecidableRel MatchLe := fun _ _ => inferInstanceAs (Decidable (_ ∨ _))

theorem MatchLe.trans {a b c : Match} (hab : MatchLe a b) (hbc : MatchLe b c) : MatchLe a c := by
  rcases hab with hab | ⟨hab, hnab⟩ <;> rcases hbc with hbc | ⟨hbc, hnbc⟩
  · exact .inl (by omega)
  · exact .inl (by omega)
  · exact .inl (by omega)
  · exact .inr ⟨hab.trans hbc, String.le_trans hnab hnbc⟩

theorem MatchLe.total (a b : Match) : MatchLe a b ∨ MatchLe b a := by
  rcases Int.lt_trichotomy a.descriptor.priority b.descriptor.priority with hp | hp | hp
  · exact .inr (.inl hp)
  · rcases String.le_total a.descriptor.name b.descriptor.name with hn | hn
    · exact .inl (.inr ⟨hp, hn⟩)
    · exact .inr (.inr ⟨hp.symm, hn⟩)
  · exact .inl (.inl hp)

/-- The comparison that sorts matches decides `MatchLe`. -/
theorem sortMatches_eq (ms : List Match) : sortMatches ms = ms.mergeSort fun a b => decide (MatchLe a b) := by
  unfold sortMatches
  congr 1
  funext a b
  by_cases h : a.descriptor.priority = b.descriptor.priority <;> simp [MatchLe, h]

theorem MatchLe.trans_decide (a b c : Match) (hab : decide (MatchLe a b) = true)
    (hbc : decide (MatchLe b c) = true) : decide (MatchLe a c) = true :=
  decide_eq_true ((of_decide_eq_true hab).trans (of_decide_eq_true hbc))

theorem MatchLe.total_decide (a b : Match) : (decide (MatchLe a b) || decide (MatchLe b a)) = true := by
  simpa using MatchLe.total a b

/-- Sorted matches are in the order of `MatchLe`. -/
theorem sortMatches_pairwise (ms : List Match) : (sortMatches ms).Pairwise MatchLe := by
  rw [sortMatches_eq]
  exact (List.pairwise_mergeSort MatchLe.trans_decide MatchLe.total_decide ms).imp of_decide_eq_true

theorem sortMatches_byPriority (ms : List Match) : ByPriority (sortMatches ms) :=
  (sortMatches_pairwise ms).imp fun h => by
    rcases h with h | ⟨h, -⟩ <;> omega

/-- The matches collected on a node are ordered by priority. -/
theorem collectWith_byPriority (k : Knot) (c node : Nat) : Returns ByPriority (collectWith k c node) := by
  unfold collectWith
  refine Returns.bind fun w => ?_
  split
  · dsimp only
    split
    · exact .bind fun _ => .bind fun _ => .pure' (sortMatches_byPriority _)
    · exact .bind fun _ => .pure' (sortMatches_byPriority _)
  · exact .pure' List.Pairwise.nil

/-! ## The shape of a forest -/

/-- The shape of a forest: the children of each node. -/
def shape (nodes : Array Markup.Node) : Array (List Nat) := nodes.map (·.children)

/-- The guarantee that the shape of the markup forest stays as it was. -/
def forestKept : Guarantee := .fixing fun w => shape w.nodes

/-- Resolving keys through the entry points leaves the shape of the markup forest as it was. -/
def KeepsShape (k : Knot) : Prop := ∀ t key, Keeps forestKept (k.get t key)

theorem shape_getElem? (nodes : Array Markup.Node) (n : Nat) :
    (shape nodes)[n]? = nodes[n]?.map (·.children) := by
  simp [shape]

/-- Replacing a node by one with the same children keeps the shape. -/
theorem shape_set! {nodes : Array Markup.Node} {n : Nat} {node node' : Markup.Node}
    (h : nodes[n]? = some node) (hc : node'.children = node.children) :
    shape (nodes.set! n node') = shape nodes := by
  apply Array.ext_getElem?
  intro i
  simp only [shape_getElem?, Array.set!_eq_setIfInBounds, Array.getElem?_setIfInBounds]
  split
  · rename_i hi
    subst hi
    obtain ⟨hlt, hn⟩ := Array.getElem?_eq_some_iff.mp h
    simp [hlt, hn, hc]
  · rfl

section Kept

variable {k : Knot} {c : Nat}

theorem keeps_readWorld (f : World → β) : Keeps forestKept (do pure (f (← get)) : Run β) :=
  .bind .get' fun _ => .pure' _

theorem keeps_log (j : Json) : Keeps forestKept (Run.log j) := .modify' fun _ => rfl

theorem keeps_lookupWith (hk : KeepsShape k) (name : String) :
    Keeps forestKept (lookupWith k c name) := by
  unfold lookupWith
  refine .bind (keeps_readWorld _) fun _ => .bind (keeps_readWorld _) fun r => ?_
  split
  · exact .pure' _
  · refine .bind (hk _ _) fun v => ?_
    split
    · exact .pure' _
    · exact .fail' _

theorem keeps_collectWith (hk : KeepsShape k) (node : Nat) : Keeps forestKept (collectWith k c node) := by
  unfold collectWith
  refine .bind .get' fun w => ?_
  split
  · -- the element's own directives, then those of each attribute, a group start resolved first
    dsimp only
    have hattr : ∀ name (f : List Descriptor → List Match),
        Keeps forestKept (do pure (ForInStep.yield (f (← lookupWith k c name)))) :=
      fun _ _ => .bind (keeps_lookupWith hk _) fun _ => .pure' _
    refine .ite' (.bind (keeps_lookupWith hk _) fun _ => .bind (.forIn' fun x _ s => ?_) fun _ => .pure' _)
      (.bind (.forIn' fun x _ s => ?_) fun _ => .pure' _)
    all_goals
      split
      · split
        · exact .bind (.bind (keeps_lookupWith hk _) fun _ => .pure' _) fun _ =>
            .ite' (hattr _ _) (hattr _ _)
        · exact hattr _ _
      · exact hattr _ _
  · exact .pure' _

theorem keeps_runStep (step : CompileStep) (nodes : List Nat) : Keeps forestKept (runStep step nodes) := by
  unfold runStep
  split
  · exact .pure' _
  · -- logging the compile, then failing when the directive says so
    dsimp only
    refine .ite' (.bind (.forIn' fun n _ _ => ?_) fun _ => ?_)
      (.bind (.mapM' fun _ _ => keeps_readWorld _) fun _ => .bind (keeps_log _) fun _ => ?_)
    · exact .bind (keeps_readWorld _) fun _ => .bind (keeps_log _) fun _ => .pure' _
    all_goals
      split
      · exact .fail' _
      · exact .pure' _
  · -- marking a node rewrites its data bag and keeps its children
    refine .bind (.forIn' fun n _ _ => Keeps.get_bind fun w => ?_) fun _ => .pure' _
    cases hnode : w.nodes[n]? with
    | none => rfl
    | some node =>
      dsimp only
      cases node.parsed with
      | false => rfl
      | true => exact shape_set! hnode rfl
  · exact .bind (.mapM' fun _ _ => keeps_readWorld _) fun _ => .modify' fun _ => rfl

theorem keeps_compileMatch (node : Nat) (m : Match) : Keeps forestKept (compileMatch node m) := by
  unfold compileMatch
  refine .bind .get' fun _ => .bind (.attempt (keeps_runStep _ _)) fun r => ?_
  split
  · exact .pure' _
  · exact .fail' _

theorem keeps_compileOn (node : Nat) (m : Match) : Keeps forestKept (compileOn node m) := by
  unfold compileOn
  refine .bind .get' fun _ => .bind (.attempt (keeps_runStep _ _)) fun r => ?_
  split <;> exact .pure' _

theorem keeps_applyMatches (ms : List Match) (node : Nat) : Keeps forestKept (applyMatches ms node) := by
  refine .bind (keeps_applyFrom (keeps_compileOn node) _ _ _) fun ⟨_, failure⟩ => ?_
  cases failure with
  | some e => exact .fail' _
  | none => exact .pure' _

theorem keeps_runWith (hk : KeepsShape k) (depth : Nat) (roots : List Nat) :
    Keeps forestKept (runWith k c depth roots) := by
  induction depth generalizing roots with
  | zero => exact .pure' _
  | succ depth ih =>
    unfold runWith
    refine .bind (.forIn' fun n _ _ => ?_) fun _ => .pure' _
    refine .bind (keeps_collectWith hk n) fun ms => .bind (keeps_applyMatches ms n) fun t => ?_
    exact .ite' (.bind .get' fun _ => .bind (ih _) fun _ => .pure' _) (.pure' _)

end Kept

/-! ## The walk -/

/-- The nodes of a forest in pre-order, each with the number of nodes listed below it, at most
`depth` levels deep. Numbers with no node are left out. -/
def preorder (forest : Array (List Nat)) : Nat → List Nat → List (Nat × Nat)
  | 0, _ => []
  | depth + 1, roots => roots.flatMap fun n =>
    match forest[n]? with
    | none => []
    | some children =>
      let below := preorder forest depth children
      (n, below.length) :: below

/-- Compiles the nodes of a pre-order in turn, each with the matches it selects; after a node on
which a terminal directive applied, the nodes listed below it are skipped. -/
def compileInOrder (k : Knot) (c : Nat) : List (Nat × Nat) → Run Unit
  | [] => pure ()
  | (n, below) :: rest => do
    let ms ← collectWith k c n
    forM (selectMatches ms) (compileMatch n)
    compileInOrder k c (if hasTerminal ms then rest.drop below else rest)
termination_by l => l.length
decreasing_by
  split
  · simp only [List.length_drop, List.length_cons]
    omega
  · simp

theorem preorder_cons (forest : Array (List Nat)) (depth n : Nat) (rest : List Nat) :
    preorder forest (depth + 1) (n :: rest) =
      (match forest[n]? with
        | none => []
        | some children => (n, (preorder forest depth children).length) :: preorder forest depth children) ++
      preorder forest (depth + 1) rest := by
  simp only [preorder, List.flatMap_cons]

theorem runWith_nil (k : Knot) (c depth : Nat) : runWith k c depth [] = pure () := by
  cases depth <;> rfl

theorem runWith_cons (k : Knot) (c depth n : Nat) (rest : List Nat) :
    runWith k c (depth + 1) (n :: rest) = (do
      let ms ← collectWith k c n
      let terminal ← applyMatches ms n
      if !terminal then
        runWith k c depth (((← get).nodes[n]?.map (·.children)).getD [])) >>= fun _ =>
      runWith k c (depth + 1) rest := by
  simp only [runWith, List.forIn_cons, bind_assoc]
  congr 1
  funext ms
  congr 1
  funext t
  split <;> simp

section Walk

variable {k : Knot} {c : Nat}

theorem preserves_shape {x : Run α} (hx : Keeps forestKept x) (forest : Array (List Nat)) :
    Keeps (.preserving fun w => shape w.nodes = forest) x :=
  hx.weaken fun _ _ (h : shape _ = shape _) (hw : shape _ = forest) => h.trans hw

theorem collectWith_absent {node : Nat} {w : World} (h : w.nodes[node]? = none) :
    collectWith k c node w = .ok [] w := by
  unfold collectWith
  rw [get_bind_run]
  simp only [h]
  rfl

theorem applyMatches_nil (node : Nat) : applyMatches [] node = pure false := rfl

/-- **A compile walks the pre-order.** While resolution keeps the forest's shape, compiling the
roots of a forest and then walking a pre-order `rest` is walking the forest's pre-order and then
`rest`. -/
theorem compileInOrder_preorder (hk : KeepsShape k) (forest : Array (List Nat)) (depth : Nat)
    (roots : List Nat) (rest : List (Nat × Nat)) (w : World) (hw : shape w.nodes = forest) :
    compileInOrder k c (preorder forest depth roots ++ rest) w =
      (runWith k c depth roots >>= fun _ => compileInOrder k c rest) w := by
  induction depth generalizing roots rest w with
  | zero => simp [preorder, runWith]
  | succ depth ih =>
    induction roots generalizing rest w with
    | nil => simp [preorder, runWith_nil]
    | cons n roots ihr =>
      rw [preorder_cons, runWith_cons, List.append_assoc]
      have hn : w.nodes[n]?.map (·.children) = forest[n]? := by rw [← hw, shape_getElem?]
      cases hf : forest[n]? with
      | none =>
        -- a number with no node: nothing is collected and nothing lies below it
        have hnone : w.nodes[n]? = none := by simpa [hf] using hn
        rw [List.nil_append, ihr rest w hw, bind_assoc, bind_assoc, bind_run_ok (collectWith_absent hnone),
          applyMatches_nil]
        simp only [pure_bind, Bool.not_false, if_true, bind_assoc]
        rw [get_bind_run, hnone]
        simp [runWith_nil]
      | some children =>
        rw [List.cons_append, compileInOrder, bind_assoc, bind_assoc]
        refine bind_run_congr_of_ok fun ms w1 h1 => ?_
        have hs : ByPriority ms := collectWith_byPriority k c n w ms w1 h1
        have hw1 : shape w1.nodes = forest := (preserves_shape (keeps_collectWith hk n) forest).rel_of_ok h1 hw
        rw [applyMatches_eq ms n hs, bind_assoc, bind_assoc]
        refine bind_run_congr_of_keeps _
          (preserves_shape (Keeps.forM' fun m _ => keeps_compileMatch n m) forest) hw1 fun _ w2 hw2 => ?_
        have hchildren : (w2.nodes[n]?.map (·.children)).getD [] = children := by
          rw [← shape_getElem?, hw2, hf]
          rfl
        rw [pure_bind]
        cases hasTerminal ms with
        | false =>
          -- no terminal directive applied: the walk goes on below the node, then to its siblings
          rw [if_neg Bool.false_ne_true, ih children _ w2 hw2]
          simp only [Bool.not_false, if_true, bind_assoc]
          rw [get_bind_run, hchildren]
          exact bind_run_congr_of_keeps _ (preserves_shape (keeps_runWith hk depth children) forest) hw2
            fun _ w3 hw3 => ihr rest w3 hw3
        | true =>
          -- a terminal directive applied: the nodes below it are skipped
          rw [if_pos rfl, List.drop_left, ihr rest w2 hw2]
          simp

/-- **A compile is a walk of the pre-order.** While resolution keeps the forest's shape, compiling
the roots of a forest at most `depth` levels deep walks the pre-order of the forest to that
depth. -/
theorem runWith_eq_compileInOrder (hk : KeepsShape k) (depth : Nat) (roots : List Nat) (w : World) :
    runWith k c depth roots w = compileInOrder k c (preorder (shape w.nodes) depth roots) w := by
  rw [← List.append_nil (preorder _ _ _), compileInOrder_preorder hk _ depth roots [] w rfl]
  simp [compileInOrder]

end Walk

/-! ## Depth -/

/-- No node of a forest lies `depth` levels or more below the roots. -/
def Within (forest : Array (List Nat)) : Nat → List Nat → Prop
  | 0, roots => ∀ n ∈ roots, forest[n]? = none
  | depth + 1, roots => ∀ n ∈ roots, ∀ children, forest[n]? = some children → Within forest depth children

/-- A walk that reaches below every node lists the same pre-order however deep it may go. -/
theorem preorder_of_within {forest : Array (List Nat)} {depth : Nat} {roots : List Nat}
    (h : Within forest depth roots) (more : Nat) :
    preorder forest (depth + more) roots = preorder forest depth roots := by
  induction depth generalizing roots more with
  | zero =>
    cases more with
    | zero => rfl
    | succ more =>
      rw [Nat.zero_add, preorder, preorder, List.flatMap_eq_nil_iff]
      intro n hn
      simp [h n hn]
  | succ depth ih =>
    rw [Nat.add_right_comm, preorder, preorder]
    refine List.flatMap_congr fun n hn => ?_
    cases hf : forest[n]? with
    | none => rfl
    | some children => simp only [ih (h n hn children hf) more]

/-- A forest is acyclic when its nodes can be ranked so that every child ranks below its parent:
then no node lies below itself. -/
def Acyclic (forest : Array (List Nat)) : Prop :=
  ∃ rank : Nat → Nat, ∀ n children, forest[n]? = some children → ∀ c ∈ children, rank c < rank n

/-- The nodes ranked at most as a given rank. -/
def rankedBelow (forest : Array (List Nat)) (rank : Nat → Nat) (r : Nat) : Finset Nat :=
  (Finset.range forest.size).filter fun m => rank m ≤ r

/-- In an acyclic forest, no node lies as many levels below the roots as there are nodes. -/
theorem Acyclic.within {forest : Array (List Nat)} (h : Acyclic forest) (roots : List Nat) :
    Within forest forest.size roots := by
  obtain ⟨rank, hrank⟩ := h
  -- below a node there are fewer levels than nodes ranked at most as it
  suffices hs : ∀ depth roots, (∀ n ∈ roots, ∀ children, forest[n]? = some children →
      (rankedBelow forest rank (rank n)).card ≤ depth) → Within forest depth roots by
    refine hs _ roots fun n _ _ _ => ?_
    simpa [rankedBelow] using Finset.card_filter_le (Finset.range forest.size) _
  intro depth
  induction depth with
  | zero =>
    intro roots hroots n hn
    cases hf : forest[n]? with
    | none => rfl
    | some children =>
      have hcard := hroots n hn children hf
      have hmem : n ∈ rankedBelow forest rank (rank n) := by
        simp [rankedBelow, (Array.getElem?_eq_some_iff.mp hf).1]
      exact absurd (Finset.card_pos.mpr ⟨n, hmem⟩) (by omega)
  | succ depth ih =>
    intro roots hroots n hn children hf
    refine ih children fun c hc grand hg => ?_
    have hlt := hrank n children hf c hc
    -- the child ranks below its parent, so the parent is ranked below it no more
    have hsub : rankedBelow forest rank (rank c) ⊂ rankedBelow forest rank (rank n) := by
      refine Finset.ssubset_iff_of_subset (fun m hm => ?_) |>.mpr ⟨n, ?_, ?_⟩
      · simp only [rankedBelow, Finset.mem_filter] at hm ⊢
        exact ⟨hm.1, by omega⟩
      · simp [rankedBelow, (Array.getElem?_eq_some_iff.mp hf).1]
      · simp [rankedBelow]
        omega
    have := Finset.card_lt_card hsub
    have := hroots n hn children hf
    omega

/-! ## The walk of a compile -/

/-- **A compile walks the forest in pre-order.** Whenever resolving a key leaves the shape of the
markup forest alone and the forest is acyclic, a compile of some roots, given at least as many
levels as there are nodes, is the pre-order walk of the forest below the roots, numbers with no
node left out. At each node it collects the node's matches and compiles, in their order, those at
or above the priority of the first terminal match (all of them when none is terminal), a group
match over the siblings its start attribute opens and any other over the node alone. Below a node
on which a terminal directive applied nothing is compiled, while the node's siblings are. The
first failure, of a lookup while collecting or of a compile step (named by its directive), ends
the walk. -/
theorem compile_walks_preorder {k : Knot} (hk : KeepsShape k) (c : Nat) (roots : List Nat)
    (w : World) (hacyclic : Acyclic (shape w.nodes)) (depth : Nat) (hdepth : w.nodes.size ≤ depth) :
    runWith k c depth roots w = compileInOrder k c (preorder (shape w.nodes) w.nodes.size roots) w := by
  have hwithin : Within (shape w.nodes) w.nodes.size roots := by
    simpa [shape] using hacyclic.within roots
  obtain ⟨more, rfl⟩ := Nat.exists_eq_add_of_le hdepth
  rw [runWith_eq_compileInOrder hk, preorder_of_within hwithin more]

/-- Entry points that resolve every key to a list of descriptors from a table. -/
def tableKnot (table : List (String × List Descriptor)) : Knot where
  get _ key := pure (.descriptors (((table.find? (·.1 == key)).map (·.2)).getD []))
  invoke _ _ _ _ := pure .nil
  call _ _ _ := pure .nil

theorem tableKnot_keepsShape (table : List (String × List Descriptor)) :
    KeepsShape (tableKnot table) :=
  fun _ _ => .pure' _

/-- A terminal directive `a` on elements and a directive `b`, both registered, each logging its
compile; a root `a` with a child `b`, followed by a sibling `b`. -/
def terminalScene : World × List (String × List Descriptor) :=
  let directive (name : String) (priority : Int) (terminal : Bool) : Descriptor :=
    { name, restrict := .onElement, priority, terminal, multiElement := false, index := 0
      compile := .record name none false }
  ({ registries := #[{ factories := [("a", []), ("b", [])] }]
     compilers := #[0]
     nodes := #[{ kind := .element, tag := "b", label := "b" },
                { kind := .element, tag := "a", label := "a", children := [0], next := some 2 },
                { kind := .element, tag := "b", label := "b" }] },
   [("aDirective", [directive "a" 1 true]), ("bDirective", [directive "b" 0 false])])

theorem terminalScene_acyclic : Acyclic (shape terminalScene.1.nodes) := by
  refine ⟨id, fun n children h c hc => ?_⟩
  rcases n with _ | _ | _ | n <;> simp [terminalScene, shape] at h <;> subst h <;> simp_all

/-- The scene's compile from the root `a` and its sibling is the pre-order walk. -/
theorem terminalScene_walks :
    KeepsShape (tableKnot terminalScene.2) ∧ Acyclic (shape terminalScene.1.nodes) ∧
      terminalScene.1.nodes.size ≤ terminalScene.1.nodes.size + 1 ∧
      runWith (tableKnot terminalScene.2) 0 (terminalScene.1.nodes.size + 1) [1, 2] terminalScene.1 =
        compileInOrder (tableKnot terminalScene.2) 0
          (preorder (shape terminalScene.1.nodes) terminalScene.1.nodes.size [1, 2]) terminalScene.1 :=
  ⟨tableKnot_keepsShape _, terminalScene_acyclic, Nat.le_succ _,
    compile_walks_preorder (tableKnot_keepsShape _) 0 [1, 2] terminalScene.1 terminalScene_acyclic _
      (Nat.le_succ _)⟩

end Bindery.Directive
