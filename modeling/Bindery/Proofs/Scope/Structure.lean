import Bindery.Proofs.Scope.Round

/-!
# The shape of scope trees

Scopes are made as roots and children and taken apart by destruction. A child has a lookup parent,
the scope it is created from, whose root and tree it joins, and a hierarchy parent, which lists it
among its children and through which digests reach it. A root has neither; a destroyed scope
keeps its lookup parent and has no hierarchy parent from then on.

Over any sequence of such calls on existing scopes (`Build`), the scopes keep the shape of a
forest (`Forest`): both parents of a scope are older than it, so following either kind of link
ends; every scope is listed exactly once by its hierarchy parent and by no other scope; every
scope has the root and the tree, hence the phase, queues, short-circuit marker, round limit and
loop, of its lookup parent and of its root. The observers hear of each scope's creation once and
of its destruction at most once, never of a root's.

A hierarchy parent is not tied to the tree of the lookup parent, though. A child created from one
root under a scope of another root is in the other root's hierarchy subtree, so digests of that
subtree reach it, while its state is its own tree's (`foreign_hierarchy_parent_splits_state`).
The hierarchy subtree of a scope shares the scope's state when every hierarchy parent named
belongs to the tree of the scope the child is created from.

Main statement: `scope_trees_form_forest`.
-/

namespace Bindery.Scope

open Run

/-! ## Scopes by number -/

@[simp] theorem Node.default_parent : (default : Node).parent = none := rfl

@[simp] theorem Node.default_hparent : (default : Node).hparent = none := rfl

@[simp] theorem Node.default_children : (default : Node).children = [] := rfl

/-- The scope of a number; the default scope past the end. -/
def nodeOf (scopes : Array Node) (c : Nat) : Node := scopes[c]?.getD default

theorem nodeOf_push (scopes : Array Node) (n : Node) (c : Nat) :
    nodeOf (scopes.push n) c = if c = scopes.size then n else nodeOf scopes c := by
  unfold nodeOf
  rw [Array.getElem?_push]
  split <;> rfl

theorem nodeOf_modify (scopes : Array Node) (i : Nat) (f : Node → Node) (c : Nat) :
    nodeOf (scopes.modify i f) c =
      if i = c ∧ c < scopes.size then f (nodeOf scopes c) else nodeOf scopes c := by
  unfold nodeOf
  rw [Array.getElem?_modify]
  by_cases hi : i = c
  · by_cases hc : c < scopes.size
    · simp [hi, hc]
    · simp [hi, hc]
  · simp [hi]

theorem nodeOf_of_size_le {scopes : Array Node} {c : Nat} (h : scopes.size ≤ c) :
    nodeOf scopes c = default := by
  simp [nodeOf, Array.getElem?_eq_none h]

theorem nodeAt_bind_run (id : Nat) (f : Node → Run β) (w : World) :
    (nodeAt id >>= f) w = f (nodeOf w.scopes id) w := rfl

/-- Telling the observers never stops, and keeps the scopes and trees. -/
theorem notify_ok (n : Notice) (w : World) :
    ∃ v, notify n w = .ok () v ∧ ObserversOnly.rel w v := by
  cases h : notify n w with
  | ok a v => exact ⟨v, rfl, by simpa [h, Result.world] using keeps_notify n w⟩
  | error e v => exact absurd trivial ((notify_avoids n : Avoids (fun _ => True) _) w e v h)

theorem forM_notify_ok (ns : List Notice) (w : World) :
    ∃ v, forM ns notify w = .ok () v ∧ ObserversOnly.rel w v := by
  induction ns generalizing w with
  | nil => exact ⟨w, rfl, ObserversOnly.refl w⟩
  | cons n ns ih =>
    obtain ⟨v, hv, hwv⟩ := notify_ok n w
    obtain ⟨u, hu, hvu⟩ := ih v
    exact ⟨u, by rw [List.forM_cons, bind_run_ok hv, hu], ObserversOnly.trans hwv hvu⟩

/-! ## Building trees -/

/-- A call that builds or takes apart scope trees: a new root, a new child of a scope (isolated
or not, under a hierarchy parent of its own or the scope itself), or the destruction of a
scope. -/
inductive Build where
  | root (translator : Translator) (ttl : Int) (loop : Nat) (observers : List Observer)
  | child (parent : Nat) (isolated : Bool) (hparent : Option Nat)
  | destroy (scope : Nat)

namespace Build

/-- Makes the call. -/
def run : Build → Run Unit
  | root translator ttl loop observers => do
    let _ ← newRoot translator ttl loop observers
  | child parent isolated hparent => do
    let _ ← newChild parent isolated hparent
  | destroy scope => Scope.destroy scope

/-- How many scopes a call adds. -/
def grows : Build → Nat
  | destroy _ => 0
  | _ => 1

/-- A call on scopes that exist, when there are `n`. -/
def Valid (n : Nat) : Build → Prop
  | root .. => True
  | child parent _ hparent => parent < n ∧ hparent.all (· < n)
  | destroy scope => scope < n

/-- A sequence of calls, each on scopes that exist when it is made, from `n` scopes. -/
def ValidFrom : Nat → List Build → Prop
  | _, [] => True
  | n, b :: bs => b.Valid n ∧ ValidFrom (n + b.grows) bs

/-- The notifications a call sends: the creation of the new scope, or the destruction of a scope
that still has a hierarchy parent. -/
def notices (w : World) : Build → List Notice
  | root .. | child .. => [.created w.scopes.size]
  | destroy scope =>
    if (nodeOf w.scopes scope).hparent.isSome then [.destroyed scope] else []

/-- The root a call makes. -/
def rootNode (w : World) (translator : Translator) : Node :=
  { parent := none, hparent := none, isolated := false, root := w.scopes.size, tree := w.trees.size,
    translator }

/-- The child a call makes. -/
def childNode (w : World) (parent : Nat) (isolated : Bool) (hparent : Option Nat) : Node :=
  let p := nodeOf w.scopes parent
  { parent := some parent, hparent := some (hparent.getD parent), isolated, root := p.root,
    tree := p.tree, translator := p.translator }

/-- The world a call has built when it tells the observers. -/
def start (w : World) : Build → World
  | root translator ttl loop observers =>
    { w with scopes := w.scopes.push (rootNode w translator),
             trees := w.trees.push { ttl := if ttl ≤ 0 then 10 else ttl, loop, observers } }
  | child parent isolated hparent =>
    { w with scopes := (w.scopes.push (childNode w parent isolated hparent)).modify
                         (hparent.getD parent) fun n =>
                           { n with children := n.children ++ [w.scopes.size] } }
  | destroy scope =>
    match (nodeOf w.scopes scope).hparent with
    | some h =>
      { w with scopes := w.scopes.modify h fun n => { n with children := n.children.erase scope } }
    | none => w

/-- What a call changes in the scopes once the observers are told. -/
def finish (w : World) : Build → Array Node → Array Node
  | destroy scope => fun scopes =>
    if (nodeOf w.scopes scope).hparent.isSome then
      scopes.modify scope fun n => { n with hparent := none }
    else scopes
  | _ => id

/-- **A call tells the observers exactly its notices**, between building and finishing. -/
theorem run_eq (b : Build) (w : World) :
    b.run w = (forM (b.notices w) notify >>= fun _ =>
      modify fun v => { v with scopes := b.finish w v.scopes }) (b.start w) := by
  cases b with
  | root translator ttl loop observers =>
    simp only [run, newRoot, notices, List.forM_cons, List.forM_nil, bind_assoc, pure_bind]
    rfl
  | child parent isolated hparent =>
    simp only [run, newChild, notices, List.forM_cons, List.forM_nil, bind_assoc, pure_bind]
    rfl
  | destroy scope =>
    show Scope.destroy scope w = _
    unfold Scope.destroy
    rw [nodeAt_bind_run]
    cases h : (nodeOf w.scopes scope).hparent with
    | none =>
      simp only [notices, start, finish, h, Option.isSome_none]
      rfl
    | some hp =>
      simp only [notices, start, finish, h, Option.isSome_some, if_true, List.forM_cons,
        List.forM_nil, bind_assoc, pure_bind]
      rfl

/-! ## Runs of calls -/

/-- The world after a call. -/
def next (b : Build) (w : World) : World := Result.world (b.run w)

/-- The scopes after a call. -/
def scopesAfter (b : Build) (w : World) : Array Node := b.finish w (b.start w).scopes

/-- **A call always returns**, with the scopes and trees it built; the observers change nothing
else of them. -/
theorem run_ok (b : Build) (w : World) :
    b.run w = .ok () (b.next w) ∧ (b.next w).scopes = b.scopesAfter w ∧
      (b.next w).trees = (b.start w).trees := by
  obtain ⟨v, hv, hscopes, htrees, -⟩ := forM_notify_ok (b.notices w) (b.start w)
  have hrun : b.run w = .ok () { v with scopes := b.finish w v.scopes } := by
    rw [run_eq, bind_run_ok hv]
    rfl
  simp only [next, hrun, Result.world, scopesAfter, hscopes, htrees, and_self]

/-- The world after a sequence of calls. -/
def after (w : World) (bs : List Build) : World := Result.world (forM bs run w)

theorem forM_run (w : World) (bs : List Build) : forM bs run w = .ok () (after w bs) := by
  induction bs generalizing w with
  | nil => rfl
  | cons b bs ih =>
    unfold after
    rw [List.forM_cons, bind_run_ok (run_ok b w).1, ih]
    rfl

theorem after_cons (w : World) (b : Build) (bs : List Build) :
    after w (b :: bs) = after (b.next w) bs := by
  unfold after
  rw [List.forM_cons, bind_run_ok (run_ok b w).1]

/-! ## What a call does to each scope -/

theorem nodeOf_root (translator : Translator) (ttl : Int) (loop : Nat) (observers : List Observer)
    (w : World) (c : Nat) :
    nodeOf ((root translator ttl loop observers).scopesAfter w) c =
      if c = w.scopes.size then rootNode w translator else nodeOf w.scopes c :=
  nodeOf_push _ _ _

theorem nodeOf_child {parent : Nat} {hparent : Option Nat} (isolated : Bool) {w : World}
    (hv : (child parent isolated hparent).Valid w.scopes.size) (c : Nat) :
    nodeOf ((child parent isolated hparent).scopesAfter w) c =
      if c = w.scopes.size then childNode w parent isolated hparent
      else if c = hparent.getD parent then
        { nodeOf w.scopes c with children := (nodeOf w.scopes c).children ++ [w.scopes.size] }
      else nodeOf w.scopes c := by
  obtain ⟨hp, hh⟩ := hv
  have hlt : hparent.getD parent < w.scopes.size := by cases hparent <;> simp_all
  simp only [scopesAfter, finish, start, id, nodeOf_modify, nodeOf_push, Array.size_push]
  by_cases hc : c = w.scopes.size
  · simp [hc, Nat.ne_of_lt hlt]
  · by_cases hch : c = hparent.getD parent
    · subst hch
      simp [hc, Nat.lt_succ_of_lt hlt]
    · simp [hc, hch, Ne.symm hch]

theorem nodeOf_destroy {scope h : Nat} {w : World} (hd : (nodeOf w.scopes scope).hparent = some h)
    (hs : scope < w.scopes.size) (hh : h < scope) (c : Nat) :
    nodeOf ((destroy scope).scopesAfter w) c =
      if c = scope then { nodeOf w.scopes c with hparent := none }
      else if c = h then
        { nodeOf w.scopes c with children := (nodeOf w.scopes c).children.erase scope }
      else nodeOf w.scopes c := by
  simp only [scopesAfter, finish, start, hd, Option.isSome_some, if_true, nodeOf_modify,
    Array.size_modify]
  by_cases hc : c = scope
  · subst hc
    simp [hs, Nat.ne_of_lt hh]
  · by_cases hch : c = h
    · subst hch
      simp [hc, Ne.symm hc, Nat.lt_trans hh hs]
    · simp [hc, hch, Ne.symm hc, Ne.symm hch]

theorem scopesAfter_destroy_of_none {scope : Nat} {w : World}
    (hd : (nodeOf w.scopes scope).hparent = none) : (destroy scope).scopesAfter w = w.scopes := by
  simp [scopesAfter, finish, start, hd]

/-- The notifications a sequence of calls sends, in order. -/
def trace : World → List Build → List Notice
  | _, [] => []
  | w, b :: bs => b.notices w ++ trace (b.next w) bs

end Build

/-! ## The forest -/

/-- The shape scopes keep: links to older scopes only, each scope listed once by its hierarchy
parent and by no other scope, roots unlisted and their own roots, and every scope in the root
and the tree of its lookup parent. -/
structure Forest (scopes : Array Node) : Prop where
  older : ∀ c, (nodeOf scopes c).parent.all (· < c) ∧ (nodeOf scopes c).hparent.all (· < c)
  listed : ∀ p c, (nodeOf scopes p).children.count c =
    if (nodeOf scopes c).hparent = some p then 1 else 0
  root_unlisted : ∀ c, (nodeOf scopes c).parent = none → (nodeOf scopes c).hparent = none
  root_self : ∀ c < scopes.size, (nodeOf scopes c).parent = none → (nodeOf scopes c).root = c
  joins : ∀ c p, (nodeOf scopes c).parent = some p →
    (nodeOf scopes c).root = (nodeOf scopes p).root ∧
      (nodeOf scopes c).tree = (nodeOf scopes p).tree

namespace Forest

variable {scopes : Array Node}

theorem empty : Forest #[] where
  older c := by simp [nodeOf]
  listed p c := by simp [nodeOf]
  root_unlisted c _ := by simp [nodeOf]
  root_self c hc := absurd hc (Nat.not_lt_zero c)
  joins c p h := by simp [nodeOf] at h

theorem hparent_lt (hf : Forest scopes) {c q : Nat} (h : (nodeOf scopes c).hparent = some q) :
    q < c ∧ c < scopes.size := by
  refine ⟨by simpa [h] using (hf.older c).2, Nat.lt_of_not_le fun hc => ?_⟩
  rw [nodeOf_of_size_le hc] at h
  cases h

theorem parent_lt (hf : Forest scopes) {c q : Nat} (h : (nodeOf scopes c).parent = some q) :
    q < c ∧ c < scopes.size := by
  refine ⟨by simpa [h] using (hf.older c).1, Nat.lt_of_not_le fun hc => ?_⟩
  rw [nodeOf_of_size_le hc] at h
  cases h

/-- A scope listed by another has it as hierarchy parent. -/
theorem hparent_of_mem (hf : Forest scopes) {p c : Nat} (h : c ∈ (nodeOf scopes p).children) :
    (nodeOf scopes c).hparent = some p := by
  have hcount := hf.listed p c
  have hpos : 0 < (nodeOf scopes p).children.count c := List.count_pos_iff.mpr h
  split at hcount
  · assumption
  · omega

/-- No scope is linked to the next one to be made. -/
theorem not_linked_to_size (hf : Forest scopes) (c : Nat) :
    (nodeOf scopes c).parent ≠ some scopes.size ∧
      (nodeOf scopes c).hparent ≠ some scopes.size :=
  ⟨fun h => by have := hf.parent_lt h; omega, fun h => by have := hf.hparent_lt h; omega⟩

theorem after_root {w : World} (hf : Forest w.scopes) (translator : Translator) (ttl : Int)
    (loop : Nat) (observers : List Observer) :
    Forest ((Build.root translator ttl loop observers).scopesAfter w) := by
  have hnew := hf.not_linked_to_size
  have hdef : nodeOf w.scopes w.scopes.size = default := nodeOf_of_size_le (Nat.le_refl _)
  constructor
  · intro c
    rw [Build.nodeOf_root]
    split
    · simp [Build.rootNode]
    · exact hf.older c
  · intro p c
    simp only [Build.nodeOf_root]
    by_cases hp : p = w.scopes.size <;> by_cases hc : c = w.scopes.size
    · simp [hp, hc, Build.rootNode]
    · simp [hp, hc, Build.rootNode, (hnew c).2]
    · simp [hp, hc, Build.rootNode, hf.listed p, hdef]
    · simp [hp, hc, hf.listed p c]
  · intro c
    rw [Build.nodeOf_root]
    split
    · simp [Build.rootNode]
    · exact hf.root_unlisted c
  · intro c hc hroot
    rw [Build.nodeOf_root] at hroot ⊢
    split
    · simp_all [Build.rootNode]
    · rename_i hne
      simp only [Build.scopesAfter, Build.finish, Build.start, id, Array.size_push] at hc
      exact hf.root_self c (by omega) (by simpa [hne] using hroot)
  · intro c q hq
    rw [Build.nodeOf_root] at hq
    split at hq
    · simp [Build.rootNode] at hq
    · rename_i hne
      have hqn : q ≠ w.scopes.size := fun h => (hnew c).1 (h ▸ hq)
      simp only [Build.nodeOf_root, hne, hqn, if_false]
      exact hf.joins c q hq

theorem after_child {w : World} (hf : Forest w.scopes) {parent : Nat} {hparent : Option Nat}
    (isolated : Bool) (hv : (Build.child parent isolated hparent).Valid w.scopes.size) :
    Forest ((Build.child parent isolated hparent).scopesAfter w) := by
  have hnew := hf.not_linked_to_size
  have hdef : nodeOf w.scopes w.scopes.size = default := nodeOf_of_size_le (Nat.le_refl _)
  have hp : parent < w.scopes.size := hv.1
  have hlt : hparent.getD parent < w.scopes.size := by cases hparent <;> simp_all [Build.Valid]
  have hne : hparent.getD parent ≠ w.scopes.size := Nat.ne_of_lt hlt
  constructor
  · intro c
    rw [Build.nodeOf_child isolated hv]
    split_ifs
    · simp [Build.childNode, *]
    · simpa using hf.older c
    · exact hf.older c
  · intro q c
    simp only [Build.nodeOf_child isolated hv]
    split_ifs <;> simp_all [Build.childNode, hf.listed, List.count_cons] <;> omega
  · intro c
    rw [Build.nodeOf_child isolated hv]
    split_ifs
    · simp [Build.childNode]
    · simpa using hf.root_unlisted c
    · exact hf.root_unlisted c
  · intro c hc hroot
    rw [Build.nodeOf_child isolated hv] at hroot ⊢
    simp only [Build.scopesAfter, Build.finish, Build.start, id, Array.size_modify,
      Array.size_push] at hc
    split_ifs at hroot ⊢
    · simp [Build.childNode] at hroot
    · exact hf.root_self c (by omega) hroot
    · exact hf.root_self c (by omega) hroot
  · intro c q hq
    rw [Build.nodeOf_child isolated hv] at hq
    simp only [Build.nodeOf_child isolated hv]
    by_cases hc : c = w.scopes.size
    · -- the new child joins the root and the tree of the scope it is made from
      simp only [if_pos hc] at hq ⊢
      have hq' : q = parent := by simpa [Build.childNode] using hq.symm
      subst hq'
      simp only [if_neg (Nat.ne_of_lt hp)]
      split_ifs <;> simp [Build.childNode]
    · simp only [if_neg hc] at hq ⊢
      have hq0 : (nodeOf w.scopes c).parent = some q := by split_ifs at hq <;> simpa using hq
      have hqn : q ≠ w.scopes.size := fun h => (hnew c).1 (h ▸ hq0)
      obtain ⟨hr, ht⟩ := hf.joins c q hq0
      simp only [if_neg hqn]
      split_ifs <;> simp [hr, ht]

theorem after_destroy {w : World} (hf : Forest w.scopes) {scope : Nat}
    (hv : (Build.destroy scope).Valid w.scopes.size) :
    Forest ((Build.destroy scope).scopesAfter w) := by
  cases hd : (nodeOf w.scopes scope).hparent with
  | none => rwa [Build.scopesAfter_destroy_of_none hd]
  | some h =>
    have hh : h < scope := (hf.hparent_lt hd).1
    have hs : scope < w.scopes.size := hv
    have hnode := Build.nodeOf_destroy hd hs hh
    -- destroying changes only the hierarchy parent of the scope and the children of that parent
    have hkeep : ∀ c, (nodeOf ((Build.destroy scope).scopesAfter w) c).parent =
        (nodeOf w.scopes c).parent ∧
        (nodeOf ((Build.destroy scope).scopesAfter w) c).root = (nodeOf w.scopes c).root ∧
        (nodeOf ((Build.destroy scope).scopesAfter w) c).tree = (nodeOf w.scopes c).tree := by
      intro c
      rw [hnode]
      split_ifs <;> simp
    have hsize : ((Build.destroy scope).scopesAfter w).size = w.scopes.size := by
      simp [Build.scopesAfter, Build.finish, Build.start, hd]
    constructor
    · intro c
      rw [hnode]
      split_ifs
      · simpa using (hf.older c).1
      · simpa using hf.older c
      · exact hf.older c
    · intro q c
      rw [hnode, hnode]
      split_ifs <;> simp_all [hf.listed] <;> omega
    · intro c hroot
      rw [(hkeep c).1] at hroot
      rw [hnode]
      split_ifs
      · rfl
      · simpa using hf.root_unlisted c hroot
      · exact hf.root_unlisted c hroot
    · intro c hc hroot
      rw [(hkeep c).1] at hroot
      rw [(hkeep c).2.1]
      exact hf.root_self c (hsize ▸ hc) hroot
    · intro c q hq
      rw [(hkeep c).1] at hq
      rw [(hkeep c).2.1, (hkeep c).2.2, (hkeep q).2.1, (hkeep q).2.2]
      exact hf.joins c q hq

theorem after_call {w : World} (hf : Forest w.scopes) {b : Build} (hv : b.Valid w.scopes.size) :
    Forest (b.scopesAfter w) := by
  cases b with
  | root translator ttl loop observers => exact hf.after_root translator ttl loop observers
  | child parent isolated hparent => exact hf.after_child isolated hv
  | destroy scope => exact hf.after_destroy hv

/-- Following lookup or hierarchy parents always ends. -/
theorem wellFounded_links (hf : Forest scopes) :
    WellFounded fun d c =>
      (nodeOf scopes c).parent = some d ∨ (nodeOf scopes c).hparent = some d :=
  Subrelation.wf (fun h => h.elim (fun h => (hf.parent_lt h).1) fun h => (hf.hparent_lt h).1)
    Nat.lt_wfRel.wf

/-- A lookup chain with more fuel than the number of its first scope ends at a scope without
lookup parent: the fuel never cuts it short. -/
theorem chainFrom_ends (hf : Forest scopes) (fuel c : Nat) (hc : c < fuel) :
    ∀ r ∈ (chainFrom scopes fuel c).getLast?, (nodeOf scopes r).lookupParent = none := by
  induction fuel generalizing c with
  | zero => omega
  | succ fuel ih =>
    intro r hr
    unfold chainFrom at hr
    cases hl : (nodeOf scopes c).lookupParent with
    | none =>
      simp only [nodeOf] at hl
      simp only [hl, List.getLast?_singleton, Option.mem_def, Option.some.injEq] at hr
      exact hr ▸ hl
    | some p =>
      have hp : (nodeOf scopes c).parent = some p := by
        unfold Node.lookupParent at hl
        split at hl
        · cases hl
        · exact hl
      have hpc := (hf.parent_lt hp).1
      simp only [nodeOf] at hl
      simp only [hl, List.getLast?_cons, Option.mem_def, Option.some.injEq] at hr
      -- the rest of the chain is not empty, so its last scope is the chain's
      cases hrest : (chainFrom scopes fuel p).getLast? with
      | none =>
        cases fuel with
        | zero => omega
        | succ fuel => simp [chainFrom] at hrest
      | some r' =>
        rw [hrest] at hr
        exact hr ▸ ih p (by omega) r' hrest

/-- Every scope has the tree of its root. -/
theorem tree_root (hf : Forest scopes) (c : Nat) (hc : c < scopes.size) :
    (nodeOf scopes c).tree = (nodeOf scopes (nodeOf scopes c).root).tree := by
  induction c using Nat.strongRecOn with
  | ind c ih =>
    cases hpar : (nodeOf scopes c).parent with
    | none => rw [hf.root_self c hc hpar]
    | some q =>
      -- a child has its lookup parent's root and tree, and the parent has its root's
      obtain ⟨hroot, htree⟩ := hf.joins c q hpar
      have hq := (hf.parent_lt hpar).1
      rw [hroot, htree]
      exact ih q hq (by omega)

end Forest

/-! ## Runs keep the forest -/

namespace Build

theorem size_scopesAfter (b : Build) (w : World) :
    (b.scopesAfter w).size = w.scopes.size + b.grows := by
  cases b with
  | root => simp [scopesAfter, start, finish, grows]
  | child => simp [scopesAfter, start, finish, grows]
  | destroy scope =>
    cases hd : (nodeOf w.scopes scope).hparent <;> simp [scopesAfter, start, finish, grows, hd]

theorem size_next (b : Build) (w : World) : (b.next w).scopes.size = w.scopes.size + b.grows := by
  rw [(run_ok b w).2.1, size_scopesAfter]

/-- A valid call keeps the forest, and the calls after it stay valid. -/
theorem forest_next {w : World} {b : Build} {bs : List Build} (hf : Forest w.scopes)
    (hv : ValidFrom w.scopes.size (b :: bs)) :
    Forest (b.next w).scopes ∧ ValidFrom (b.next w).scopes.size bs :=
  ⟨(run_ok b w).2.1 ▸ hf.after_call hv.1, by rw [size_next]; exact hv.2⟩

/-- A property of worlds that every valid call on a forest keeps holds after a valid sequence of
calls. -/
theorem after_of_next (P : World → Prop)
    (hstep : ∀ {w : World} {b : Build}, Forest w.scopes → b.Valid w.scopes.size → P w → P (b.next w))
    {w : World} {bs : List Build} (hf : Forest w.scopes) (hv : ValidFrom w.scopes.size bs)
    (h : P w) : P (after w bs) := by
  induction bs generalizing w with
  | nil => exact h
  | cons b bs ih =>
    obtain ⟨hnext, hbs⟩ := forest_next hf hv
    rw [after_cons]
    exact ih hnext hbs (hstep hf hv.1 h)

theorem forest_after {w : World} {bs : List Build} (hf : Forest w.scopes)
    (hv : ValidFrom w.scopes.size bs) : Forest (after w bs).scopes :=
  after_of_next (fun w => Forest w.scopes) (fun hf hb _ => (run_ok _ _).2.1 ▸ hf.after_call hb)
    hf hv hf

theorem after_nil (w : World) : after w [] = w := rfl

theorem size_after (w : World) (bs : List Build) :
    w.scopes.size ≤ (after w bs).scopes.size := by
  induction bs generalizing w with
  | nil => exact Nat.le_refl _
  | cons b bs ih =>
    rw [after_cons]
    exact Nat.le_trans (by rw [size_next]; omega) (ih (b.next w))

end Build

/-! ## What the observers hear -/

/-- Whether a notification tells of the creation of a scope. -/
def Notice.creates (c : Nat) : Notice → Bool
  | .created s => s == c
  | _ => false

/-- Whether a notification tells of the destruction of a scope. -/
def Notice.destroys (c : Nat) : Notice → Bool
  | .destroyed s => s == c
  | _ => false

/-- A destroyed scope: it has a lookup parent and no hierarchy parent. -/
def detached (scopes : Array Node) (c : Nat) : Bool :=
  (nodeOf scopes c).parent.isSome && (nodeOf scopes c).hparent.isNone

namespace Build

theorem count_creates_notices (b : Build) (w : World) (c : Nat) :
    (b.notices w).countP (Notice.creates c) =
      if w.scopes.size ≤ c ∧ c < w.scopes.size + b.grows then 1 else 0 := by
  cases b with
  | root | child =>
    have hiff : w.scopes.size = c ↔ w.scopes.size ≤ c ∧ c < w.scopes.size + 1 := by omega
    simp only [notices, grows, List.countP_singleton, Notice.creates, beq_iff_eq]
    exact ite_congr (propext hiff) (fun _ => rfl) (fun _ => rfl)
  | destroy scope =>
    have hnone : ¬(w.scopes.size ≤ c ∧ c < w.scopes.size) := by omega
    cases hd : (nodeOf w.scopes scope).hparent <;> simp [notices, grows, hd, Notice.creates, hnone]

/-- Making a root destroys no scope. -/
theorem detached_root (translator : Translator) (ttl : Int) (loop : Nat)
    (observers : List Observer) (w : World) (c : Nat) :
    detached ((root translator ttl loop observers).scopesAfter w) c = detached w.scopes c := by
  rw [detached, detached, nodeOf_root]
  split_ifs with hc
  · simp [rootNode, hc, nodeOf_of_size_le (Nat.le_refl _)]
  · rfl

/-- Making a child destroys no scope. -/
theorem detached_child {parent : Nat} {hparent : Option Nat} (isolated : Bool) {w : World}
    (hv : (child parent isolated hparent).Valid w.scopes.size) (c : Nat) :
    detached ((child parent isolated hparent).scopesAfter w) c = detached w.scopes c := by
  rw [detached, detached, nodeOf_child isolated hv]
  split_ifs with hc
  · simp [childNode, hc, nodeOf_of_size_le (Nat.le_refl _)]
  · rfl
  · rfl

/-- A destroyed scope stays destroyed. -/
theorem detached_scopesAfter {w : World} (hf : Forest w.scopes) {b : Build}
    (hv : b.Valid w.scopes.size) {c : Nat} (hc : detached w.scopes c = true) :
    detached (b.scopesAfter w) c = true := by
  cases b with
  | root translator ttl loop observers => rwa [detached_root]
  | child parent isolated hparent => rwa [detached_child isolated hv]
  | destroy scope =>
    cases hd : (nodeOf w.scopes scope).hparent with
    | none => rwa [scopesAfter_destroy_of_none hd]
    | some h =>
      rw [detached, nodeOf_destroy hd hv (hf.hparent_lt hd).1]
      split_ifs <;> simp_all [detached]

theorem count_destroys_notices {w : World} (hf : Forest w.scopes) {b : Build}
    (hv : b.Valid w.scopes.size) (c : Nat) :
    (b.notices w).countP (Notice.destroys c) =
      if detached (b.scopesAfter w) c && !detached w.scopes c then 1 else 0 := by
  cases b with
  | root translator ttl loop observers =>
    simp [notices, Notice.destroys, detached_root]
  | child parent isolated hparent =>
    simp [notices, Notice.destroys, detached_child isolated hv]
  | destroy scope =>
    cases hd : (nodeOf w.scopes scope).hparent with
    | none => simp [notices, hd, scopesAfter_destroy_of_none hd]
    | some h =>
      -- the scope had a hierarchy parent, so it is no root: now it is destroyed
      have hpar : (nodeOf w.scopes scope).parent.isSome := by
        cases hp : (nodeOf w.scopes scope).parent with
        | none => simp [hf.root_unlisted scope hp] at hd
        | some _ => rfl
      simp only [notices, hd, Option.isSome_some, if_true, List.countP_singleton,
        Notice.destroys, beq_iff_eq]
      by_cases hc : c = scope
      · subst hc
        simp [detached, nodeOf_destroy hd hv (hf.hparent_lt hd).1, hpar, hd]
      · have hsame : detached ((destroy scope).scopesAfter w) c = detached w.scopes c := by
          rw [detached, detached, nodeOf_destroy hd hv (hf.hparent_lt hd).1, if_neg hc]
          split_ifs <;> rfl
        simp [hsame, Ne.symm hc]

/-- A destroyed scope stays destroyed along a sequence of calls. -/
theorem detached_after {w : World} {bs : List Build} (hf : Forest w.scopes)
    (hv : ValidFrom w.scopes.size bs) {c : Nat} (hc : detached w.scopes c) :
    detached (after w bs).scopes c :=
  after_of_next (fun w => detached w.scopes c)
    (fun hf hb h => (run_ok _ _).2.1 ▸ detached_scopesAfter hf hb h) hf hv hc

/-- Each scope made by a sequence of calls is announced once; no other scope is. -/
theorem count_creates_trace (w : World) (bs : List Build) (c : Nat) :
    (trace w bs).countP (Notice.creates c) =
      if w.scopes.size ≤ c ∧ c < (after w bs).scopes.size then 1 else 0 := by
  induction bs generalizing w with
  | nil =>
    rw [trace, after_nil, List.countP_nil]
    split <;> omega
  | cons b bs ih =>
    have hle₀ : w.scopes.size ≤ (b.next w).scopes.size := by rw [size_next]; omega
    have hle₁ := size_after (b.next w) bs
    rw [trace, List.countP_append, count_creates_notices, ih, after_cons, ← size_next]
    split_ifs <;> omega

/-- A scope destroyed by a sequence of calls is announced once; no other scope is. -/
theorem count_destroys_trace {w : World} {bs : List Build} (hf : Forest w.scopes)
    (hv : ValidFrom w.scopes.size bs) (c : Nat) :
    (trace w bs).countP (Notice.destroys c) =
      if detached (after w bs).scopes c && !detached w.scopes c then 1 else 0 := by
  induction bs generalizing w with
  | nil => simp [trace, after_nil]
  | cons b bs ih =>
    obtain ⟨hnext, hbs'⟩ := forest_next hf hv
    rw [trace, List.countP_append, count_destroys_notices hf hv.1, ih hnext hbs', after_cons,
      ← (run_ok b w).2.1]
    -- destroyed scopes stay destroyed, so at most one of the two counts is one
    have hmono₁ : detached w.scopes c → detached (b.next w).scopes c := fun h =>
      (run_ok b w).2.1 ▸ detached_scopesAfter hf hv.1 h
    have hmono₂ : detached (b.next w).scopes c → detached (after (b.next w) bs).scopes c :=
      detached_after hnext hbs'
    revert hmono₁ hmono₂
    cases detached w.scopes c <;> cases detached (b.next w).scopes c <;>
      cases detached (after (b.next w) bs).scopes c <;> simp

end Build

/-! ## Hierarchy subtrees and shared state -/

/-- The scopes of the hierarchy subtree of a scope, reached through children lists. -/
inductive Below (scopes : Array Node) (s : Nat) : Nat → Prop
  | self : Below scopes s s
  | child {c d : Nat} : Below scopes s c → d ∈ (nodeOf scopes c).children → Below scopes s d

theorem Below.trans {scopes : Array Node} {s c d : Nat} (hsc : Below scopes s c)
    (hcd : Below scopes c d) : Below scopes s d := by
  induction hcd with
  | self => exact hsc
  | child _ hmem ih => exact .child ih hmem

/-- Every watcher a round of a digest visits is on a scope of the subtree it digests. -/
theorem below_of_mem_roundOrder {scopes : Array Node} {fuel s : Nat} {p : Nat × Nat}
    (hp : p ∈ roundOrder scopes fuel s) : Below scopes s p.1 := by
  induction fuel generalizing s with
  | zero => simp [roundOrder] at hp
  | succ fuel ih =>
    rcases List.mem_append.mp hp with hown | hbelow
    · obtain ⟨_, -, rfl⟩ := List.mem_map.mp hown
      exact .self
    · obtain ⟨c, hc, hpc⟩ := List.mem_flatMap.mp hbelow
      exact Below.trans (.child .self hc) (ih hpc)

/-- Every hierarchy link joins two scopes of one tree. -/
def LinksInTree (scopes : Array Node) : Prop :=
  ∀ c h, (nodeOf scopes c).hparent = some h → (nodeOf scopes h).tree = (nodeOf scopes c).tree

/-- With hierarchy links inside trees, a hierarchy subtree lies in the tree of its top. -/
theorem Below.tree_eq {scopes : Array Node} (hf : Forest scopes) (hl : LinksInTree scopes)
    {s c : Nat} (h : Below scopes s c) : (nodeOf scopes c).tree = (nodeOf scopes s).tree := by
  induction h with
  | self => rfl
  | child _ hmem ih => exact (hl _ _ (hf.hparent_of_mem hmem)).symm.trans ih

namespace Build

/-- A call that names no hierarchy parent outside the tree of the scope it creates from. -/
def InTree (scopes : Array Node) : Build → Prop
  | child parent _ (some h) => (nodeOf scopes h).tree = (nodeOf scopes parent).tree
  | _ => True

/-- A sequence of calls none of which names a hierarchy parent outside the tree of the scope it
creates from. -/
def AllInTree : World → List Build → Prop
  | _, [] => True
  | w, b :: bs => b.InTree w.scopes ∧ AllInTree (b.next w) bs

theorem linksInTree_scopesAfter {w : World} (hf : Forest w.scopes) (hl : LinksInTree w.scopes)
    {b : Build} (hv : b.Valid w.scopes.size) (hin : b.InTree w.scopes) :
    LinksInTree (b.scopesAfter w) := by
  have hnew := hf.not_linked_to_size
  intro c h hc
  cases b with
  | root translator ttl loop observers =>
    simp only [nodeOf_root] at hc ⊢
    split_ifs at hc with hcn
    · simp [rootNode] at hc
    · have hhn : h ≠ w.scopes.size := fun e => (hnew c).2 (e ▸ hc)
      rw [if_neg hhn, if_neg hcn]
      exact hl c h hc
  | child parent isolated hparent =>
    have hlt : hparent.getD parent < w.scopes.size := by
      cases hparent <;> simp_all [Valid]
    rw [nodeOf_child isolated hv] at hc ⊢
    rw [nodeOf_child isolated hv]
    by_cases hcn : c = w.scopes.size
    · -- the new child is linked under its hierarchy parent, in the tree it was made in
      simp only [if_pos hcn, childNode, Option.some.injEq] at hc ⊢
      subst hc
      rw [if_neg (Nat.ne_of_lt hlt)]
      cases hparent with
      | none => split_ifs <;> rfl
      | some x => split_ifs <;> exact hin
    · have hc0 : (nodeOf w.scopes c).hparent = some h := by
        simp only [if_neg hcn] at hc
        split_ifs at hc <;> simpa using hc
      have hhn : h ≠ w.scopes.size := fun e => (hnew c).2 (e ▸ hc0)
      simp only [if_neg hcn, if_neg hhn]
      have := hl c h hc0
      split_ifs <;> simpa using this
  | destroy scope =>
    cases hd : (nodeOf w.scopes scope).hparent with
    | none =>
      rw [scopesAfter_destroy_of_none hd] at hc ⊢
      exact hl c h hc
    | some hp =>
      have hnode := nodeOf_destroy hd hv (hf.hparent_lt hd).1
      rw [hnode] at hc
      have hc0 : (nodeOf w.scopes c).hparent = some h := by split_ifs at hc <;> simpa using hc
      have htree : ∀ x,
          (nodeOf ((destroy scope).scopesAfter w) x).tree = (nodeOf w.scopes x).tree :=
        fun x => by rw [hnode]; split_ifs <;> rfl
      rw [htree, htree]
      exact hl c h hc0

theorem linksInTree_after {w : World} {bs : List Build} (hf : Forest w.scopes)
    (hv : ValidFrom w.scopes.size bs) (hl : LinksInTree w.scopes) (hin : AllInTree w bs) :
    LinksInTree (after w bs).scopes := by
  induction bs generalizing w with
  | nil => exact hl
  | cons b bs ih =>
    obtain ⟨hnext, hbs⟩ := forest_next hf hv
    rw [after_cons]
    exact ih hnext hbs ((run_ok b w).2.1 ▸ linksInTree_scopesAfter hf hl hv.1 hin.1) hin.2

end Build

/-! ## Sequences of calls -/

theorem treeState_eq_of_tree {w : World} {c d : Nat}
    (h : (nodeOf w.scopes c).tree = (nodeOf w.scopes d).tree) : w.treeState c = w.treeState d := by
  unfold World.treeState World.treeIndex
  exact congrArg (fun t => w.trees[t]?.getD default) h

/-- What a sequence of calls on existing scopes does, from scopes in the shape of a forest, when
it ends in `w'`. The calls run to the end, each telling the observers exactly its notifications.
The scopes stay a forest whose links all lead to older scopes, so following them ends, and no
lookup chain is cut short. The observers hear once of the creation of each new scope and of no
other, and once of the destruction of each scope the calls destroyed and of no other, so never of
a root's. Every scope has the state of its lookup parent and of its root. When every hierarchy
link joins scopes of one tree, at the start and in every call, the hierarchy subtree of any scope
has that scope's state, and so does every watcher a digest of the scope visits. -/
structure TreeStructure (w : World) (bs : List Build) (w' : World) : Prop where
  runs : forM bs Build.run w = .ok () w'
  tells : ∀ (b : Build) (v : World), b.run v = (forM (b.notices v) notify >>= fun _ =>
    modify fun u => { u with scopes := b.finish v u.scopes }) (b.start v)
  forest : Forest w'.scopes
  links_end : WellFounded fun d c =>
    (nodeOf w'.scopes c).parent = some d ∨ (nodeOf w'.scopes c).hparent = some d
  chain_ends : ∀ c < w'.scopes.size,
    ∀ r ∈ (chainFrom w'.scopes (w'.scopes.size + 1) c).getLast?,
      (nodeOf w'.scopes r).lookupParent = none
  created_once : ∀ c, (Build.trace w bs).countP (Notice.creates c) =
    if w.scopes.size ≤ c ∧ c < w'.scopes.size then 1 else 0
  destroyed_once : ∀ c, (Build.trace w bs).countP (Notice.destroys c) =
    if detached w'.scopes c && !detached w.scopes c then 1 else 0
  root_kept : ∀ c, (nodeOf w'.scopes c).parent = none →
    (Build.trace w bs).countP (Notice.destroys c) = 0
  parent_state : ∀ c p, (nodeOf w'.scopes c).parent = some p → w'.treeState c = w'.treeState p
  root_state : ∀ c < w'.scopes.size, w'.treeState c = w'.treeState (nodeOf w'.scopes c).root
  subtree_state : LinksInTree w.scopes → Build.AllInTree w bs →
    ∀ s c, Below w'.scopes s c → w'.treeState c = w'.treeState s
  digest_state : LinksInTree w.scopes → Build.AllInTree w bs →
    ∀ s, ∀ p ∈ w'.digestOrder s, w'.treeState p.1 = w'.treeState s

theorem scope_trees_form_forest (w : World) (bs : List Build) (hf : Forest w.scopes)
    (hv : Build.ValidFrom w.scopes.size bs) : TreeStructure w bs (Build.after w bs) := by
  have hf' := Build.forest_after hf hv
  have hlinks :
      LinksInTree w.scopes → Build.AllInTree w bs → LinksInTree (Build.after w bs).scopes :=
    Build.linksInTree_after hf hv
  exact {
    runs := Build.forM_run w bs
    tells := Build.run_eq
    forest := hf'
    links_end := hf'.wellFounded_links
    chain_ends := fun c hc => hf'.chainFrom_ends _ c (by omega)
    created_once := Build.count_creates_trace w bs
    destroyed_once := Build.count_destroys_trace hf hv
    root_kept := fun c hc => by simp [Build.count_destroys_trace hf hv, detached, hc]
    parent_state := fun c p hp => treeState_eq_of_tree (hf'.joins c p hp).2
    root_state := fun c hc => treeState_eq_of_tree (hf'.tree_root c hc)
    subtree_state := fun hl hin _ _ h => treeState_eq_of_tree (h.tree_eq hf' (hlinks hl hin))
    digest_state := fun hl hin _ _ hp =>
      treeState_eq_of_tree ((below_of_mem_roundOrder hp).tree_eq hf' (hlinks hl hin)) }

/-- Two roots, a child of the first under the second as hierarchy parent, and the child's
destruction, from no scopes at all. -/
theorem two_roots_form_forest :
    Forest ({} : World).scopes ∧
      Build.ValidFrom ({} : World).scopes.size
        [.root default 10 0 [], .root default 3 0 [], .child 0 false (some 1), .destroy 2] ∧
      TreeStructure {} [.root default 10 0 [], .root default 3 0 [], .child 0 false (some 1),
        .destroy 2] (Build.after {} [.root default 10 0 [], .root default 3 0 [],
          .child 0 false (some 1), .destroy 2]) := by
  have hv : Build.ValidFrom ({} : World).scopes.size
      [.root default 10 0 [], .root default 3 0 [], .child 0 false (some 1), .destroy 2] := by
    simp [Build.ValidFrom, Build.Valid, Build.grows]
  exact ⟨Forest.empty, hv, scope_trees_form_forest {} _ Forest.empty hv⟩

/-- **A hierarchy parent from another tree splits the state.** A child made from the first of two
roots under the second as hierarchy parent lies in the second root's hierarchy subtree, so
digests of that root reach it, but its round limit is the first tree's. -/
theorem foreign_hierarchy_parent_splits_state :
    let w := Build.after {} [.root default 10 0 [], .root default 3 0 [], .child 0 false (some 1)]
    Below w.scopes 1 2 ∧ (w.treeState 2).ttl = 10 ∧ (w.treeState 1).ttl = 3 := by
  refine ⟨.child .self ?_, ?_, ?_⟩ <;> decide

end Bindery.Scope
