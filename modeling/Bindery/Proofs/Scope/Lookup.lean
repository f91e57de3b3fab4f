import Bindery.Proofs.Scope.Structure

/-!
# Looking up a name

A scope resolves a name along its lookup chain: the scope itself, then its lookup parent and so
on, the chain stopping after a root or an isolated scope. Four paths do so on their own. A lookup
searches the chain for the first scope holding the name; a trace lists every scope of the chain
with what it holds and settles on the first layer holding the name; the variables of a scope
overlay the properties of the chain, weakest first, each layer overwriting the last; and a
program evaluated on the scope sees those variables shadowed by its locals.

Over any sequence of calls that build trees and set or delete names (`Edit`), each scope holds a
name at most once (`PropsUnique`) and lookup chains end (`Forest`). Then the four paths agree
(`LookupsAgree`): each gives the value held by the first scope of the chain holding the name
(`HeldFirst`), the variables list each name once, and a program's environment gives the locals'
value of a name when they have one and the lookup's otherwise.

The overlay of layers is read through `entryOf`, the first entry of a name, as programs read
their variables. Its one law is `entryOf_overlayEntries`: the overlay gives a name the value of
the strongest layer holding it.

Main statement: `scope_lookups_agree`.
-/

namespace Bindery.Layering

/-! ## Reading tables -/

/-- The value of a name among entries, as a program reads its variables: the first entry's. -/
def entryOf (entries : List (String × Value)) (k : String) : Option Value :=
  (entries.find? (·.1 == k)).map (·.2)

section Entries

variable {k : String}

@[simp] theorem entryOf_nil : entryOf [] k = none := rfl

theorem entryOf_cons (e : String × Value) (l : List (String × Value)) :
    entryOf (e :: l) k = if e.1 = k then some e.2 else entryOf l k := by
  by_cases h : e.1 = k <;> simp [entryOf, h]

@[simp] theorem entryOf_append (a b : List (String × Value)) :
    entryOf (a ++ b) k = (entryOf a k).or (entryOf b k) := by
  induction a with
  | nil => simp
  | cons e a ih =>
    rw [List.cons_append, entryOf_cons, entryOf_cons, ih]
    split <;> simp

theorem entryOf_eq_none_iff (l : List (String × Value)) : entryOf l k = none ↔ k ∉ l.map (·.1) := by
  induction l with
  | nil => simp
  | cons e l ih =>
    rw [entryOf_cons]
    by_cases h : e.1 = k
    · simp [h]
    · simp [h, ih, Ne.symm h]

/-- With each name once, an entry is the value of its name. -/
theorem mem_iff_entryOf {l : List (String × Value)} (hl : (l.map (·.1)).Nodup) (v : Value) :
    (k, v) ∈ l ↔ entryOf l k = some v := by
  induction l with
  | nil => simp
  | cons e l ih =>
    obtain ⟨hnot, hl⟩ := List.nodup_cons.1 hl
    by_cases h : e.1 = k
    · -- the rest of the list does not hold the name again
      obtain ⟨k', v'⟩ := e
      simp only at h
      subst h
      have hrest : (k', v) ∉ l := fun hm => hnot (List.mem_map.2 ⟨_, hm, rfl⟩)
      rw [entryOf_cons, if_pos rfl]
      simp [hrest, eq_comm]
    · have hne : (k, v) ≠ e := fun he => h (he ▸ rfl)
      rw [entryOf_cons, if_neg h, ← ih hl, List.mem_cons]
      simp [hne]

/-- With each name once, reading from the end finds the same entry. -/
theorem entryOf_reverse {l : List (String × Value)} (hl : (l.map (·.1)).Nodup) :
    entryOf l.reverse k = entryOf l k := by
  have hrev : (l.reverse.map (·.1)).Nodup := by rw [List.map_reverse]; exact List.nodup_reverse.2 hl
  apply Option.ext
  intro v
  rw [← mem_iff_entryOf hl, ← mem_iff_entryOf hrev, List.mem_reverse]

/-- Entries that keep every entry of a name keep its value. -/
theorem entryOf_filter_of_keeps {p : String × Value → Bool} (hp : ∀ v, p (k, v) = true)
    (l : List (String × Value)) : entryOf (l.filter p) k = entryOf l k := by
  induction l with
  | nil => rfl
  | cons e l ih =>
    by_cases he : p e = true
    · rw [List.filter_cons_of_pos he, entryOf_cons, entryOf_cons, ih]
    · have hne : e.1 ≠ k := by
        obtain ⟨k', v'⟩ := e
        rintro rfl
        exact he (hp v')
      rw [List.filter_cons_of_neg he, entryOf_cons, if_neg hne, ih]

/-- Entries that drop every entry of a name do not hold it. -/
theorem entryOf_filter_of_drops {p : String × Value → Bool} (hp : ∀ v, p (k, v) = false)
    (l : List (String × Value)) : entryOf (l.filter p) k = none := by
  rw [entryOf_eq_none_iff]
  intro hmem
  obtain ⟨⟨k', v⟩, hkv, rfl⟩ := List.mem_map.1 hmem
  simp [hp v] at hkv

/-- Entries shadowed by others: a name takes the shadowing value when there is one. -/
theorem entryOf_shadowed {p : String × Value → Bool} (base shadow : List (String × Value))
    (hp : ∀ v, p (k, v) = !shadow.any (·.1 == k)) :
    entryOf (base.filter p ++ shadow) k = (entryOf shadow k).or (entryOf base k) := by
  rw [entryOf_append]
  by_cases hin : shadow.any (·.1 == k) = true
  · -- the name is shadowed: the base's entries of it are dropped
    have hsome : entryOf shadow k ≠ none := by
      rw [Ne, entryOf_eq_none_iff, not_not]
      obtain ⟨x, hx, hxk⟩ := List.any_eq_true.1 hin
      exact List.mem_map.2 ⟨x, hx, by simpa using hxk⟩
    rw [entryOf_filter_of_drops (fun v => by simp [hp v, hin])]
    obtain ⟨a, ha⟩ := Option.ne_none_iff_exists'.1 hsome
    simp [ha]
  · have hnone : entryOf shadow k = none := by
      rw [entryOf_eq_none_iff]
      intro hmem
      obtain ⟨x, hx, hxk⟩ := List.mem_map.1 hmem
      exact hin (List.any_eq_true.2 ⟨x, hx, by simp [hxk]⟩)
    have hout : shadow.any (·.1 == k) = false := Bool.eq_false_iff.2 hin
    rw [entryOf_filter_of_keeps (fun v => by rw [hp v, hout]; rfl), hnone]
    simp

end Entries

/-! ## Overlays -/

section Overlay

variable {k : String}

/-- Putting entries one by one into a table, each setting the value of its name, leaves a name
the value of the last entry of that name, or the table's when none has it. -/
theorem entryOf_foldl {put : List (String × Value) → String × Value → List (String × Value)}
    (hput : ∀ acc e, entryOf (put acc e) k = if e.1 = k then some e.2 else entryOf acc k)
    (layer acc : List (String × Value)) :
    entryOf (layer.foldl put acc) k = (entryOf layer.reverse k).or (entryOf acc k) := by
  induction layer generalizing acc with
  | nil => simp
  | cons e layer ih =>
    rw [List.foldl_cons, ih, hput, List.reverse_cons, entryOf_append, Option.or_assoc]
    congr 1
    rw [entryOf_cons, entryOf_nil]
    split <;> simp

/-- Putting entries into a table keeps each name once. -/
theorem nodup_foldl {α : Type} {put : List (String × Value) → α → List (String × Value)}
    (hput : ∀ acc e, (acc.map (·.1)).Nodup → ((put acc e).map (·.1)).Nodup)
    (layer : List α) (acc : List (String × Value)) (hacc : (acc.map (·.1)).Nodup) :
    ((layer.foldl put acc).map (·.1)).Nodup := by
  induction layer generalizing acc with
  | nil => exact hacc
  | cons e layer ih => exact ih _ (hput acc e hacc)

/-- Changing values but no names, a name reads the changed value of its first entry. -/
theorem entryOf_map {g : String × Value → String × Value} (hg : ∀ x, (g x).1 = x.1)
    (l : List (String × Value)) :
    entryOf (l.map g) k = (l.find? (·.1 == k)).map fun x => (g x).2 := by
  induction l with
  | nil => rfl
  | cons y l ih =>
    rw [List.map_cons, entryOf_cons, hg, ih, List.find?_cons]
    by_cases h : y.1 = k
    · simp [h]
    · have hb : (y.1 == k) = false := by simpa using h
      simp [h, hb]

/-- How the overlay puts one entry: over the value of its name, or last when new. -/
theorem entryOf_overlayPut (acc : List (String × Value)) (e : String × Value) :
    entryOf (if acc.any (·.1 == e.1) then acc.map fun (k', v') => if k' == e.1 then (k', e.2) else (k', v')
      else acc ++ [e]) k = if e.1 = k then some e.2 else entryOf acc k := by
  have hg : ∀ x : String × Value,
      ((fun (k', v') => if k' == e.1 then (k', e.2) else (k', v')) x : String × Value).1 = x.1 := by
    rintro ⟨k', v'⟩
    dsimp only
    split <;> rfl
  split
  · rename_i hany
    rw [entryOf_map hg]
    split
    · -- the first entry of the name now holds the new value
      rename_i hk
      subst hk
      obtain ⟨x, hx⟩ := Option.isSome_iff_exists.1 (List.find?_isSome.2 (List.any_eq_true.1 hany))
      have hxk : x.1 = e.1 := by simpa using List.find?_some hx
      obtain ⟨k', v'⟩ := x
      simp only at hxk
      simp [hx, hxk]
    · -- entries of other names keep their values
      rename_i hk
      cases hfind : acc.find? (·.1 == k) with
      | none => simp [entryOf, hfind]
      | some x =>
        have hxk : x.1 = k := by simpa using List.find?_some hfind
        obtain ⟨k', v'⟩ := x
        simp only at hxk
        subst hxk
        simp [entryOf, hfind, Ne.symm hk]
  · rename_i hnew
    rw [entryOf_append, entryOf_cons, entryOf_nil]
    split
    · rename_i hk
      subst hk
      have hnone : entryOf acc e.1 = none := by
        rw [entryOf_eq_none_iff]
        intro hmem
        obtain ⟨x, hx, hxk⟩ := List.mem_map.1 hmem
        exact hnew (List.any_eq_true.2 ⟨x, hx, by simp [hxk]⟩)
      simp [hnone]
    · simp

/-- The overlay keeps each name once as it puts an entry. -/
theorem nodup_overlayPut (acc : List (String × Value)) (e : String × Value)
    (hacc : (acc.map (·.1)).Nodup) :
    ((if acc.any (·.1 == e.1) then acc.map fun (k', v') => if k' == e.1 then (k', e.2) else (k', v')
      else acc ++ [e]).map (·.1)).Nodup := by
  split
  · -- replacing values keeps the names
    have hkeys : ((acc.map fun (k', v') => if k' == e.1 then (k', e.2) else (k', v')).map (·.1)) =
        acc.map (·.1) := by
      rw [List.map_map]
      congr 1
      funext x
      obtain ⟨k', v'⟩ := x
      by_cases h : k' = e.1 <;> simp [h]
    rwa [hkeys]
  · rename_i hnew
    have hout : e.1 ∉ acc.map (·.1) := by
      intro hmem
      obtain ⟨x, hx, hxk⟩ := List.mem_map.1 hmem
      exact hnew (List.any_eq_true.2 ⟨x, hx, by simp [hxk]⟩)
    rw [List.map_append, List.map_singleton, List.nodup_append]
    exact ⟨hacc, by simp, fun a ha b hb => by simp at hb; exact hb ▸ fun h => hout (h ▸ ha)⟩

/-- An overlay holds each name once. -/
theorem nodup_overlayEntries (layers : List (List (String × Value))) :
    ((overlayEntries layers).map (·.1)).Nodup := by
  unfold overlayEntries
  refine nodup_foldl (fun acc layer hacc => nodup_foldl (fun acc e hacc => ?_) layer acc hacc) _ []
    List.nodup_nil
  rcases e with ⟨k', v'⟩
  exact nodup_overlayPut acc (k', v') hacc

/-- **The overlay gives a name the value of the strongest layer holding it**, each layer read
from its last entry. -/
theorem entryOf_overlayEntries (layers : List (List (String × Value))) :
    entryOf (overlayEntries layers) k = layers.findSome? fun l => entryOf l.reverse k := by
  unfold overlayEntries
  induction layers with
  | nil => rfl
  | cons l layers ih =>
    rw [List.reverse_cons, List.foldl_append, List.foldl_cons, List.foldl_nil,
      entryOf_foldl (fun acc e => by rcases e with ⟨k', v'⟩; exact entryOf_overlayPut acc (k', v')),
      ih, List.findSome?_cons]
    cases entryOf l.reverse k <;> rfl

end Overlay

end Bindery.Layering

namespace Bindery.Scope

open Layering Run

/-! ## Lookup chains -/

/-- The lookup chain of a scope: the scope, then the lookup chain of its lookup parent, ending at
a scope with none, a root or an isolated scope. -/
inductive LookupChain (scopes : Array Node) : Nat → List Nat → Prop
  | last {s : Nat} : (nodeOf scopes s).lookupParent = none → LookupChain scopes s [s]
  | cons {s p : Nat} {rest : List Nat} : (nodeOf scopes s).lookupParent = some p →
      LookupChain scopes p rest → LookupChain scopes s (s :: rest)

theorem Node.parent_of_lookupParent {n : Node} {p : Nat} (h : n.lookupParent = some p) :
    n.parent = some p := by
  unfold Node.lookupParent at h
  split at h
  · cases h
  · exact h

/-- In a forest, a chain of lookups whose fuel exceeds the number of its first scope is the
whole lookup chain. -/
theorem lookupChain_chainFrom {scopes : Array Node} (hf : Forest scopes) {fuel s : Nat}
    (hs : s < fuel) : LookupChain scopes s (chainFrom scopes fuel s) := by
  induction fuel generalizing s with
  | zero => omega
  | succ fuel ih =>
    unfold chainFrom
    cases hl : (nodeOf scopes s).lookupParent with
    | none =>
      have hl' := hl
      simp only [nodeOf] at hl'
      simp only [hl']
      exact .last hl
    | some p =>
      -- the lookup parent is older, so the fuel left reaches past it
      have hp := (hf.parent_lt (Node.parent_of_lookupParent hl)).1
      have hl' := hl
      simp only [nodeOf] at hl'
      simp only [hl']
      exact .cons hl (ih (by omega))

/-! ## What a chain holds -/

/-- What a chain of scopes holds under a name: the value stored under it by the first scope of
the chain holding it, or nothing when no scope of the chain does. -/
def HeldFirst (scopes : Array Node) (chain : List Nat) (k : String) : Option Value → Prop
  | some v => ∃ pre c post, chain = pre ++ c :: post ∧ (k, v) ∈ (nodeOf scopes c).props ∧
      ∀ c' ∈ pre, k ∉ (nodeOf scopes c').props.map (·.1)
  | none => ∀ c ∈ chain, k ∉ (nodeOf scopes c).props.map (·.1)

/-- Every scope holds each name once. -/
def PropsUnique (scopes : Array Node) : Prop := ∀ c, ((nodeOf scopes c).props.map (·.1)).Nodup

/-- Searching a chain for the first scope holding a name finds what the chain holds. -/
theorem heldFirst_findSome? {scopes : Array Node} (hu : PropsUnique scopes) (k : String)
    (chain : List Nat) :
    HeldFirst scopes chain k (chain.findSome? fun c => (nodeOf scopes c).own? k) := by
  induction chain with
  | nil => exact fun c hc => absurd hc List.not_mem_nil
  | cons c rest ih =>
    rw [List.findSome?_cons]
    cases hown : (nodeOf scopes c).own? k with
    | some v => exact ⟨[], c, rest, rfl, (mem_iff_entryOf (hu c) v).2 hown, by simp⟩
    | none =>
      -- past a scope not holding the name, the chain holds what the rest holds
      have hnot : k ∉ (nodeOf scopes c).props.map (·.1) := (entryOf_eq_none_iff _).1 hown
      dsimp only
      cases hrest : rest.findSome? fun c => (nodeOf scopes c).own? k with
      | none =>
        rw [hrest] at ih
        intro c' hc'
        rcases List.mem_cons.1 hc' with rfl | hc'
        · exact hnot
        · exact ih c' hc'
      | some v =>
        rw [hrest] at ih
        obtain ⟨pre, c', post, hsplit, hmem, hpre⟩ := ih
        refine ⟨c :: pre, c', post, by rw [hsplit]; rfl, hmem, ?_⟩
        intro c'' hc''
        rcases List.mem_cons.1 hc'' with rfl | hc''
        · exact hnot
        · exact hpre c'' hc''

/-! ## Four paths to a name -/

/-- The entries of the locals a program runs with: a table's, none for anything else. -/
def localEntries (w : World) : Value → List (String × Value)
  | .table id => w.tables[id]?.getD []
  | _ => []

/-- What a scope reads of a name along each path, when the name resolves to `r`. -/
structure LookupsAgree (w : World) (s : Nat) (k : String) (locals : Value) (r : Option Value) :
    Prop where
  /-- `r` is what the first scope of the lookup chain holding the name stores under it. -/
  held : ∃ chain, LookupChain w.scopes s chain ∧ HeldFirst w.scopes chain k r
  /-- A lookup finds `r`. -/
  looks_up : lookup s k w = .ok r w
  /-- A trace settles on `r`. -/
  traces : ∃ layers, trace s k w = .ok layers w ∧ effective layers = r
  /-- The variables list each name once, and this name exactly with `r`. -/
  lists : ∃ vs, vars s w = .ok vs w ∧ (vs.map (·.1)).Nodup ∧ ∀ v, (k, v) ∈ vs ↔ r = some v
  /-- A program sees the locals' value of the name, and `r` when the locals lack it. -/
  sees : ∃ env, environmentOf (.scope s) locals w = .ok env w ∧
    entryOf env k = (entryOf (localEntries w locals) k).or r

section Paths

variable (w : World) (s : Nat) (k : String)

/-- A trace settles on the value of the first scope of the chain holding the name. -/
theorem trace_effective : ∃ layers, trace s k w = .ok layers w ∧
    effective layers = (chainFrom w.scopes (w.scopes.size + 1) s).findSome? fun c =>
      (nodeOf w.scopes c).own? k := by
  refine ⟨_, rfl, ?_⟩
  generalize chainFrom w.scopes (w.scopes.size + 1) s = chain
  induction chain with
  | nil => rfl
  | cons c rest ih =>
    unfold effective at ih ⊢
    rw [List.map_cons, List.findSome?_cons, List.find?_cons]
    simp only [nodeOf] at ih ⊢
    cases (w.scopes[c]?.getD default).own? k with
    | some v => rfl
    | none => exact ih

/-- With each name held once, the overlay of a chain's properties gives a name the value of the
first scope of the chain holding it. -/
theorem entryOf_chain_overlay (hu : PropsUnique w.scopes) (chain : List Nat) :
    entryOf (overlayEntries (chain.map fun c => (nodeOf w.scopes c).props)) k =
      chain.findSome? fun c => (nodeOf w.scopes c).own? k := by
  rw [entryOf_overlayEntries, List.findSome?_map]
  congr 1
  funext c
  exact entryOf_reverse (hu c)

/-- The variables of a scope overlay the properties along its lookup chain. -/
theorem vars_run : vars s w = .ok (overlayEntries ((chainFrom w.scopes (w.scopes.size + 1) s).map
    fun c => (nodeOf w.scopes c).props)) w := rfl

/-- A program's environment is the variables of the scope shadowed by the locals. -/
theorem environmentOf_scope (locals : Value) : ∃ p : String × Value → Bool,
    (∀ v, p (k, v) = !(localEntries w locals).any (·.1 == k)) ∧
    environmentOf (.scope s) locals w =
      .ok ((overlayEntries ((chainFrom w.scopes (w.scopes.size + 1) s).map fun c =>
        (nodeOf w.scopes c).props)).filter p ++ localEntries w locals) w := by
  cases locals <;> exact ⟨_, fun _ => rfl, rfl⟩

/-- **The four paths agree** on every scope of a forest whose scopes hold each name once. -/
theorem lookupsAgree_of (hf : Forest w.scopes) (hu : PropsUnique w.scopes)
    (hs : s < w.scopes.size + 1) (locals : Value) :
    LookupsAgree w s k locals ((chainFrom w.scopes (w.scopes.size + 1) s).findSome? fun c =>
      (nodeOf w.scopes c).own? k) where
  held := ⟨_, lookupChain_chainFrom hf hs, heldFirst_findSome? hu k _⟩
  looks_up := rfl
  traces := trace_effective w s k
  lists := by
    refine ⟨_, vars_run w s, nodup_overlayEntries _, fun v => ?_⟩
    rw [mem_iff_entryOf (nodup_overlayEntries _), entryOf_chain_overlay w k hu]
  sees := by
    obtain ⟨p, hp, hrun⟩ := environmentOf_scope w s k locals
    refine ⟨_, hrun, ?_⟩
    rw [entryOf_shadowed _ _ hp, entryOf_chain_overlay w k hu]

end Paths

/-! ## Building trees and editing names -/

/-- Changing only the properties of scopes keeps the forest. -/
theorem Forest.of_props {scopes scopes' : Array Node} (hf : Forest scopes)
    (hsize : scopes'.size = scopes.size)
    (h : ∀ c, { nodeOf scopes' c with props := (nodeOf scopes c).props } = nodeOf scopes c) :
    Forest scopes' := by
  have hpar : ∀ c, (nodeOf scopes' c).parent = (nodeOf scopes c).parent :=
    fun c => by have := congrArg Node.parent (h c); exact this
  have hhpar : ∀ c, (nodeOf scopes' c).hparent = (nodeOf scopes c).hparent :=
    fun c => by have := congrArg Node.hparent (h c); exact this
  have hch : ∀ c, (nodeOf scopes' c).children = (nodeOf scopes c).children :=
    fun c => by have := congrArg Node.children (h c); exact this
  have hroot : ∀ c, (nodeOf scopes' c).root = (nodeOf scopes c).root :=
    fun c => by have := congrArg Node.root (h c); exact this
  have htree : ∀ c, (nodeOf scopes' c).tree = (nodeOf scopes c).tree :=
    fun c => by have := congrArg Node.tree (h c); exact this
  exact {
    older := fun c => by rw [hpar, hhpar]; exact hf.older c
    listed := fun p c => by rw [hch, hhpar]; exact hf.listed p c
    root_unlisted := fun c => by rw [hpar, hhpar]; exact hf.root_unlisted c
    root_self := fun c hc => by rw [hpar, hroot]; exact hf.root_self c (hsize ▸ hc)
    joins := fun c p => by rw [hpar, hroot, hroot, htree, htree]; exact hf.joins c p }

/-- Changing the properties of one scope, each name still held once, keeps the forest and every
scope holding each name once. -/
theorem keeps_modify_props {scopes : Array Node} (hf : Forest scopes) (hu : PropsUnique scopes)
    (i : Nat) {f : Node → Node} (hshape : ∀ n, { f n with props := n.props } = n)
    (hnodup : ∀ n, (n.props.map (·.1)).Nodup → ((f n).props.map (·.1)).Nodup) :
    Forest (scopes.modify i f) ∧ PropsUnique (scopes.modify i f) := by
  refine ⟨hf.of_props Array.size_modify fun c => ?_, fun c => ?_⟩
  · rw [nodeOf_modify]
    split
    · exact hshape _
    · rfl
  · rw [nodeOf_modify]
    split
    · exact hnodup _ (hu c)
    · exact hu c

@[simp] theorem Node.default_props : (default : Node).props = [] := rfl

/-- Building and destroying scopes leaves every scope's properties as they were; a new scope
holds none. -/
theorem Build.props_scopesAfter (b : Build) (w : World) (c : Nat) :
    (nodeOf (b.scopesAfter w) c).props = (nodeOf w.scopes c).props := by
  cases b with
  | root translator ttl loop observers =>
    rw [Build.nodeOf_root]
    split
    · rename_i hc
      simp [Build.rootNode, hc, nodeOf_of_size_le]
    · rfl
  | child parent isolated hparent =>
    simp only [Build.scopesAfter, Build.finish, Build.start, id, nodeOf_modify, nodeOf_push,
      Array.size_push]
    split_ifs <;> simp_all [Build.childNode, nodeOf_of_size_le]
  | destroy scope =>
    simp only [Build.scopesAfter, Build.finish, Build.start]
    cases hd : (nodeOf w.scopes scope).hparent with
    | none => rfl
    | some h =>
      simp only [Option.isSome_some, if_true, nodeOf_modify, Array.size_modify]
      split_ifs <;> rfl

theorem modify_run (f : World → World) (w : World) : (modify f : Run Unit) w = .ok () (f w) := rfl

/-- A call on scopes: one that builds or destroys scopes, or a Set or a Delete of a name on a
scope. -/
inductive Edit where
  | build (b : Build)
  | set (scope : Nat) (name : String) (v : Value)
  | delete (scope : Nat) (name : String)

namespace Edit

/-- Makes the call. -/
def run : Edit → Run Unit
  | build b => b.run
  | set scope name v => setVar scope name v
  | delete scope name => deleteVar scope name

/-- A call on scopes that exist, when there are `n`; a Set or a Delete may name any number. -/
def Valid (n : Nat) : Edit → Prop
  | build b => b.Valid n
  | _ => True

/-- How many scopes a call adds. -/
def grows : Edit → Nat
  | build b => b.grows
  | _ => 0

/-- A sequence of calls, each on scopes that exist when it is made, from `n` scopes. -/
def ValidFrom : Nat → List Edit → Prop
  | _, [] => True
  | n, e :: es => e.Valid n ∧ ValidFrom (n + e.grows) es

/-- The world after a call. -/
def next (e : Edit) (w : World) : World := Result.world (e.run w)

/-- The world after a sequence of calls. -/
def after (w : World) (es : List Edit) : World := Result.world (forM es run w)

/-- A call always returns. -/
theorem run_ok (e : Edit) (w : World) : e.run w = .ok () (e.next w) := by
  cases e with
  | build b => exact (Build.run_ok b w).1
  | set => rfl
  | delete => rfl

theorem after_cons (w : World) (e : Edit) (es : List Edit) :
    after w (e :: es) = after (e.next w) es := by
  unfold after
  rw [List.forM_cons, bind_run_ok (run_ok e w)]

theorem size_next (e : Edit) (w : World) : (e.next w).scopes.size = w.scopes.size + e.grows := by
  cases e with
  | build b => exact Build.size_next b w
  | set => exact Array.size_modify
  | delete => exact Array.size_modify

theorem size_after (w : World) (es : List Edit) :
    (after w es).scopes.size = w.scopes.size + (es.map grows).sum := by
  induction es generalizing w with
  | nil => rfl
  | cons e es ih =>
    rw [after_cons, ih, size_next, List.map_cons, List.sum_cons]
    omega

/-- A valid call keeps the forest and every scope holding each name once. -/
theorem keeps_next {w : World} (hf : Forest w.scopes) (hu : PropsUnique w.scopes) {e : Edit}
    (hv : e.Valid w.scopes.size) : Forest (e.next w).scopes ∧ PropsUnique (e.next w).scopes := by
  cases e with
  | build b =>
    have hscopes : (Edit.next (.build b) w).scopes = b.scopesAfter w := (Build.run_ok b w).2.1
    rw [hscopes]
    exact ⟨hf.after_call hv, fun c => by rw [Build.props_scopesAfter]; exact hu c⟩
  | set scope name v =>
    -- a Set replaces the value of a name held, or holds a new name last
    simp only [Edit.next, Edit.run, setVar, modifyNode, modify_run, Result.world_ok]
    refine keeps_modify_props hf hu scope (fun n => ?_) (fun n hn => ?_)
    · dsimp only
      split <;> rfl
    · -- the names change as the overlay's do when it puts the entry
      have hput := Layering.nodup_overlayPut n.props (name, v) hn
      dsimp only at hput ⊢
      split
      · rename_i h
        rw [if_pos h] at hput
        exact hput
      · rename_i h
        rw [if_neg h] at hput
        exact hput
  | delete scope name =>
    simp only [Edit.next, Edit.run, deleteVar, modifyNode, modify_run, Result.world_ok]
    refine keeps_modify_props hf hu scope (fun n => rfl) (fun n hn => ?_)
    exact (List.Sublist.map _ List.filter_sublist).nodup hn

theorem keeps_after {w : World} {es : List Edit} (hf : Forest w.scopes) (hu : PropsUnique w.scopes)
    (hv : ValidFrom w.scopes.size es) : Forest (after w es).scopes ∧ PropsUnique (after w es).scopes := by
  induction es generalizing w with
  | nil => exact ⟨hf, hu⟩
  | cons e es ih =>
    obtain ⟨hf', hu'⟩ := keeps_next hf hu hv.1
    rw [after_cons]
    exact ih hf' hu' (by rw [size_next]; exact hv.2)

end Edit

/-- **Lookups agree.** After any sequence of calls that build and destroy scopes and set or
delete names, from scopes in the shape of a forest holding each name once, a lookup of a name
on any scope, the value its trace settles on, the scope's variables and the environment a
program evaluated on it sees all give the value stored by the first scope of its lookup chain
holding the name, the environment giving the locals' value first. -/
theorem scope_lookups_agree (w : World) (es : List Edit) (hf : Forest w.scopes)
    (hu : PropsUnique w.scopes) (hv : Edit.ValidFrom w.scopes.size es) (s : Nat)
    (hs : s < (Edit.after w es).scopes.size) (k : String) (locals : Value) :
    ∃ r, LookupsAgree (Edit.after w es) s k locals r := by
  obtain ⟨hf', hu'⟩ := Edit.keeps_after hf hu hv
  exact ⟨_, lookupsAgree_of _ s k hf' hu' (by omega) locals⟩

/-- A root and a child of it both hold `a`, under an isolated grandchild holding `b`; then the
child's `a` is deleted, and the child reads its root's `a` again, along every path. -/
theorem deleted_name_reads_through :
    let es : List Edit := [.build (.root default 10 0 []), .build (.child 0 false none),
      .build (.child 1 true none), .set 0 "a" (.int 1), .set 1 "a" (.int 2), .set 2 "b" (.int 3),
      .delete 1 "a"]
    Forest ({} : World).scopes ∧ PropsUnique ({} : World).scopes ∧
      Edit.ValidFrom ({} : World).scopes.size es ∧ 1 < (Edit.after {} es).scopes.size ∧
      ∃ r, LookupsAgree (Edit.after {} es) 1 "a" .nil r := by
  intro es
  have hu : PropsUnique ({} : World).scopes := fun c => by simp [nodeOf]
  have hv : Edit.ValidFrom ({} : World).scopes.size es := by
    simp [es, Edit.ValidFrom, Edit.Valid, Build.Valid, Edit.grows, Build.grows]
  have hs : 1 < (Edit.after {} es).scopes.size := by
    rw [Edit.size_after]
    decide
  exact ⟨Forest.empty, hu, hv, hs, scope_lookups_agree {} es Forest.empty hu hv 1 hs "a" .nil⟩

end Bindery.Scope
