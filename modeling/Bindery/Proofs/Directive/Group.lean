import Mathlib
import Bindery.Markup.Forest

/-!
# The group a start attribute opens

A group spans a run of siblings. Walking from its first node along the next-sibling links, the
scan keeps a depth: an element carrying the start attribute raises it, an element carrying the
end attribute but not the start one lowers it, and anything else leaves it alone. The group ends
at the first node after which the depth is zero or below, or with the last sibling. A node that
lacks the start attribute, or a scan given no start attribute, makes a group of that node alone,
and a missing node makes none.

Here the chain of siblings is stated on the node table (`SiblingChain`), the depth by
`depthAfter`, and the group as the shortest run of the chain that brings the depth down to zero
(`ClosingRun`), a run that a chain determines (`ClosingRun.unique`). On a finite chain the scan
walks exactly the chain (`siblingsFrom_eq`), so the group is that run (`groupScan_eq_iff`). A
nested group, opened and closed by the same pair of attributes, leaves the depth where it found it
(`NestedGroup.depthAfter_eq_zero`), so it never closes the group around it.

Main statement: `groupScan_shortest_closing`.
-/

namespace Bindery.Markup

/-! ## Finite chains of siblings -/

/-- A finite chain of siblings: a node, then the chain of its next sibling, ending at a node with
no next sibling. Every number of a chain names a node of the table. -/
inductive SiblingChain (nodes : Array Node) : Nat → List Nat → Prop
  | last {id : Nat} {n : Node} : nodes[id]? = some n → n.next = none → SiblingChain nodes id [id]
  | cons {id next : Nat} {n : Node} {rest : List Nat} : nodes[id]? = some n → n.next = some next →
      SiblingChain nodes next rest → SiblingChain nodes id (id :: rest)

namespace SiblingChain

variable {nodes : Array Node} {id : Nat} {chain : List Nat}

theorem exists_eq_cons (h : SiblingChain nodes id chain) : ∃ rest, chain = id :: rest := by
  cases h with
  | last => exact ⟨[], rfl⟩
  | cons => exact ⟨_, rfl⟩

theorem exists_node (h : SiblingChain nodes id chain) : ∃ n, nodes[id]? = some n := by
  cases h with
  | last hn => exact ⟨_, hn⟩
  | cons hn => exact ⟨_, hn⟩

/-- The next-sibling links determine the chain from a node. -/
theorem unique {chain' : List Nat} (h : SiblingChain nodes id chain)
    (h' : SiblingChain nodes id chain') : chain = chain' := by
  induction h generalizing chain' with
  | last hn hnext =>
    cases h' with
    | last => rfl
    | cons hn' hnext' => simp_all
  | cons hn hnext _ ih =>
    cases h' with
    | last hn' hnext' => simp_all
    | cons hn' hnext' hrest' =>
      obtain rfl := Option.some.inj (hn.symm.trans hn')
      obtain rfl := Option.some.inj (hnext.symm.trans hnext')
      rw [ih hrest']

/-- Each node of a chain begins a chain of its own, a suffix of the first. -/
theorem suffix_of_mem {x : Nat} (h : SiblingChain nodes id chain) (hx : x ∈ chain) :
    ∃ s, s <:+ chain ∧ SiblingChain nodes x s := by
  induction h with
  | last hn hnext =>
    obtain rfl := List.mem_singleton.1 hx
    exact ⟨_, List.suffix_refl _, .last hn hnext⟩
  | cons hn hnext hrest ih =>
    rcases List.mem_cons.1 hx with rfl | hx
    · exact ⟨_, List.suffix_refl _, .cons hn hnext hrest⟩
    · obtain ⟨s, hs, hchain⟩ := ih hx
      exact ⟨s, hs.trans (List.suffix_cons _ _), hchain⟩

/-- A chain passes each node once. -/
theorem nodup (h : SiblingChain nodes id chain) : chain.Nodup := by
  induction h with
  | last => simp
  | cons hn hnext hrest ih =>
    refine List.nodup_cons.2 ⟨fun hmem => ?_, ih⟩
    -- the chain from the first node, met again further on, would be shorter than itself
    obtain ⟨s, hs, hchain⟩ := hrest.suffix_of_mem hmem
    have hlen := hs.length_le
    rw [← (SiblingChain.cons hn hnext hrest).unique hchain, List.length_cons] at hlen
    omega

theorem lt_size (h : SiblingChain nodes id chain) : ∀ x ∈ chain, x < nodes.size := by
  intro x hx
  obtain ⟨s, -, hs⟩ := h.suffix_of_mem hx
  obtain ⟨n, hn⟩ := hs.exists_node
  exact (Array.getElem?_eq_some_iff.1 hn).1

/-- A chain is no longer than the node table. -/
theorem length_le (h : SiblingChain nodes id chain) : chain.length ≤ nodes.size := by
  have hsub : chain ⊆ List.range nodes.size := fun x hx => List.mem_range.2 (h.lt_size x hx)
  simpa using (h.nodup.subperm hsub).length_le

end SiblingChain

section Siblings

variable {nodes : Array Node} {id : Nat} {chain : List Nat}

theorem siblingsFrom_go_eq {fuel : Nat} (h : SiblingChain nodes id chain)
    (hfuel : chain.length ≤ fuel) : siblingsFrom.go nodes fuel id = chain := by
  induction h generalizing fuel with
  | last hn hnext =>
    obtain ⟨fuel, rfl⟩ : ∃ f, fuel = f + 1 := ⟨fuel - 1, by simp at hfuel; omega⟩
    simp [siblingsFrom.go, hn, hnext]
  | cons hn hnext _ ih =>
    obtain ⟨fuel, rfl⟩ : ∃ f, fuel = f + 1 := ⟨fuel - 1, by simp at hfuel; omega⟩
    simp [siblingsFrom.go, hn, hnext, ih (by simpa using hfuel)]

/-- On a finite chain the scan walks exactly the chain: the table is long enough for it. -/
theorem siblingsFrom_eq (h : SiblingChain nodes id chain) : siblingsFrom nodes id = chain :=
  siblingsFrom_go_eq h h.length_le

end Siblings

/-! ## The depth of a group -/

/-- How a sibling moves the depth of a group: up at an element carrying the start attribute,
down at an element carrying the end attribute but not the start one, not at all otherwise. -/
def depthStep (nodes : Array Node) (start finish : String) (id : Nat) : Int :=
  match nodes[id]? with
  | some n =>
    if n.isElement && n.hasAttr start then 1
    else if n.isElement && n.hasAttr finish then -1
    else 0
  | none => 0

/-- The depth after a run of siblings, from zero. -/
def depthAfter (nodes : Array Node) (start finish : String) (ids : List Nat) : Int :=
  (ids.map (depthStep nodes start finish)).sum

section Depth

variable {nodes : Array Node} {start finish : String}

@[simp] theorem depthAfter_nil : depthAfter nodes start finish [] = 0 := rfl

@[simp] theorem depthAfter_cons (x : Nat) (ids : List Nat) :
    depthAfter nodes start finish (x :: ids) =
      depthStep nodes start finish x + depthAfter nodes start finish ids := by
  simp [depthAfter]

@[simp] theorem depthAfter_append (a b : List Nat) :
    depthAfter nodes start finish (a ++ b) =
      depthAfter nodes start finish a + depthAfter nodes start finish b := by
  simp [depthAfter]

/-- A sibling lowers the depth by one at most. -/
theorem neg_one_le_depthStep (x : Nat) : -1 ≤ depthStep nodes start finish x := by
  unfold depthStep
  split
  · split
    · omega
    · split <;> omega
  · omega

end Depth

/-! ## The run that closes a group -/

/-- The run of a chain that closes a group entered at depth `d`: a non-empty initial run of the
chain, after each shorter non-empty initial run of which the depth is still positive, and after
all of which it is zero or below, unless the run is the whole chain. -/
structure ClosingRun (nodes : Array Node) (start finish : String) (d : Int)
    (chain run : List Nat) : Prop where
  initial : run <+: chain
  ne_nil : run ≠ []
  closes : d + depthAfter nodes start finish run ≤ 0 ∨ run = chain
  open_before : ∀ p, p <+: run → p ≠ [] → p ≠ run → 0 < d + depthAfter nodes start finish p

namespace ClosingRun

variable {nodes : Array Node} {start finish : String} {d : Int} {chain run : List Nat}

/-- A chain has one closing run: of two, the shorter would close the longer early. -/
theorem unique {run' : List Nat} (h : ClosingRun nodes start finish d chain run)
    (h' : ClosingRun nodes start finish d chain run') : run = run' := by
  -- the closing run that is an initial run of the other cannot be shorter
  have key : ∀ {a b : List Nat}, ClosingRun nodes start finish d chain a →
      ClosingRun nodes start finish d chain b → a <+: b → a = b := by
    intro a b ha hb hab
    by_contra hne
    rcases ha.closes with hclose | rfl
    · exact absurd (hb.open_before a hab ha.ne_nil hne) (by omega)
    · exact hne (List.IsPrefix.eq_of_length hab
        (Nat.le_antisymm hab.length_le hb.initial.length_le))
  rcases List.prefix_or_prefix_of_prefix h.initial h'.initial with hp | hp
  · exact key h h' hp
  · exact (key h' h hp).symm

/-- A node after which the depth is zero or below closes the group by itself. -/
theorem single {x : Nat} {rest : List Nat} (hx : d + depthStep nodes start finish x ≤ 0) :
    ClosingRun nodes start finish d (x :: rest) [x] where
  initial := List.cons_prefix_cons.2 ⟨rfl, List.nil_prefix⟩
  ne_nil := List.cons_ne_nil _ _
  closes := .inl (by simpa using hx)
  open_before p hp hne hne' := by
    rcases List.prefix_cons_iff.1 hp with rfl | ⟨t, rfl, ht⟩
    · exact absurd rfl hne
    · exact absurd (by rw [List.prefix_nil.1 ht]) hne'

/-- The last node of a chain closes the group, whatever the depth. -/
theorem last {x : Nat} : ClosingRun nodes start finish d [x] [x] where
  initial := List.prefix_refl _
  ne_nil := List.cons_ne_nil _ _
  closes := .inr rfl
  open_before p hp hne hne' := by
    rcases List.prefix_cons_iff.1 hp with rfl | ⟨t, rfl, ht⟩
    · exact absurd rfl hne
    · exact absurd (by rw [List.prefix_nil.1 ht]) hne'

/-- A node that leaves the depth positive belongs to the group, which goes on with the run that
closes it from the depth the node leaves. -/
theorem cons {x : Nat} (hx : 0 < d + depthStep nodes start finish x)
    (h : ClosingRun nodes start finish (d + depthStep nodes start finish x) chain run) :
    ClosingRun nodes start finish d (x :: chain) (x :: run) where
  initial := List.cons_prefix_cons.2 ⟨rfl, h.initial⟩
  ne_nil := List.cons_ne_nil _ _
  closes := by
    rcases h.closes with hclose | rfl
    · exact .inl (by simp; omega)
    · exact .inr rfl
  open_before p hp hne hne' := by
    rcases List.prefix_cons_iff.1 hp with rfl | ⟨t, rfl, ht⟩
    · exact absurd rfl hne
    · by_cases ht0 : t = []
      · subst ht0; simpa using hx
      · have := h.open_before t ht ht0 (fun h => hne' (h ▸ rfl))
        simp; omega

end ClosingRun

/-! ## The scan -/

section Scan

variable {nodes : Array Node} {start finish : String}

/-- One step of the scan moves the depth by the sibling's `depthStep`. -/
theorem take_cons {carries : Nat → String → Bool}
    (hc : ∀ id a, carries id a = (nodes[id]?.map (·.hasAttr a)).getD false) (d : Int) (x : Nat)
    (l : List Nat) :
    groupScan.take nodes start finish carries d (x :: l) =
      if d + depthStep nodes start finish x ≤ 0 then [x]
      else x :: groupScan.take nodes start finish carries (d + depthStep nodes start finish x) l := by
  have hstep : (if ((nodes[x]?.map (·.isElement)).getD false && carries x start) = true then d + 1
      else if ((nodes[x]?.map (·.isElement)).getD false && carries x finish) = true then d - 1
      else d) = d + depthStep nodes start finish x := by
    simp only [hc, depthStep]
    cases nodes[x]? with
    | none => simp
    | some n =>
      by_cases hs : (n.isElement && n.hasAttr start) = true
      · simp [hs]
      · by_cases hf : (n.isElement && n.hasAttr finish) = true
        · simp [hs, hf]; omega
        · simp [hs, hf]
  rw [groupScan.take, hstep]

/-- From any depth, the scan of a non-empty chain takes the run that closes the group. -/
theorem take_closingRun {carries : Nat → String → Bool}
    (hc : ∀ id a, carries id a = (nodes[id]?.map (·.hasAttr a)).getD false) (d : Int) (x : Nat)
    (l : List Nat) :
    ClosingRun nodes start finish d (x :: l) (groupScan.take nodes start finish carries d (x :: l)) := by
  induction l generalizing d x with
  | nil =>
    rw [take_cons hc]
    split
    · exact .last
    · simpa [groupScan.take] using ClosingRun.last
  | cons y l ih =>
    rw [take_cons hc]
    split
    · exact .single (by omega)
    · exact .cons (by omega) (ih _ y)

/-- Whether the node of a number carries an attribute. -/
theorem carries_eq_any (node : Nat) (a : String) :
    (nodes[node]?.map (·.hasAttr a)).getD false = nodes[node]?.any (·.hasAttr a) := by
  cases nodes[node]? <;> rfl

/-- A node lacking the start attribute, or a scan with none, makes a group of the node alone. -/
theorem groupScan_alone (node : Nat)
    (h : start = "" ∨ nodes[node]?.any (·.hasAttr start) = false) :
    groupScan nodes node start finish = [node] := by
  unfold groupScan
  rw [if_pos]
  rcases h with rfl | h
  · rfl
  · simp [carries_eq_any, h]

/-- A group is never empty: the node alone, or a scan of the siblings that begins at the node,
which is present since it carries the start attribute. -/
theorem groupScan_ne_nil (node : Nat) : groupScan nodes node start finish ≠ [] := by
  by_cases hopen : start ≠ "" ∧ nodes[node]?.any (·.hasAttr start) = true
  · obtain ⟨hstart, hcarries⟩ := hopen
    obtain ⟨n, hn⟩ := Option.isSome_iff_exists.mp (Option.isSome_of_any hcarries)
    have hsize : 0 < nodes.size := by
      have := (Array.getElem?_eq_some_iff.mp hn).1
      omega
    -- the siblings begin at the node, and the scan takes at least the first of them
    obtain ⟨fuel, hfuel⟩ : ∃ f, nodes.size = f + 1 := ⟨nodes.size - 1, by omega⟩
    unfold groupScan
    rw [if_neg (by simp [carries_eq_any, hcarries, hstart]), siblingsFrom, hfuel, siblingsFrom.go,
      take_cons (fun _ _ => rfl)]
    split <;> simp
  · rw [not_and_or, ne_eq, not_not, Bool.not_eq_true] at hopen
    rw [groupScan_alone node hopen]
    simp

/-- **The group on a finite chain.** A node carrying a non-empty start attribute opens a group
that is the run closing it from depth zero. -/
theorem groupScan_eq_iff {node : Nat} {chain : List Nat} (hchain : SiblingChain nodes node chain)
    (hstart : start ≠ "") (hcarries : nodes[node]?.any (·.hasAttr start) = true) (g : List Nat) :
    groupScan nodes node start finish = g ↔ ClosingRun nodes start finish 0 chain g := by
  obtain ⟨rest, rfl⟩ := hchain.exists_eq_cons
  have hscan : groupScan nodes node start finish =
      groupScan.take nodes start finish (fun id a => (nodes[id]?.map (·.hasAttr a)).getD false) 0
        (node :: rest) := by
    unfold groupScan
    rw [if_neg (by simp [carries_eq_any, hcarries, hstart]), siblingsFrom_eq hchain]
  have hrun : ClosingRun nodes start finish 0 (node :: rest) (groupScan.take nodes start finish
      (fun id a => (nodes[id]?.map (·.hasAttr a)).getD false) 0 (node :: rest)) :=
    take_closingRun (fun _ _ => rfl) 0 node rest
  rw [hscan]
  exact ⟨fun h => h ▸ hrun, fun h => hrun.unique h⟩

end Scan

/-! ## Nested groups -/

/-- A nested group: a run that opens at its first node, stays open after each shorter non-empty
initial run, and is closed after its last node. -/
structure NestedGroup (nodes : Array Node) (start finish : String) (inner : List Nat) : Prop where
  opens : ∃ x rest, inner = x :: rest ∧ depthStep nodes start finish x = 1
  open_before : ∀ p, p <+: inner → p ≠ [] → p ≠ inner → 0 < depthAfter nodes start finish p
  closed : depthAfter nodes start finish inner ≤ 0

/-- A nested group brings the depth back exactly to where it found it: it was positive before
its last node, which lowers it by one at most. -/
theorem NestedGroup.depthAfter_eq_zero {nodes : Array Node} {start finish : String}
    {inner : List Nat} (h : NestedGroup nodes start finish inner) :
    depthAfter nodes start finish inner = 0 := by
  obtain ⟨x, rest, rfl, hx⟩ := h.opens
  obtain ⟨front, y, hsplit⟩ : ∃ front y, x :: rest = front ++ [y] :=
    ⟨(x :: rest).dropLast, (x :: rest).getLast (List.cons_ne_nil _ _),
      (List.dropLast_append_getLast (List.cons_ne_nil _ _)).symm⟩
  have hy : -1 ≤ depthStep nodes start finish y := neg_one_le_depthStep y
  have hclosed := h.closed
  rw [hsplit, depthAfter_append] at hclosed ⊢
  by_cases hfront : front = []
  · -- a group of one node would have stayed open
    subst hfront
    simp at hsplit
    obtain ⟨rfl, -⟩ := hsplit
    simp at hclosed; omega
  · have hopen := h.open_before front (hsplit ▸ List.prefix_append _ _) hfront
      (by rw [hsplit]; simp)
    simp at hclosed ⊢; omega

section Shape

variable {nodes : Array Node} {start finish : String} {node : Nat} {chain : List Nat}

/-- On a finite chain the group is the node alone or the run that closes it. -/
theorem groupScan_alone_or_closing (hchain : SiblingChain nodes node chain) :
    groupScan nodes node start finish = [node] ∨
      ClosingRun nodes start finish 0 chain (groupScan nodes node start finish) := by
  by_cases hopen : start ≠ "" ∧ nodes[node]?.any (·.hasAttr start) = true
  · exact .inr ((groupScan_eq_iff hchain hopen.1 hopen.2 _).1 rfl)
  · refine .inl (groupScan_alone node ?_)
    by_cases hs : start = "" <;> simp_all

/-- The group is a non-empty run of siblings beginning at the node. -/
theorem groupScan_initial (hchain : SiblingChain nodes node chain) :
    ∃ rest, groupScan nodes node start finish = node :: rest ∧ node :: rest <+: chain := by
  obtain ⟨rest, rfl⟩ := hchain.exists_eq_cons
  rcases groupScan_alone_or_closing hchain with halone | hrun
  · exact ⟨[], halone, List.cons_prefix_cons.2 ⟨rfl, List.nil_prefix⟩⟩
  · obtain ⟨y, g, hg⟩ := List.exists_cons_of_ne_nil hrun.ne_nil
    rw [hg] at hrun
    obtain ⟨rfl, -⟩ := List.cons_prefix_cons.1 hrun.initial
    exact ⟨g, hg, hrun.initial⟩

/-- A group nested in the group after its first node leaves the depth positive where it closes. -/
theorem groupScan_nested_open {pre inner post : List Nat} (hchain : SiblingChain nodes node chain)
    (hg : groupScan nodes node start finish = pre ++ inner ++ post) (hpre : pre ≠ [])
    (hinner : NestedGroup nodes start finish inner) :
    0 < depthAfter nodes start finish (pre ++ inner) := by
  obtain ⟨x, rest, rfl, -⟩ := hinner.opens
  rcases groupScan_alone_or_closing hchain with halone | hrun
  · -- a group of one node has no room for a nested group after its first node
    have hlen := congrArg List.length (halone.symm.trans hg)
    simp at hlen
    have := List.length_pos_of_ne_nil hpre
    omega
  · -- the part before the nested group is a shorter run of the group, so the depth is positive
    rw [hg] at hrun
    have hbefore := hrun.open_before pre
      ((List.prefix_append pre (x :: rest)).trans (List.prefix_append _ post)) hpre (by simp)
    rw [depthAfter_append, hinner.depthAfter_eq_zero]
    omega

end Shape

/-! ## What the scan does -/

/-- What the scan of a group does on a node table. -/
structure ScansGroups (nodes : Array Node) : Prop where
  /-- A group is empty exactly when its node is missing. -/
  missing : ∀ node start finish, groupScanAt nodes node start finish = [] ↔ node = none
  /-- A node lacking the start attribute, or a scan with none, makes a group of the node alone. -/
  alone : ∀ node start finish, start = "" ∨ nodes[node]?.any (·.hasAttr start) = false →
    groupScanAt nodes (some node) start finish = [node]
  /-- Otherwise the group is the shortest run of the chain of siblings from the node that brings
  the depth down to zero or below, or the whole chain. -/
  closing : ∀ {node chain} start finish, SiblingChain nodes node chain → start ≠ "" →
    nodes[node]?.any (·.hasAttr start) = true → ∀ g,
      groupScanAt nodes (some node) start finish = g ↔ ClosingRun nodes start finish 0 chain g
  /-- The group is a non-empty run of siblings beginning at the node. -/
  run : ∀ {node chain} start finish, SiblingChain nodes node chain → ∃ rest,
    groupScanAt nodes (some node) start finish = node :: rest ∧ node :: rest <+: chain
  /-- A group nested in the group, after its first node, leaves it open. -/
  nested : ∀ {node chain pre inner post} start finish, SiblingChain nodes node chain →
    groupScanAt nodes (some node) start finish = pre ++ inner ++ post → pre ≠ [] →
    NestedGroup nodes start finish inner → 0 < depthAfter nodes start finish (pre ++ inner)

/-- **GroupScan.** A group is empty exactly when its node is missing, a node without the start
attribute is a group alone, and otherwise the group is the shortest run of siblings that closes
it, never closed by a group nested in it. -/
theorem groupScan_shortest_closing (nodes : Array Node) : ScansGroups nodes where
  missing node _ _ := by
    cases node with
    | none => exact ⟨fun _ => rfl, fun _ => rfl⟩
    | some node => exact ⟨fun h => absurd h (groupScan_ne_nil node), fun h => nomatch h⟩
  alone node _ _ h := groupScan_alone node h
  closing _ _ hchain hstart hcarries g := groupScan_eq_iff hchain hstart hcarries g
  run _ _ hchain := groupScan_initial hchain
  nested _ _ hchain hg hpre hinner := groupScan_nested_open hchain hg hpre hinner

/-- Three sibling elements: the first carries `s`, the second `e`. -/
def pairedSiblings : Array Node := #[
  { kind := .element, tag := "a", attrs := [("s", "")], next := some 1, label := "a" },
  { kind := .element, tag := "b", attrs := [("e", "")], next := some 2, label := "b" },
  { kind := .element, tag := "c", label := "c" }]

/-- The group `s` opens at the first of three siblings is the shortest run closing it, the first
two. -/
theorem paired_siblings_group : SiblingChain pairedSiblings 0 [0, 1, 2] ∧ "s" ≠ "" ∧
    pairedSiblings[0]?.any (·.hasAttr "s") = true ∧
    (groupScanAt pairedSiblings (some 0) "s" "e" = [0, 1] ↔
      ClosingRun pairedSiblings "s" "e" 0 [0, 1, 2] [0, 1]) :=
  have hchain : SiblingChain pairedSiblings 0 [0, 1, 2] :=
    .cons rfl rfl (.cons rfl rfl (.last rfl rfl))
  have hstart : "s" ≠ "" := by decide
  have hcarries : pairedSiblings[0]?.any (·.hasAttr "s") = true := by decide
  ⟨hchain, hstart, hcarries,
    (groupScan_shortest_closing pairedSiblings).closing "s" "e" hchain hstart hcarries [0, 1]⟩

end Bindery.Markup
