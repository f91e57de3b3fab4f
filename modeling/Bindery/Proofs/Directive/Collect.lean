import Bindery.Proofs.Directive.Walk

/-!
# The directives a node matches

Collecting the directives of a node gathers candidates, then orders them. The candidates are,
for an element, the directives of its normalised tag that may sit on elements, followed, for each
attribute in markup order, by the directives of the attribute's target that may sit on
attributes. An attribute's target is its normalised name, unless that name is a non-empty base
followed by `_start`, the raw name is longer than six bytes and a directive of the base spans
groups: the target is then the base, and the match keeps the start attribute and the end
attribute, which is the raw name with its final `start` (in any case) replaced by `end`.

The order is a stable sort by priority, highest first, then by name: a permutation of the
candidates, in the order `MatchLe`, that keeps the candidates' order among matches of one priority
and one name. These conditions fix the result: candidate lists that agree on the matches of each
priority and name, in order, are ordered alike, however the rest was interleaved. Directives of
one name thus keep the order their name gives them, and the order in which different names were
registered plays no part.

Main statement: `directives_collect_sorted`.
-/

namespace Bindery.Directive

open Run

/-! ## Candidates -/

/-- The end attribute of a group's start attribute: the raw name with its last five characters
replaced by `end`. -/
def groupEnd (attr : String) : String :=
  String.ofList (attr.toList.take (attr.length - 5)) ++ "end"

/-- The directive name an attribute matches under, with the start and end attributes of its
group, both empty outside a group. -/
def attributeTarget (k : Knot) (c : Nat) (attr : String) : Run (String × String × String) :=
  match groupStart? (normalize attr) with
  | some base =>
    if attr.utf8ByteSize > 6 then do
      if ← isMultiElementWith k c base then pure (base, attr, groupEnd attr)
      else pure (normalize attr, "", "")
    else pure (normalize attr, "", "")
  | none => pure (normalize attr, "", "")

/-- The matches of an attribute: the directives of its target that may sit on attributes. -/
def attributeMatches (k : Knot) (c : Nat) (attr : String) : Run (List Match) := do
  let (name, start, finish) ← attributeTarget k c attr
  pure (matchesOf (← lookupWith k c name) .onAttribute start finish)

/-- The candidates of a node, in the order they are gathered: the directives of an element's
tag, then those of each attribute in turn. -/
def candidatesOf (k : Knot) (c : Nat) (n : Markup.Node) : Run (List Match) := do
  let tagged ← if n.isElement then do
      pure (matchesOf (← lookupWith k c (normalize n.tag)) .onElement "" "")
    else pure []
  let attributes ← n.attrs.mapM fun a => attributeMatches k c a.1
  pure (tagged ++ attributes.flatten)

/-- A loop that appends what each item gives to its state is a map followed by a join. -/
theorem forIn_append_eq_mapM {β γ : Type} (l : List β) (init : List γ) (f : β → Run (List γ))
    (body : β → List γ → Run (ForInStep (List γ)))
    (hbody : ∀ x s, body x s = f x >>= fun ms => pure (.yield (s ++ ms))) :
    forIn l init body = l.mapM f >>= fun xs => pure (init ++ xs.flatten) := by
  induction l generalizing init with
  | nil => simp
  | cons x l ih =>
    rw [List.forIn_cons, hbody, List.mapM_cons, bind_assoc, bind_assoc]
    refine congrArg (f x >>= ·) (funext fun ms => ?_)
    simp [ih]

/-- **Collecting is gathering the candidates and sorting them.** -/
theorem collectWith_eq (k : Knot) (c node : Nat) :
    collectWith k c node = (do
      match (← get).nodes[node]? with
      | some n => sortMatches <$> candidatesOf k c n
      | none => pure []) := by
  unfold collectWith
  refine congrArg (get >>= ·) (funext fun w => ?_)
  split
  · rename_i n hn
    -- name the loop over the attributes, which both kinds of node run
    extract_lets found empty loop
    simp only [hn]
    have hloop : ∀ init, loop () init = (n.attrs.mapM fun a => attributeMatches k c a.1) >>=
        fun xs => pure (sortMatches (init ++ xs.flatten)) := by
      intro init
      simp only [loop]
      rw [forIn_append_eq_mapM n.attrs _ fun a => attributeMatches k c a.1]
      · simp
      · -- one turn of the loop appends the matches of the attribute's target
        rintro ⟨attr, v⟩ s
        simp only [empty]
        unfold attributeMatches attributeTarget
        cases groupStart? (normalize attr) with
        | none => simp
        | some base =>
          by_cases hlong : attr.utf8ByteSize > 6
          · simp only [hlong, if_true, bind_assoc]
            refine congrArg (isMultiElementWith k c base >>= ·) (funext fun multi => ?_)
            cases multi <;> simp [groupEnd]
          · simp [hlong]
    unfold candidatesOf
    cases n.isElement <;> simp [hloop, found]
  · rename_i hn
    cases h : w.nodes[node]? with
    | none => rfl
    | some n => exact absurd h (hn n)

/-! ## Group attributes -/

/-- **A name opens a group** exactly when it is a non-empty base followed by `_start`. -/
theorem groupStart?_eq_some_iff (s base : String) :
    groupStart? s = some base ↔ s = base ++ "_start" ∧ base ≠ "" := by
  have hends : s.endsWith "_start" = true ↔ "_start".toList <:+ s.toList := by
    rw [String.endsWith_eq_endsWith_toSlice, String.Slice.endsWith_string_iff, String.copy_toSlice]
  unfold groupStart?
  constructor
  · intro h
    split at h
    · rename_i hcond
      simp only [Bool.and_eq_true, decide_eq_true_eq] at hcond
      obtain ⟨⟨t, ht⟩, hlen⟩ := And.intro (hends.mp hcond.1) hcond.2
      cases h
      -- the base is what precedes the six characters of `_start`
      have htake : s.toList.take (s.length - 6) = t := by
        rw [← ht, ← String.length_toList, ← ht]
        simp
      rw [htake]
      refine ⟨String.toList_inj.mp ?_, fun hempty => ?_⟩
      · rw [String.toList_append, String.toList_ofList]
        exact ht.symm
      have : t = [] := by simpa using congrArg String.toList hempty
      subst this
      rw [← String.length_toList, ← ht] at hlen
      simp at hlen
    · cases h
  · rintro ⟨rfl, hne⟩
    have hlist : (base ++ "_start").toList = base.toList ++ "_start".toList := by simp
    have hpos : 0 < base.toList.length := by
      cases hb : base.toList with
      | nil => exact absurd (String.toList_inj.mp (by simp [hb])) hne
      | cons _ _ => simp
    have hcond : ((base ++ "_start").endsWith "_start" && decide ((base ++ "_start").length > 6)) = true := by
      simp only [Bool.and_eq_true, decide_eq_true_eq, hends, hlist, ← String.length_toList]
      exact ⟨List.suffix_append _ _, by simp; omega⟩
    rw [if_pos hcond]
    congr 1
    apply String.toList_inj.mp
    simp [← String.length_toList, hlist]

/-- Dropping a namespace leaves a suffix of the name. -/
theorem dropNamespace_suffix (cs : List Char) : dropNamespace cs <:+ cs := by
  unfold dropNamespace
  split
  · dsimp only
    split
    · exact ⟨['x', _], rfl⟩
    · exact List.suffix_refl _
  · dsimp only
    split
    · exact ⟨['d', 'a', 't', 'a', _], rfl⟩
    · exact List.suffix_refl _
  · exact List.suffix_refl _

/-- Replacing separators by underscores changes no other character. -/
theorem eq_of_map_separators {cs ds : List Char} (h : cs.map (fun c => if c == '-' || c == ':' then '_' else c) = ds)
    (hd : '_' ∉ ds) : cs = ds := by
  induction cs generalizing ds with
  | nil => exact h
  | cons c cs ih =>
    cases ds with
    | nil => cases h
    | cons d ds =>
      simp only [List.map_cons, List.cons.injEq] at h
      simp only [List.mem_cons, not_or] at hd
      obtain ⟨hc, hrest⟩ := h
      refine congrArg₂ List.cons ?_ (ih hrest hd.2)
      split at hc
      · exact absurd hc hd.1
      · exact hc

/-- **The end attribute of a group** is the raw start attribute with its final `start`, in
whatever case, replaced by `end`. -/
theorem groupEnd_of_groupStart? {attr base : String} (h : groupStart? (normalize attr) = some base) :
    ∃ pre sfx, attr.toList = pre ++ sfx ∧ sfx.map Text.lowerChar = "start".toList ∧
      groupEnd attr = String.ofList pre ++ "end" := by
  obtain ⟨hnorm, -⟩ := (groupStart?_eq_some_iff _ _).mp h
  -- the normalised name ends with `_start`, so the lower-case name ends with `start`
  have hlist := congrArg String.toList hnorm
  simp only [normalize, Text.lower, String.toList_ofList, String.toList_append] at hlist
  obtain ⟨front, back, hsplit, hfront, hback⟩ := List.map_eq_append_iff.mp hlist
  have hback' : back.drop 1 = "start".toList := by
    have := congrArg (List.drop 1) hback
    rw [← List.map_drop] at this
    exact eq_of_map_separators this (by decide)
  obtain ⟨u, hu⟩ := dropNamespace_suffix ((attr.toList.map Text.lowerChar))
  have hlower : attr.toList.map Text.lowerChar = (u ++ front ++ back.take 1) ++ "start".toList := by
    rw [← hu, hsplit, ← hback', List.append_assoc, List.append_assoc, List.take_append_drop]
  obtain ⟨pre, sfx, hattr, -, hsfx⟩ := List.map_eq_append_iff.mp hlower
  have hlen : sfx.length = 5 := by simpa using congrArg List.length hsfx
  refine ⟨pre, sfx, hattr, hsfx, ?_⟩
  unfold groupEnd
  rw [← String.length_toList, hattr, List.length_append, hlen, Nat.add_sub_cancel,
    List.take_left' rfl]

/-! ## The order -/

/-- Whether a match has a priority and a name. -/
def Match.keyed (p : Int) (n : String) (m : Match) : Bool :=
  m.descriptor.priority == p && m.descriptor.name == n

theorem Match.keyed_self (m : Match) : m.keyed m.descriptor.priority m.descriptor.name = true := by
  simp [Match.keyed]

theorem Match.keyed_iff {p : Int} {n : String} {m : Match} :
    m.keyed p n = true ↔ m.descriptor.priority = p ∧ m.descriptor.name = n := by
  simp [Match.keyed]

theorem MatchLe.refl (m : Match) : MatchLe m m := .inr ⟨rfl, String.le_refl _⟩

/-- Matches in each other's order have the same priority and name. -/
theorem MatchLe.antisymm {a b : Match} (hab : MatchLe a b) (hba : MatchLe b a) :
    a.descriptor.priority = b.descriptor.priority ∧ a.descriptor.name = b.descriptor.name := by
  rcases hab with hab | ⟨hab, hnab⟩ <;> rcases hba with hba | ⟨hba, hnba⟩
  · omega
  · omega
  · omega
  · exact ⟨hab, String.le_antisymm hnab hnba⟩

theorem matchLe_of_keyed {p : Int} {n : String} {a b : Match} (ha : a.keyed p n = true)
    (hb : b.keyed p n = true) : MatchLe a b := by
  obtain ⟨hpa, hna⟩ := Match.keyed_iff.mp ha
  obtain ⟨hpb, hnb⟩ := Match.keyed_iff.mp hb
  exact .inr ⟨hpa.trans hpb.symm, hna.trans hnb.symm ▸ String.le_refl _⟩

/-- **Sorting is stable**: the matches of one priority and one name keep their order. -/
theorem filter_sortMatches (ms : List Match) (p : Int) (n : String) :
    (sortMatches ms).filter (Match.keyed p n) = ms.filter (Match.keyed p n) := by
  have hpair : (ms.filter (Match.keyed p n)).Pairwise fun a b => decide (MatchLe a b) = true :=
    List.pairwise_of_forall_mem_list fun a ha b hb =>
      decide_eq_true (matchLe_of_keyed (List.of_mem_filter ha) (List.of_mem_filter hb))
  -- the keyed matches form a sublist of the sorted list, and there are as many of them there
  have hsub : List.Sublist (ms.filter (Match.keyed p n)) ((sortMatches ms).filter (Match.keyed p n)) := by
    have h := ((List.sublist_mergeSort MatchLe.trans_decide MatchLe.total_decide hpair
      (List.filter_sublist (l := ms))).filter (Match.keyed p n))
    rwa [List.filter_filter, List.filter_congr (fun _ _ => Bool.and_self _), ← sortMatches_eq] at h
  have hlen : (ms.filter (Match.keyed p n)).length = ((sortMatches ms).filter (Match.keyed p n)).length :=
    (((List.mergeSort_perm ms _).filter (Match.keyed p n)).length_eq.symm.trans
      (by rw [sortMatches_eq]))
  exact (hsub.eq_of_length hlen).symm

theorem mem_of_mem_filter_eq {a b : List Match} (h : ∀ p n, a.filter (Match.keyed p n) = b.filter (Match.keyed p n))
    {y : Match} (hy : y ∈ b) : y ∈ a := by
  have hyb : y ∈ b.filter (Match.keyed y.descriptor.priority y.descriptor.name) :=
    List.mem_filter.mpr ⟨hy, Match.keyed_self y⟩
  rw [← h] at hyb
  exact List.mem_of_mem_filter hyb

/-- **Sorted lists are fixed by their keyed parts**: two lists in the order `MatchLe` that agree
on the matches of each priority and name are the same list. -/
theorem eq_of_pairwise_of_filter_eq {a b : List Match} (ha : a.Pairwise MatchLe) (hb : b.Pairwise MatchLe)
    (h : ∀ p n, a.filter (Match.keyed p n) = b.filter (Match.keyed p n)) : a = b := by
  induction a generalizing b with
  | nil =>
    cases b with
    | nil => rfl
    | cons y b => exact absurd (mem_of_mem_filter_eq h List.mem_cons_self) (List.not_mem_nil)
  | cons x a ih =>
    cases b with
    | nil => exact absurd (mem_of_mem_filter_eq (fun p n => (h p n).symm) List.mem_cons_self) List.not_mem_nil
    | cons y b =>
      obtain ⟨hxa, hat⟩ := List.pairwise_cons.mp ha
      obtain ⟨hyb, hbt⟩ := List.pairwise_cons.mp hb
      -- each head comes first in the other list too, so both have the same priority and name
      have hxy : MatchLe x y := by
        rcases List.mem_cons.mp (mem_of_mem_filter_eq h List.mem_cons_self) with hyx | hya
        · exact hyx ▸ MatchLe.refl x
        · exact hxa y hya
      have hyx : MatchLe y x := by
        rcases List.mem_cons.mp (mem_of_mem_filter_eq (fun p n => (h p n).symm) List.mem_cons_self) with hxy' | hxb
        · exact hxy' ▸ MatchLe.refl y
        · exact hyb x hxb
      obtain ⟨hp, hn⟩ := MatchLe.antisymm hxy hyx
      have hky : y.keyed x.descriptor.priority x.descriptor.name = true := by
        rw [hp, hn]
        exact Match.keyed_self y
      have hheads := h x.descriptor.priority x.descriptor.name
      simp only [List.filter_cons, Match.keyed_self, hky, if_true, List.cons.injEq] at hheads
      obtain ⟨rfl, -⟩ := hheads
      -- with equal heads, the tails agree on every key
      refine congrArg (x :: ·) (ih hat hbt fun p n => ?_)
      have hpn := h p n
      simp only [List.filter_cons] at hpn
      split at hpn
      · exact (List.cons.inj hpn).2
      · exact hpn

/-- **The order does not depend on how keys were interleaved**: candidate lists that agree on
the matches of each priority and name, in order, sort to the same list. -/
theorem sortMatches_eq_of_filter_eq {ms ms' : List Match}
    (h : ∀ p n, ms.filter (Match.keyed p n) = ms'.filter (Match.keyed p n)) :
    sortMatches ms = sortMatches ms' :=
  eq_of_pairwise_of_filter_eq (sortMatches_pairwise ms) (sortMatches_pairwise ms') fun p n => by
    rw [filter_sortMatches, filter_sortMatches, h]

/-! ## Collecting the directives of a node -/

/-- What collecting the directives of a node gives. The result is the candidates, sorted: an
element's tag directives that may sit on elements, then, attribute by attribute, the directives
of the attribute's target that may sit on attributes. The target of an attribute is the base of
a group when its normalised name is that base, non-empty, followed by `_start`, the raw name is
longer than six bytes and a directive of the base spans groups; the match then keeps the raw
name as start and, as end, the raw name with its final `start` replaced by `end`. Sorting gives a
permutation in the order `MatchLe` (priority descending, then name ascending) that keeps the
candidates' order within each priority and name, and is fixed by those keyed parts alone. -/
structure CollectsSorted (k : Knot) (c node : Nat) : Prop where
  collects : collectWith k c node = (do
    match (← get).nodes[node]? with
    | some n => sortMatches <$> candidatesOf k c n
    | none => pure [])
  group_start : ∀ s base, groupStart? s = some base ↔ s = base ++ "_start" ∧ base ≠ ""
  group_end : ∀ attr base, groupStart? (normalize attr) = some base →
    ∃ pre sfx, attr.toList = pre ++ sfx ∧ sfx.map Text.lowerChar = "start".toList ∧
      groupEnd attr = String.ofList pre ++ "end"
  permutes : ∀ ms, List.Perm (sortMatches ms) ms
  ordered : ∀ ms, (sortMatches ms).Pairwise MatchLe
  stable : ∀ ms p n, (sortMatches ms).filter (Match.keyed p n) = ms.filter (Match.keyed p n)
  determined : ∀ ms ms', (∀ p n, ms.filter (Match.keyed p n) = ms'.filter (Match.keyed p n)) →
    sortMatches ms = sortMatches ms'

theorem directives_collect_sorted (k : Knot) (c node : Nat) : CollectsSorted k c node where
  collects := collectWith_eq k c node
  group_start := groupStart?_eq_some_iff
  group_end _ _ h := groupEnd_of_groupStart? h
  permutes ms := by
    rw [sortMatches_eq]
    exact List.mergeSort_perm ms _
  ordered := sortMatches_pairwise
  stable := filter_sortMatches
  determined _ _ h := sortMatches_eq_of_filter_eq h

/-- A match of a directive on elements, by its name and priority. -/
def elementMatch (name : String) (priority : Int) : Match :=
  { descriptor :=
      { name := name, restrict := .onElement, priority := priority, terminal := false,
        multiElement := false, index := 0, compile := .none } }

/-- The attribute `DATA-My-Widget-Start` opens a group of `my_widget` that its raw name with `end`
for its last five letters closes; and two matches of different priorities sort alike in either
order, as their keyed parts agree. -/
theorem widget_end_and_keyed_sort :
    groupStart? (normalize "DATA-My-Widget-Start") = some "my_widget" ∧
    (∃ pre sfx, "DATA-My-Widget-Start".toList = pre ++ sfx ∧
      sfx.map Text.lowerChar = "start".toList ∧
      groupEnd "DATA-My-Widget-Start" = String.ofList pre ++ "end") ∧
    (∀ p n, [elementMatch "x" 1, elementMatch "y" 2].filter (Match.keyed p n) =
      [elementMatch "y" 2, elementMatch "x" 1].filter (Match.keyed p n)) ∧
    sortMatches [elementMatch "x" 1, elementMatch "y" 2] =
      sortMatches [elementMatch "y" 2, elementMatch "x" 1] :=
  have hopen : groupStart? (normalize "DATA-My-Widget-Start") = some "my_widget" := by
    decide +kernel
  have hkeys : ∀ p n, [elementMatch "x" 1, elementMatch "y" 2].filter (Match.keyed p n) =
      [elementMatch "y" 2, elementMatch "x" 1].filter (Match.keyed p n) := by
    intro p n
    -- at most one of the two has the key: their priorities differ
    simp only [List.filter, Match.keyed, elementMatch]
    cases h₁ : (1 == p && "x" == n) <;> cases h₂ : (2 == p && "y" == n)
    case true.true =>
      simp only [Bool.and_eq_true, beq_iff_eq] at h₁ h₂
      omega
    all_goals rfl
  ⟨hopen, (directives_collect_sorted .exhausted 0 0).group_end _ _ hopen, hkeys,
    (directives_collect_sorted .exhausted 0 0).determined _ _ hkeys⟩

end Bindery.Directive
