import Bindery.Proofs.Directive.Collect
import Bindery.Proofs.Text.Case

/-!
# Normalised directive names

A name normalises in three steps: it is lowered letter by letter, loses one leading namespace
(`x` or `data` followed by `:`, `_` or `-`) if it starts with one, and has its separators `-` and
`:` written as underscores. So a normalised name holds neither separator, and the namespace that
is dropped is the one the lowered name starts with: a second namespace behind it stays.

A namespace is decided within its first five characters, and none of them is an `s` or an `e`.
So when an attribute opens a group, the name before its final `start` loses the same namespace
whether `start` or `end` follows it, even when that name is shorter than a namespace. The
attribute's last five characters lower to `start`; only ASCII letters do, so they are five
bytes, `start` in some ASCII case, and the end attribute, which replaces them by `end`,
normalises to the group's base followed by `_end`.

Main statements: `dropNamespace_spec`, `normalize_spec` and `directive_name_laws`.
-/

namespace Bindery.Directive

/-! ## Namespaces -/

/-- The characters that may follow a namespace. -/
inductive IsSeparator : Char → Prop where
  | colon : IsSeparator ':'
  | underscore : IsSeparator '_'
  | hyphen : IsSeparator '-'

/-- A namespace that may start a lowered name: `x` or `data`, followed by a separator. -/
inductive Namespace : List Char → Prop where
  | x {c : Char} : IsSeparator c → Namespace ['x', c]
  | data {c : Char} : IsSeparator c → Namespace ['d', 'a', 't', 'a', c]

theorem isSeparator_iff (c : Char) : IsSeparator c ↔ (c == ':' || c == '_' || c == '-') = true := by
  constructor
  · rintro (_ | _ | _) <;> rfl
  · intro h
    simp only [Bool.or_eq_true, beq_iff_eq] at h
    rcases h with (rfl | rfl) | rfl
    exacts [.colon, .underscore, .hyphen]

/-- A namespace that starts a name is the name's first two or first five characters. -/
theorem Namespace.prefix_cases {ns cs : List Char} (hns : Namespace ns) (hpre : ns <+: cs) :
    (∃ c rest, IsSeparator c ∧ ns = ['x', c] ∧ cs = 'x' :: c :: rest) ∨
      (∃ c rest, IsSeparator c ∧ ns = ['d', 'a', 't', 'a', c] ∧
        cs = 'd' :: 'a' :: 't' :: 'a' :: c :: rest) := by
  obtain ⟨t, rfl⟩ := hpre
  cases hns with
  | x hc => exact .inl ⟨_, t, hc, rfl, rfl⟩
  | data hc => exact .inr ⟨_, t, hc, rfl, rfl⟩

/-- Two namespaces that start one name are the same. -/
theorem Namespace.eq_of_prefix {ns ns' cs : List Char} (hns : Namespace ns) (hns' : Namespace ns')
    (hpre : ns <+: cs) (hpre' : ns' <+: cs) : ns = ns' := by
  rcases hns.prefix_cases hpre with ⟨c, rest, -, rfl, rfl⟩ | ⟨c, rest, -, rfl, rfl⟩ <;>
    rcases hns'.prefix_cases hpre' with ⟨c', rest', -, rfl, h⟩ | ⟨c', rest', -, rfl, h⟩ <;>
    simp_all

/-- A character that is neither `x`, `d`, `a`, `t` nor a separator is in no namespace. -/
theorem Namespace.not_mem {c : Char} (hx : c ≠ 'x') (hd : c ≠ 'd') (ha : c ≠ 'a') (ht : c ≠ 't')
    (hsep : ¬ IsSeparator c) : ∀ ns, Namespace ns → c ∉ ns := by
  rintro ns (hc | hc) hmem <;> simp only [List.mem_cons, List.not_mem_nil, or_false] at hmem
  · rcases hmem with rfl | rfl
    exacts [hx rfl, hsep hc]
  · rcases hmem with rfl | rfl | rfl | rfl | rfl
    exacts [hd rfl, ha rfl, ht rfl, ha rfl, hsep hc]

/-- A namespace that starts before a character no namespace holds ends before it. -/
theorem Namespace.prefix_of_append_cons {ns P t : List Char} {c : Char} (hns : Namespace ns)
    (hc : ∀ ns, Namespace ns → c ∉ ns) (hpre : ns <+: P ++ c :: t) : ns <+: P := by
  have hcP : P ++ [c] <+: P ++ c :: t := by simp
  rcases List.prefix_or_prefix_of_prefix hpre hcP with h | h
  · rcases List.prefix_concat_iff.mp h with rfl | h
    · exact absurd (by simp) (hc _ hns)
    · exact h
  · exact absurd (h.subset (by simp)) (hc _ hns)

/-- **Dropping a namespace** drops the one a name starts with, and leaves a name that starts
with none as it is. -/
theorem dropNamespace_spec (cs : List Char) :
    (∃ ns, Namespace ns ∧ cs = ns ++ dropNamespace cs) ∨
      (dropNamespace cs = cs ∧ ∀ ns, Namespace ns → ¬ ns <+: cs) := by
  unfold dropNamespace
  split
  · rename_i c rest
    dsimp only
    split
    · rename_i hsep
      exact .inl ⟨['x', c], .x ((isSeparator_iff c).mpr hsep), rfl⟩
    · rename_i hsep
      refine .inr ⟨rfl, fun ns hns hpre => ?_⟩
      rcases hns.prefix_cases hpre with ⟨c', rest', hc', -, h⟩ | ⟨c', rest', -, -, h⟩
      · simp only [List.cons.injEq] at h
        exact hsep ((isSeparator_iff c).mp (h.2.1 ▸ hc'))
      · simp at h
  · rename_i c rest
    dsimp only
    split
    · rename_i hsep
      exact .inl ⟨_, .data ((isSeparator_iff c).mpr hsep), rfl⟩
    · rename_i hsep
      refine .inr ⟨rfl, fun ns hns hpre => ?_⟩
      rcases hns.prefix_cases hpre with ⟨c', rest', -, -, h⟩ | ⟨c', rest', hc', -, h⟩
      · simp at h
      · simp only [List.cons.injEq] at h
        exact hsep ((isSeparator_iff c).mp (h.2.2.2.2.1 ▸ hc'))
  · rename_i hx hdata
    refine .inr ⟨rfl, fun ns hns hpre => ?_⟩
    rcases hns.prefix_cases hpre with ⟨c', rest', -, -, h⟩ | ⟨c', rest', -, -, h⟩
    · exact hx c' rest' h
    · exact hdata c' rest' h

/-- A namespace is decided before a character no namespace holds: what follows is kept. -/
theorem dropNamespace_append_cons {P t : List Char} {c : Char}
    (hc : ∀ ns, Namespace ns → c ∉ ns) :
    dropNamespace (P ++ c :: t) = dropNamespace P ++ c :: t := by
  rcases dropNamespace_spec (P ++ c :: t) with ⟨ns, hns, hL⟩ | ⟨hL, hnone⟩
  · -- the namespace lies within `P`, and `P` drops the same one
    obtain ⟨P', rfl⟩ := hns.prefix_of_append_cons hc ⟨_, hL.symm⟩
    rcases dropNamespace_spec (ns ++ P') with ⟨ns', hns', hP⟩ | ⟨-, hnone'⟩
    · obtain rfl := hns'.eq_of_prefix hns ⟨_, hP.symm⟩ (List.prefix_append _ _)
      have hP' : dropNamespace (ns' ++ P') = P' := (List.append_cancel_left hP).symm
      have hL' : dropNamespace (ns' ++ P' ++ c :: t) = P' ++ c :: t :=
        List.append_cancel_left (hL.symm.trans (List.append_assoc _ _ _))
      rw [hP', hL']
    · exact absurd (List.prefix_append _ _) (hnone' ns hns)
  · rcases dropNamespace_spec P with ⟨ns, hns, hP⟩ | ⟨hP, -⟩
    · exact absurd (List.prefix_append_of_prefix ⟨_, hP.symm⟩) (hnone ns hns)
    · rw [hL, hP]

/-! ## Normalised names -/

/-- A separator `-` or `:` of a name written as an underscore; other characters stay. -/
def underscoreOf (c : Char) : Char := if c == '-' || c == ':' then '_' else c

theorem toList_normalize (s : String) :
    (normalize s).toList = (dropNamespace (Text.lower s).toList).map underscoreOf := by
  rw [normalize, String.toList_ofList]
  rfl

theorem underscoreOf_ne (c : Char) : underscoreOf c ≠ '-' ∧ underscoreOf c ≠ ':' := by
  unfold underscoreOf
  split
  · decide
  · rename_i h
    simp only [Bool.or_eq_true, beq_iff_eq, not_or] at h
    exact h

/-- **Normalising a name** lowers it, drops the one namespace it then starts with, if any, and
writes its separators as underscores. -/
theorem normalize_spec (s : String) :
    ∃ ns rest, (Text.lower s).toList = ns ++ rest ∧
      (Namespace ns ∨ ns = [] ∧ ∀ p, Namespace p → ¬ p <+: (Text.lower s).toList) ∧
      (normalize s).toList = rest.map underscoreOf := by
  rcases dropNamespace_spec (Text.lower s).toList with ⟨ns, hns, h⟩ | ⟨h, hnone⟩
  · exact ⟨ns, _, h, .inl hns, toList_normalize s⟩
  · exact ⟨[], _, h.symm, .inr ⟨rfl, hnone⟩, toList_normalize s⟩

/-- A normalised name holds neither `-` nor `:`. -/
theorem separators_not_mem_normalize (s : String) :
    '-' ∉ (normalize s).toList ∧ ':' ∉ (normalize s).toList := by
  rw [toList_normalize, List.mem_map, List.mem_map]
  exact ⟨fun ⟨c, _, hc⟩ => (underscoreOf_ne c).1 hc, fun ⟨c, _, hc⟩ => (underscoreOf_ne c).2 hc⟩

/-! ## The end attribute of a group -/

/-- A list of ASCII characters has one byte for each. -/
theorem utf8Len_of_ascii : ∀ {cs : List Char}, (∀ c ∈ cs, c.toNat < 0x80) →
    String.utf8Len cs = cs.length
  | [], _ => rfl
  | c :: cs, h => by
    have hc : c.utf8Size = 1 :=
      Char.utf8Size_eq_one_iff.mpr (UInt32.le_iff_toNat_le.mpr (by have := h c (by simp); simp; omega))
    rw [String.utf8Len_cons, hc, utf8Len_of_ascii fun d hd => h d (by simp [hd])]
    rfl

/-- The characters that lower to `start` are `start` in some ASCII case. -/
theorem toLower_of_lowerChar_start {sfx : List Char} (h : sfx.map Text.lowerChar = "start".toList) :
    (∀ c ∈ sfx, c.toNat < 0x80) ∧ sfx.map Char.toLower = "start".toList := by
  have hcodes : ∀ d ∈ "start".toList, d.toNat ∈ Text.startCodes := by
    intro d hd
    rw [show "start".toList = ['s', 't', 'a', 'r', 't'] from rfl] at hd
    simp only [List.mem_cons, List.not_mem_nil, or_false] at hd
    rcases hd with rfl | rfl | rfl | rfl | rfl <;> decide
  have hascii : ∀ c ∈ sfx, c.toNat < 0x80 := fun c hc =>
    Text.lt_of_toNat_lowerChar_mem (hcodes _ (h ▸ List.mem_map_of_mem hc))
  refine ⟨hascii, ?_⟩
  rw [← h]
  exact List.map_congr_left fun c hc => (Text.lowerChar_eq_toLower (hascii c hc)).symm

/-- The end attribute of a group lowers to the start attribute's front followed by `end`. -/
theorem toList_lower_groupEnd {pre : List Char} :
    (Text.lower (String.ofList pre ++ "end")).toList = pre.map Text.lowerChar ++ "end".toList := by
  have hend : "end".toList.map Text.lowerChar = "end".toList := by decide
  rw [Text.toList_lower, String.toList_append, String.toList_ofList, List.map_append, hend]

/-- **A group's end attribute normalises to its base followed by `_end`**: the start attribute's
front loses the same namespace before `end` as before `start`. -/
theorem normalize_groupEnd {attr base : String} (h : groupStart? (normalize attr) = some base) :
    normalize (groupEnd attr) = base ++ "_end" := by
  obtain ⟨hnorm, -⟩ := (groupStart?_eq_some_iff _ _).mp h
  obtain ⟨pre, sfx, hattr, hsfx, hend⟩ := groupEnd_of_groupStart? h
  have hs : ∀ ns, Namespace ns → 's' ∉ ns := Namespace.not_mem (by decide) (by decide)
    (by decide) (by decide) (by rintro (_ | _ | _))
  have he : ∀ ns, Namespace ns → 'e' ∉ ns := Namespace.not_mem (by decide) (by decide)
    (by decide) (by decide) (by rintro (_ | _ | _))
  have hstart : (Text.lower attr).toList = pre.map Text.lowerChar ++ 's' :: "tart".toList := by
    rw [Text.toList_lower, hattr, List.map_append, hsfx]
    rfl
  -- the front of the start attribute normalises to the base and one underscore
  have hfront : (dropNamespace (pre.map Text.lowerChar)).map underscoreOf = base.toList ++ ['_'] := by
    have hkept : ('s' :: "tart".toList).map underscoreOf = "start".toList := by decide
    have := congrArg String.toList hnorm
    rw [toList_normalize, hstart, dropNamespace_append_cons hs, List.map_append, hkept] at this
    apply List.append_cancel_right
    rw [this, String.toList_append, List.append_assoc]
    rfl
  apply String.toList_injective
  rw [hend, toList_normalize, toList_lower_groupEnd]
  show (dropNamespace (pre.map Text.lowerChar ++ 'e' :: "nd".toList)).map underscoreOf = _
  rw [dropNamespace_append_cons he, List.map_append, hfront, String.toList_append,
    List.append_assoc]
  rfl

/-- What normalising directive names guarantees. -/
structure NameLaws : Prop where
  /-- An attribute that opens a group ends in five bytes that spell `start` in some ASCII case;
  its end attribute, the attribute with those five bytes replaced by `end`, normalises to the
  group's base followed by `_end`. -/
  group_end : ∀ attr base, groupStart? (normalize attr) = some base → attr.utf8ByteSize > 6 →
    ∃ pre sfx : List Char, attr.toList = pre ++ sfx ∧ sfx.map Char.toLower = "start".toList ∧
      (String.ofList pre).utf8ByteSize + 5 = attr.utf8ByteSize ∧
      groupEnd attr = String.ofList pre ++ "end" ∧ normalize (groupEnd attr) = base ++ "_end"
  /-- A normalised name holds neither `-` nor `:`. -/
  no_separators : ∀ s, '-' ∉ (normalize s).toList ∧ ':' ∉ (normalize s).toList
  /-- Normalising drops the one namespace the lowered name starts with, if any, and nothing
  else. -/
  one_namespace : ∀ s, ∃ ns rest, (Text.lower s).toList = ns ++ rest ∧
    (Namespace ns ∨ ns = [] ∧ ∀ p, Namespace p → ¬ p <+: (Text.lower s).toList) ∧
    (normalize s).toList = rest.map underscoreOf

theorem directive_name_laws : NameLaws where
  group_end attr base h _ := by
    obtain ⟨pre, sfx, hattr, hsfx, hend⟩ := groupEnd_of_groupStart? h
    obtain ⟨hascii, hlower⟩ := toLower_of_lowerChar_start hsfx
    have hlen : sfx.length = 5 := by simpa using congrArg List.length hsfx
    -- five ASCII characters are five bytes
    have hbytes : (String.ofList pre).utf8ByteSize + 5 = attr.utf8ByteSize := by
      rw [String.utf8ByteSize_ofList, ← String.utf8Len_toList attr, hattr,
        String.utf8Len_append, utf8Len_of_ascii hascii, hlen]
    exact ⟨pre, sfx, hattr, hlower, hbytes, hend, normalize_groupEnd h⟩
  no_separators := separators_not_mem_normalize
  one_namespace := normalize_spec

/-- A widget group opened by `DATA-My-Widget-Start` closes at the attribute that normalises to
`my_widget_end`. -/
theorem widget_group_closes :
    groupStart? (normalize "DATA-My-Widget-Start") = some "my_widget" ∧
      "DATA-My-Widget-Start".utf8ByteSize > 6 ∧
      normalize (groupEnd "DATA-My-Widget-Start") = "my_widget_end" := by
  have hopen : groupStart? (normalize "DATA-My-Widget-Start") = some "my_widget" := by
    decide +kernel
  have hlong : "DATA-My-Widget-Start".utf8ByteSize > 6 := by decide
  obtain ⟨_, _, _, _, _, _, hclose⟩ := directive_name_laws.group_end _ _ hopen hlong
  exact ⟨hopen, hlong, hclose⟩

end Bindery.Directive
