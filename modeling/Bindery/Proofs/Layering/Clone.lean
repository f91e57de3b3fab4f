import Mathlib
import Bindery.Layering.Heap

/-!
# A deep copy has the shape of its source and shares none of it

`Heap.clone` copies a datum and each reference it meets through array items, visible record
fields, map entries, pointer targets and the items a slice views. It builds a table of copies,
one for each reference it meets: a reference of the same kind to a new cell, past the cells of
the source, that holds what the source reference holds with each reference in it replaced by
its copy (`Datum.rename`). The copy is the source renamed the same way.

So positions of the source that hold one reference hold one copy, a cycle through the source is
a cycle through the copy, and a write through anything the copy reaches changes no cell of the
source. The clone's budget always suffices: each reference is expanded once, and a heap and a
datum hold no more references than their weight.

Main statement: `clone_laws`.
-/

namespace Bindery.Layering

/-! ## References and their copies -/

/-- The cell a reference names. -/
def Ref.cell : Ref → Nat
  | .map n | .pointer n | .slice n _ _ => n

/-- A reference as a datum. -/
def Ref.datum : Ref → Datum
  | .map n => .map n
  | .pointer n => .pointer n
  | .slice n s l => .slice n s l

/-- The cell a datum names if it is a reference. -/
def Datum.refCell : Datum → Nat
  | .map n | .pointer n | .slice n _ _ => n
  | _ => 0

mutual

/-- The references a copy meets in a datum: the datum itself if it is one, and those its items
and visible fields hold. -/
def Datum.refs : Datum → List Ref
  | .scalar _ => []
  | .none => []
  | .map n => [.map n]
  | .pointer n => [.pointer n]
  | .slice n s l => [.slice n s l]
  | .array items => refsAll items
  | .record fields => refsFields fields

/-- The references a copy meets in data. -/
def refsAll : List Datum → List Ref
  | [] => []
  | d :: ds => d.refs ++ refsAll ds

/-- The references a copy meets in the visible fields of a record. -/
def refsFields : List (String × Bool × Datum) → List Ref
  | [] => []
  | (_, visible, d) :: rest => (if visible then d.refs else []) ++ refsFields rest

end

mutual

/-- A datum with each reference a copy meets replaced by its copy in `φ`, if it has one. -/
def Datum.rename (φ : List (Ref × Datum)) : Datum → Datum
  | .scalar j => .scalar j
  | .none => .none
  | .map n => (φ.lookup (.map n)).getD (.map n)
  | .pointer n => (φ.lookup (.pointer n)).getD (.pointer n)
  | .slice n s l => (φ.lookup (.slice n s l)).getD (.slice n s l)
  | .array items => .array (renameAll φ items)
  | .record fields => .record (renameFields φ fields)

/-- Data renamed in order. -/
def renameAll (φ : List (Ref × Datum)) : List Datum → List Datum
  | [] => []
  | d :: ds => d.rename φ :: renameAll φ ds

/-- The fields of a record renamed, the hidden ones kept as they are. -/
def renameFields (φ : List (Ref × Datum)) :
    List (String × Bool × Datum) → List (String × Bool × Datum)
  | [] => []
  | (name, visible, d) :: rest =>
    (name, visible, if visible then d.rename φ else d) :: renameFields φ rest

end

/-- What a reference holds in a heap: a map's entries, a pointer's target, the items a slice
views. -/
def Heap.holds (h : Heap) : Ref → Cell
  | .map n => .entries (h.entries (.map n))
  | .pointer n => .target (h.deref (.pointer n))
  | .slice n s l => .items (h.items (.slice n s l))

/-- The references a copy meets in a cell. -/
def Cell.refs : Cell → List Ref
  | .entries es => refsAll (es.map (·.2))
  | .items xs => refsAll xs
  | .target d => d.refs

/-- A cell with its data renamed. -/
def Cell.rename (φ : List (Ref × Datum)) : Cell → Cell
  | .entries es => .entries (es.map fun e => (e.1, e.2.rename φ))
  | .items xs => .items (renameAll φ xs)
  | .target d => .target (d.rename φ)

/-- The copy of a reference of `h` in the cell `f`: a reference of the same kind, a slice
viewing every item of its cell. -/
def Heap.copyOf (h : Heap) (r : Ref) (f : Nat) : Ref :=
  match r with
  | .map _ => .map f
  | .pointer _ => .pointer f
  | .slice n s l => .slice f 0 (h.items (.slice n s l)).length

/-- The references a copy of `d` in `h` can meet: those of `d`, and those the cells of `h`
hold. -/
def Heap.reachable (h : Heap) (d : Datum) : List Ref :=
  d.refs ++ h.cells.toList.flatMap Cell.refs

section Renaming

variable {φ ψ : List (Ref × Datum)}

@[simp] theorem refs_datum (r : Ref) : r.datum.refs = [r] := by cases r <;> rfl

theorem rename_datum (r : Ref) : r.datum.rename φ = (φ.lookup r).getD r.datum := by
  cases r <;> rfl

@[simp] theorem refCell_copyOf (h : Heap) (r : Ref) (f : Nat) : (h.copyOf r f).datum.refCell = f := by
  cases r <;> rfl

@[simp] theorem cell_copyOf (h : Heap) (r : Ref) (f : Nat) : (h.copyOf r f).cell = f := by
  cases r <;> rfl

theorem mem_refsAll {d : Datum} {ds : List Datum} (hd : d ∈ ds) : d.refs ⊆ refsAll ds := by
  induction ds with
  | nil => cases hd
  | cons d' ds ih =>
    rcases List.mem_cons.mp hd with rfl | hd
    · exact List.subset_append_left _ _
    · exact List.Subset.trans (ih hd) (List.subset_append_right _ _)

/-- A reference with a copy in the table: the copy is found, and is in the table. -/
theorem exists_lookup_of_mem {r : Ref} (hr : r ∈ φ.map (·.1)) :
    ∃ c, φ.lookup r = some c ∧ (r, c) ∈ φ := by
  obtain ⟨p, hp, rfl⟩ := List.mem_map.mp hr
  obtain ⟨c, hc⟩ := Option.isSome_iff_exists.mp (List.lookup_isSome_iff.mpr ⟨p, hp, beq_self_eq_true _⟩)
  obtain ⟨l₁, l₂, heq, -⟩ := List.lookup_eq_some_iff.mp hc
  exact ⟨c, hc, heq ▸ List.mem_append_right _ List.mem_cons_self⟩

mutual

/-- Renaming reads the table only at the references a copy meets. -/
theorem Datum.rename_congr : ∀ d : Datum, (∀ r ∈ d.refs, φ.lookup r = ψ.lookup r) →
    d.rename φ = d.rename ψ
  | .scalar _, _ => rfl
  | .none, _ => rfl
  | .map n, h => by simp [Datum.rename, h (.map n) (by simp [Datum.refs])]
  | .pointer n, h => by simp [Datum.rename, h (.pointer n) (by simp [Datum.refs])]
  | .slice n s l, h => by simp [Datum.rename, h (.slice n s l) (by simp [Datum.refs])]
  | .array items, h => by
    simp only [Datum.rename]
    rw [renameAll_congr items (by simpa [Datum.refs] using h)]
  | .record fields, h => by
    simp only [Datum.rename]
    rw [renameFields_congr fields (by simpa [Datum.refs] using h)]

theorem renameAll_congr : ∀ ds : List Datum, (∀ r ∈ refsAll ds, φ.lookup r = ψ.lookup r) →
    renameAll φ ds = renameAll ψ ds
  | [], _ => rfl
  | d :: ds, h => by
    simp only [renameAll]
    rw [Datum.rename_congr d (fun r hr => h r (by simp [refsAll, hr])),
      renameAll_congr ds (fun r hr => h r (by simp [refsAll, hr]))]

theorem renameFields_congr : ∀ fs : List (String × Bool × Datum),
    (∀ r ∈ refsFields fs, φ.lookup r = ψ.lookup r) → renameFields φ fs = renameFields ψ fs
  | [], _ => rfl
  | (k, v, d) :: rest, h => by
    simp only [renameFields]
    rw [renameFields_congr rest (fun r hr => h r (by simp [refsFields, hr]))]
    cases v
    · rfl
    · rw [Datum.rename_congr d (fun r hr => h r (by simp [refsFields, hr]))]

end

theorem Cell.rename_congr (c : Cell) (h : ∀ r ∈ c.refs, φ.lookup r = ψ.lookup r) :
    c.rename φ = c.rename ψ := by
  cases c with
  | entries es =>
    simp only [Cell.rename, Cell.entries.injEq]
    refine List.map_congr_left fun e he => ?_
    rw [Datum.rename_congr e.2 fun r hr => h r (mem_refsAll (List.mem_map.mpr ⟨e, he, rfl⟩) hr)]
  | items xs => simp only [Cell.rename]; rw [renameAll_congr xs h]
  | target d => simp only [Cell.rename]; rw [Datum.rename_congr d h]

/-- A reference with a copy renames to its copy; what it meets there is that copy. -/
theorem refs_rename_ref (hφ : ∀ e ∈ φ, ∃ r : Ref, e.2 = r.datum) {r₀ : Ref} (h₀ : r₀ ∈ φ.map (·.1)) :
    ∀ r ∈ (r₀.datum.rename φ).refs, r.datum ∈ φ.map (·.2) := by
  obtain ⟨c, hc, hmem⟩ := exists_lookup_of_mem h₀
  obtain ⟨r', rfl⟩ := hφ _ hmem
  intro r hr
  rw [rename_datum, hc, Option.getD_some, refs_datum, List.mem_singleton] at hr
  subst hr
  exact List.mem_map.mpr ⟨_, hmem, rfl⟩

mutual

/-- When every reference met has a copy, and copies are references, what a copy meets in the
renamed datum are copies. -/
theorem Datum.refs_rename (hφ : ∀ e ∈ φ, ∃ r : Ref, e.2 = r.datum) :
    ∀ d : Datum, d.refs ⊆ φ.map (·.1) → ∀ r ∈ (d.rename φ).refs, r.datum ∈ φ.map (·.2)
  | .scalar _, _, _, hr => by simp [Datum.rename, Datum.refs] at hr
  | .none, _, _, hr => by simp [Datum.rename, Datum.refs] at hr
  | .map n, hd, r, hr => refs_rename_ref hφ (hd (List.mem_singleton_self _)) r hr
  | .pointer n, hd, r, hr => refs_rename_ref hφ (hd (List.mem_singleton_self _)) r hr
  | .slice n s l, hd, r, hr => refs_rename_ref hφ (hd (List.mem_singleton_self _)) r hr
  | .array items, hd, r, hr => refsAll_rename hφ items hd r hr
  | .record fields, hd, r, hr => refsFields_rename hφ fields hd r hr

theorem refsAll_rename (hφ : ∀ e ∈ φ, ∃ r : Ref, e.2 = r.datum) :
    ∀ ds : List Datum, refsAll ds ⊆ φ.map (·.1) →
      ∀ r ∈ refsAll (renameAll φ ds), r.datum ∈ φ.map (·.2)
  | [], _, _, hr => by simp [renameAll, refsAll] at hr
  | d :: ds, hd, r, hr => by
    simp only [renameAll, refsAll, List.mem_append] at hr
    rcases hr with hr | hr
    · exact Datum.refs_rename hφ d (fun x hx => hd (List.mem_append_left _ hx)) r hr
    · exact refsAll_rename hφ ds (fun x hx => hd (List.mem_append_right _ hx)) r hr

theorem refsFields_rename (hφ : ∀ e ∈ φ, ∃ r : Ref, e.2 = r.datum) :
    ∀ fs : List (String × Bool × Datum), refsFields fs ⊆ φ.map (·.1) →
      ∀ r ∈ refsFields (renameFields φ fs), r.datum ∈ φ.map (·.2)
  | [], _, _, hr => by simp [renameFields, refsFields] at hr
  | (k, v, d) :: rest, hd, r, hr => by
    simp only [renameFields, refsFields, List.mem_append] at hr
    rcases hr with hr | hr
    · cases v
      · simp at hr
      · exact Datum.refs_rename hφ d (fun x hx => hd (by simp [refsFields, hx])) r (by simpa using hr)
    · exact refsFields_rename hφ rest (fun x hx => hd (List.mem_append_right _ hx)) r hr

end

theorem renameAll_eq_map (ds : List Datum) : renameAll φ ds = ds.map (Datum.rename φ) := by
  induction ds with
  | nil => rfl
  | cons d ds ih => rw [renameAll, ih, List.map_cons]

/-- A renamed map cell holds the references of its values renamed. -/
theorem Cell.refs_rename_entries (es : List (String × Datum)) :
    ((Cell.entries es).rename φ).refs = refsAll (renameAll φ (es.map (·.2))) := by
  simp only [Cell.rename, Cell.refs]
  rw [renameAll_eq_map, List.map_map, List.map_map]
  rfl

/-- What a copy meets in a renamed cell are copies, as for data. -/
theorem Cell.refs_rename (hφ : ∀ e ∈ φ, ∃ r : Ref, e.2 = r.datum) (c : Cell)
    (hc : c.refs ⊆ φ.map (·.1)) : ∀ r ∈ (c.rename φ).refs, r.datum ∈ φ.map (·.2) := by
  cases c with
  | entries es =>
    rw [Cell.refs_rename_entries]
    exact refsAll_rename hφ _ hc
  | items xs => exact refsAll_rename hφ xs hc
  | target d => exact Datum.refs_rename hφ d hc

/-- A reference whose copy is a reference is met as that copy in its renaming. -/
theorem mem_refs_rename_ref {r r' : Ref} (hc : φ.lookup r = some r'.datum) (r₀ : Ref)
    (hr : r ∈ r₀.datum.refs) : r' ∈ (r₀.datum.rename φ).refs := by
  rw [refs_datum, List.mem_singleton] at hr
  subst hr
  rw [rename_datum, hc, Option.getD_some, refs_datum]
  exact List.mem_singleton_self _

mutual

/-- Each reference met in a datum whose copy is a reference is met as that copy in the renamed
datum: renaming maps the references a datum holds onto the copies its renaming holds. -/
theorem Datum.mem_refs_rename {r r' : Ref} (hc : φ.lookup r = some r'.datum) :
    ∀ d : Datum, r ∈ d.refs → r' ∈ (d.rename φ).refs
  | .scalar _, hr => by simp [Datum.refs] at hr
  | .none, hr => by simp [Datum.refs] at hr
  | .map n, hr => mem_refs_rename_ref hc (.map n) hr
  | .pointer n, hr => mem_refs_rename_ref hc (.pointer n) hr
  | .slice n s l, hr => mem_refs_rename_ref hc (.slice n s l) hr
  | .array items, hr => mem_refsAll_rename hc items hr
  | .record fields, hr => mem_refsFields_rename hc fields hr

theorem mem_refsAll_rename {r r' : Ref} (hc : φ.lookup r = some r'.datum) :
    ∀ ds : List Datum, r ∈ refsAll ds → r' ∈ refsAll (renameAll φ ds)
  | [], hr => by simp [refsAll] at hr
  | d :: ds, hr => by
    simp only [refsAll, renameAll, List.mem_append] at hr ⊢
    exact hr.imp (Datum.mem_refs_rename hc d) (mem_refsAll_rename hc ds)

theorem mem_refsFields_rename {r r' : Ref} (hc : φ.lookup r = some r'.datum) :
    ∀ fs : List (String × Bool × Datum), r ∈ refsFields fs → r' ∈ refsFields (renameFields φ fs)
  | [], hr => by simp [refsFields] at hr
  | (k, v, d) :: rest, hr => by
    simp only [refsFields, renameFields, List.mem_append] at hr ⊢
    cases v
    · simp only [Bool.false_eq_true, if_false, List.not_mem_nil, false_or] at hr ⊢
      exact mem_refsFields_rename hc rest hr
    · simp only [if_true] at hr ⊢
      exact hr.imp (Datum.mem_refs_rename hc d) (mem_refsFields_rename hc rest)

end

theorem Cell.mem_refs_rename {r r' : Ref} (hc : φ.lookup r = some r'.datum) (c : Cell)
    (hr : r ∈ c.refs) : r' ∈ (c.rename φ).refs := by
  cases c with
  | entries es =>
    rw [Cell.refs_rename_entries]
    exact mem_refsAll_rename hc _ hr
  | items xs => exact mem_refsAll_rename hc xs hr
  | target d => exact Datum.mem_refs_rename hc d hr

/-- In a table with one entry a key, an entry is what its key looks up. -/
theorem lookup_of_mem (hk : (φ.map (·.1)).Nodup) {e : Ref × Datum} (he : e ∈ φ) :
    φ.lookup e.1 = some e.2 := by
  induction φ with
  | nil => cases he
  | cons p φ ih =>
    rw [List.map_cons, List.nodup_cons] at hk
    rcases List.mem_cons.mp he with rfl | he
    · simp [List.lookup]
    · have hne : (e.1 == p.1) = false :=
        beq_false_of_ne fun heq => hk.1 (heq ▸ List.mem_map_of_mem he)
      simp [List.lookup, hne, ih hk.2 he]

end Renaming

/-! ## Sound states of a copy -/

section Copying

variable (h : Heap)

/-- A state of a copy of data of `h` is sound: the cells of `h` are as they were, and each
reference remembered has one copy of its own kind, in a cell of its own past those of `h`. -/
structure Sound (s : Copying) : Prop where
  size : h.cells.size ≤ s.heap.cells.size
  source : ∀ n < h.cells.size, s.heap.cells[n]? = h.cells[n]?
  copies : ∀ e ∈ s.seen, e.2 = (h.copyOf e.1 e.2.refCell).datum ∧ h.cells.size ≤ e.2.refCell ∧
    e.2.refCell < s.heap.cells.size
  keys : (s.seen.map (·.1)).Nodup
  cells : (s.seen.map (·.2.refCell)).Nodup

/-- A remembered copy is finished: its cell holds what the source reference holds, renamed, and
each reference met there has a copy. -/
def Finished (s : Copying) (e : Ref × Datum) : Prop :=
  s.heap.holds (h.copyOf e.1 e.2.refCell) = (h.holds e.1).rename s.seen ∧
    (h.holds e.1).refs ⊆ s.seen.map (·.1)

/-- A state extends another: the copies remembered since are finished, and the cells it had are
as they were. -/
structure Extends (s s' : Copying) : Prop where
  seen : ∃ new, s'.seen = new ++ s.seen ∧ ∀ e ∈ new, Finished h s' e
  size : s.heap.cells.size ≤ s'.heap.cells.size
  cells : ∀ n < s.heap.cells.size, s'.heap.cells[n]? = s.heap.cells[n]?

/-- A copy of `d` from `s` that returns `x` and ends in `s'`: the state stays sound and grows,
the result is `d` renamed by the copies remembered, and each reference met in `d` has one. -/
structure Copied (d : Datum) (s : Copying) (x : Datum) (s' : Copying) : Prop where
  sound : Sound h s'
  grows : Extends h s s'
  result : x = d.rename s'.seen
  closed : d.refs ⊆ s'.seen.map (·.1)

variable {h} {s s₁ s₂ : Copying}

/-- What a reference holds is read from its cell alone. -/
theorem holds_congr (h₁ h₂ : Heap) (r : Ref) (hc : h₁.cells[r.cell]? = h₂.cells[r.cell]?) :
    h₁.holds r = h₂.holds r := by
  cases r <;>
  · simp only [Heap.holds, Heap.entries, Heap.deref, Heap.items, Heap.cell, Ref.cell] at hc ⊢
    rw [hc]

/-- A grown table keeps the references it had. -/
theorem keys_subset_extend {new : List (Ref × Datum)} (hseen : s₂.seen = new ++ s₁.seen) :
    s₁.seen.map (·.1) ⊆ s₂.seen.map (·.1) := by
  rw [hseen, List.map_append]
  exact List.subset_append_right _ _

/-- A table grown by copies of new references reads as before at the references it had. -/
theorem lookup_extend {new : List (Ref × Datum)} (hs : Sound h s₂) (hseen : s₂.seen = new ++ s₁.seen)
    {r : Ref} (hr : r ∈ s₁.seen.map (·.1)) : s₂.seen.lookup r = s₁.seen.lookup r := by
  have hkeys := hs.keys
  rw [hseen, List.map_append, List.nodup_append] at hkeys
  have hnone : new.lookup r = none := List.lookup_eq_none_iff.mpr fun p hp =>
    bne_iff_ne.mpr fun hrp => hkeys.2.2 p.1 (List.mem_map.mpr ⟨p, hp, rfl⟩) r hr hrp.symm
  rw [hseen, List.lookup_append, hnone, Option.none_or]

theorem rename_extend {new : List (Ref × Datum)} (hs : Sound h s₂) (hseen : s₂.seen = new ++ s₁.seen)
    {d : Datum} (hd : d.refs ⊆ s₁.seen.map (·.1)) : d.rename s₂.seen = d.rename s₁.seen :=
  Datum.rename_congr d fun _ hr => lookup_extend hs hseen (hd hr)

theorem Cell.rename_extend {new : List (Ref × Datum)} (hs : Sound h s₂)
    (hseen : s₂.seen = new ++ s₁.seen) {c : Cell} (hc : c.refs ⊆ s₁.seen.map (·.1)) :
    c.rename s₂.seen = c.rename s₁.seen :=
  Cell.rename_congr c fun _ hr => lookup_extend hs hseen (hc hr)

/-- A finished copy stays finished as the state grows: its cell is left alone, and the copies
it refers to stay. -/
theorem Finished.mono {e : Ref × Datum} (hf : Finished h s₁ e) (hs₁ : Sound h s₁) (he : e ∈ s₁.seen)
    (hs₂ : Sound h s₂) (hx : Extends h s₁ s₂) : Finished h s₂ e := by
  obtain ⟨new, hseen, -⟩ := hx.seen
  have hcell := hx.cells _ (hs₁.copies e he).2.2
  refine ⟨?_, List.Subset.trans hf.2 (keys_subset_extend hseen)⟩
  rw [holds_congr s₂.heap s₁.heap _ (by rw [cell_copyOf]; exact hcell), hf.1,
    Cell.rename_extend hs₂ hseen hf.2]

theorem Extends.refl (s : Copying) : Extends h s s :=
  ⟨⟨[], rfl, nofun⟩, Nat.le_refl _, fun _ _ => rfl⟩

theorem Extends.trans (h₁ : Extends h s s₁) (h₂ : Extends h s₁ s₂) (hs₁ : Sound h s₁)
    (hs₂ : Sound h s₂) : Extends h s s₂ := by
  obtain ⟨new₁, hseen₁, hfin₁⟩ := h₁.seen
  obtain ⟨new₂, hseen₂, hfin₂⟩ := h₂.seen
  refine ⟨⟨new₂ ++ new₁, by rw [hseen₂, hseen₁, List.append_assoc], fun e he => ?_⟩,
    Nat.le_trans h₁.size h₂.size,
    fun n hn => (h₂.cells n (Nat.lt_of_lt_of_le hn h₁.size)).trans (h₁.cells n hn)⟩
  rcases List.mem_append.mp he with he | he
  · exact hfin₂ e he
  · exact (hfin₁ e he).mono hs₁ (hseen₁ ▸ List.mem_append_left _ he) hs₂ h₂

/-- A copy stays a copy as the state grows past it. -/
theorem Copied.grow {d x : Datum} {s' : Copying} (c : Copied h d s x s₁) (hs : Sound h s')
    (hx : Extends h s₁ s') : Copied h d s x s' := by
  obtain ⟨new, hseen, -⟩ := hx.seen
  refine ⟨hs, c.grows.trans hx c.sound hs, ?_, ?_⟩
  · rw [c.result, rename_extend hs hseen c.closed]
  · exact List.Subset.trans c.closed (keys_subset_extend hseen)

theorem Copied.plain {d : Datum} (hs : Sound h s) (hd : d.refs = []) (hx : d.rename s.seen = d) :
    Copied h d s d s :=
  ⟨hs, .refl s, hx.symm, by rw [hd]; exact List.nil_subset _⟩

theorem Copied.cons {d x : Datum} {ds xs : List Datum} (c₁ : Copied h d s x s₁)
    (c₂ : Copied h (.array ds) s₁ (.array xs) s₂) :
    Copied h (.array (d :: ds)) s (.array (x :: xs)) s₂ := by
  have c := c₁.grow c₂.sound c₂.grows
  refine ⟨c₂.sound, c.grows, ?_, ?_⟩
  · have hxs : xs = renameAll s₂.seen ds := by simpa [Datum.rename] using c₂.result
    simp only [Datum.rename, renameAll, hxs, c.result]
  · exact List.append_subset.mpr ⟨c.closed, c₂.closed⟩

theorem Copied.consVisible {name : String} {d x : Datum} {fs ys : List (String × Bool × Datum)}
    (c₁ : Copied h d s x s₁) (c₂ : Copied h (.record fs) s₁ (.record ys) s₂) :
    Copied h (.record ((name, true, d) :: fs)) s (.record ((name, true, x) :: ys)) s₂ := by
  have c := c₁.grow c₂.sound c₂.grows
  refine ⟨c₂.sound, c.grows, ?_, ?_⟩
  · have hys : ys = renameFields s₂.seen fs := by simpa [Datum.rename] using c₂.result
    simp only [Datum.rename, renameFields, hys, c.result, if_true]
  · exact List.append_subset.mpr ⟨c.closed, c₂.closed⟩

theorem Copied.consHidden {name : String} {d : Datum} {fs ys : List (String × Bool × Datum)}
    (c : Copied h (.record fs) s (.record ys) s₂) :
    Copied h (.record ((name, false, d) :: fs)) s (.record ((name, false, d) :: ys)) s₂ := by
  refine ⟨c.sound, c.grows, ?_, c.closed⟩
  have hys : ys = renameFields s₂.seen fs := by simpa [Datum.rename] using c.result
  simp only [Datum.rename, renameFields, hys]
  rfl

/-! ## The copy functions copy soundly -/

/-- How many references of `U` have no copy yet, counted with repetition. -/
def budget (U : List Ref) (s : Copying) : Nat := U.countP fun r => r ∉ s.seen.map (·.1)

theorem budget_le {U : List Ref} (hx : Extends h s s₁) : budget U s₁ ≤ budget U s := by
  obtain ⟨new, hseen, -⟩ := hx.seen
  refine List.countP_mono_left fun r _ hr => ?_
  simp only [decide_eq_true_eq, hseen, List.map_append, List.mem_append, not_or] at hr ⊢
  exact hr.2

/-- Remembering a reference of `U` that had no copy leaves fewer to copy. -/
theorem budget_remember {U : List Ref} {r : Ref} {c : Datum} (hseen : s₁.seen = (r, c) :: s.seen)
    (hr : r ∈ U) (hfree : r ∉ s.seen.map (·.1)) : budget U s₁ < budget U s := by
  unfold budget
  rw [hseen]
  induction U with
  | nil => cases hr
  | cons r' U ih =>
    have hmono : U.countP (fun x => x ∉ ((r, c) :: s.seen).map (·.1)) ≤
        U.countP fun x => x ∉ s.seen.map (·.1) :=
      List.countP_mono_left fun x _ hx => by simp_all
    rw [List.countP_cons, List.countP_cons]
    by_cases hrr : r' = r
    · subst hrr
      have h₁ : decide (r' ∉ ((r', c) :: s.seen).map (·.1)) = false := by simp
      have h₂ : decide (r' ∉ s.seen.map (·.1)) = true := by simpa using hfree
      rw [h₁, h₂]
      simp only [Bool.false_eq_true, if_false, if_true]
      omega
    · have hlt := ih ((List.mem_cons.mp hr).resolve_left (Ne.symm hrr))
      have hsame : decide (r' ∉ ((r, c) :: s.seen).map (·.1)) = decide (r' ∉ s.seen.map (·.1)) := by
        simp [hrr]
      rw [hsame]
      split <;> omega

variable (h) in
/-- A way of copying references copies, soundly, each reference of `U` from a sound state with
fewer than `fuel` references of `U` left without a copy. -/
def CopiesRefs (U : List Ref) (fuel : Nat) (ref : Datum → StateM Copying Datum) : Prop :=
  ∀ r s, Sound h s → r ∈ U → budget U s < fuel →
    Copied h r.datum s ((ref r.datum).run s).1 ((ref r.datum).run s).2

variable {U : List Ref} {fuel : Nat} {ref : Datum → StateM Copying Datum}

mutual

/-- Copying a datum as it is held copies it soundly when its references are copied soundly. -/
theorem copyHeld_copied (href : CopiesRefs h U fuel ref) :
    ∀ (d : Datum) (s : Copying), Sound h s → d.refs ⊆ U → budget U s < fuel →
      Copied h d s ((copyHeld ref d).run s).1 ((copyHeld ref d).run s).2
  | .scalar _, _, hs, _, _ => Copied.plain hs rfl rfl
  | .none, _, hs, _, _ => Copied.plain hs rfl rfl
  | .map n, s, hs, hd, hb => href (.map n) s hs (hd (List.mem_singleton_self _)) hb
  | .pointer n, s, hs, hd, hb => href (.pointer n) s hs (hd (List.mem_singleton_self _)) hb
  | .slice n st l, s, hs, hd, hb => href (.slice n st l) s hs (hd (List.mem_singleton_self _)) hb
  | .array items, s, hs, hd, hb => copyItems_copied href items s hs hd hb
  | .record fields, s, hs, hd, hb => copyFields_copied href fields s hs hd hb

theorem copyItems_copied (href : CopiesRefs h U fuel ref) :
    ∀ (ds : List Datum) (s : Copying), Sound h s → refsAll ds ⊆ U → budget U s < fuel →
      Copied h (.array ds) s (.array ((copyItems ref ds).run s).1) ((copyItems ref ds).run s).2
  | [], _, hs, _, _ => Copied.plain hs rfl rfl
  | d :: ds, s, hs, hd, hb => by
    have c₁ := copyHeld_copied href d s hs (fun r hr => hd (List.mem_append_left _ hr)) hb
    exact c₁.cons (copyItems_copied href ds _ c₁.sound (fun r hr => hd (List.mem_append_right _ hr))
      (Nat.lt_of_le_of_lt (budget_le c₁.grows) hb))

theorem copyFields_copied (href : CopiesRefs h U fuel ref) :
    ∀ (fs : List (String × Bool × Datum)) (s : Copying), Sound h s → refsFields fs ⊆ U →
      budget U s < fuel →
      Copied h (.record fs) s (.record ((copyFields ref fs).run s).1) ((copyFields ref fs).run s).2
  | [], _, hs, _, _ => Copied.plain hs rfl rfl
  | (_, true, d) :: fs, s, hs, hd, hb => by
    have c₁ := copyHeld_copied href d s hs (fun r hr => hd (List.mem_append_left _ hr)) hb
    exact c₁.consVisible (copyFields_copied href fs _ c₁.sound
      (fun r hr => hd (List.mem_append_right _ hr)) (Nat.lt_of_le_of_lt (budget_le c₁.grows) hb))
  | (_, false, _) :: fs, s, hs, hd, hb =>
    (copyFields_copied href fs s hs (fun r hr => hd (List.mem_append_right _ hr)) hb).consHidden

end

def copyEntries (ref : Datum → StateM Copying Datum) (es : List (String × Datum)) :
    StateM Copying (List (String × Datum)) :=
  es.mapM fun e => do pure (e.1, ← copyHeld ref e.2)

theorem copyEntries_copied (href : CopiesRefs h U fuel ref) (es : List (String × Datum)) :
    ∀ s, Sound h s → refsAll (es.map (·.2)) ⊆ U → budget U s < fuel →
      Copied h (.array (es.map (·.2))) s (.array (((copyEntries ref es).run s).1.map (·.2)))
        ((copyEntries ref es).run s).2 ∧ ((copyEntries ref es).run s).1.map (·.1) = es.map (·.1) := by
  induction es with
  | nil => intro s hs _ _; exact ⟨Copied.plain hs rfl rfl, rfl⟩
  | cons e es ih =>
    intro s hs hd hb
    have c₁ := copyHeld_copied href e.2 s hs (fun r hr => hd (List.mem_append_left _ hr)) hb
    obtain ⟨c₂, hkeys⟩ := ih _ c₁.sound (fun r hr => hd (List.mem_append_right _ hr))
      (Nat.lt_of_le_of_lt (budget_le c₁.grows) hb)
    simp only [copyEntries, List.mapM_cons] at c₂ hkeys ⊢
    exact ⟨c₁.cons c₂, congrArg (e.1 :: ·) hkeys⟩

/-- Entries with the keys of `es` and the values of `es` renamed are `es` renamed. -/
theorem entries_eq_rename {φ : List (Ref × Datum)} :
    ∀ (es ys : List (String × Datum)), ys.map (·.1) = es.map (·.1) →
      Datum.array (ys.map (·.2)) = (Datum.array (es.map (·.2))).rename φ →
      ys = es.map fun e => (e.1, e.2.rename φ)
  | [], [], _, _ => rfl
  | e :: es, y :: ys, hk, hv => by
    simp only [List.map_cons, List.cons.injEq, Datum.rename, renameAll, Datum.array.injEq] at hk hv
    have := entries_eq_rename es ys hk.2 (by simpa [Datum.rename] using hv.2)
    simp only [List.map_cons, this, ← hk.1, ← hv.1]
  | [], _ :: _, hk, _ => nomatch hk
  | _ :: _, [], hk, _ => nomatch hk

theorem length_renameAll (φ : List (Ref × Datum)) (ds : List Datum) :
    (renameAll φ ds).length = ds.length := by
  induction ds with
  | nil => rfl
  | cons d ds ih => simp [renameAll, ih]

theorem getElem?_setCell_ne {H : Heap} {f n : Nat} (C : Cell) (hn : n ≠ f) :
    (H.setCell f C).cells[n]? = H.cells[n]? := by
  simp [Heap.setCell, Array.getElem?_modify, Ne.symm hn]

theorem cell_setCell {H : Heap} {f : Nat} (C : Cell) (hf : f < H.cells.size) :
    (H.setCell f C).cell f = C := by
  simp [Heap.setCell, Heap.cell, Array.getElem_modify, hf]

-- A filled cell holds what it was filled with; a slice as long as its items sees them all.
theorem holds_setCell_entries {H : Heap} {f : Nat} (es : List (String × Datum))
    (hf : f < H.cells.size) : (H.setCell f (.entries es)).holds (.map f) = .entries es := by
  simp only [Heap.holds, Heap.entries, cell_setCell _ hf]

theorem holds_setCell_target {H : Heap} {f : Nat} (d : Datum) (hf : f < H.cells.size) :
    (H.setCell f (.target d)).holds (.pointer f) = .target d := by
  simp only [Heap.holds, Heap.deref, cell_setCell _ hf]

theorem holds_setCell_items {H : Heap} {f l : Nat} (xs : List Datum) (hl : xs.length = l)
    (hf : f < H.cells.size) : (H.setCell f (.items xs)).holds (.slice f 0 l) = .items xs := by
  simp only [Heap.holds, Heap.items, cell_setCell _ hf, List.drop_zero, ← hl, List.take_length]

theorem Finished.setCell {e : Ref × Datum} (hf : Finished h s e) {f : Nat} (hne : e.2.refCell ≠ f)
    (C : Cell) : Finished h { s with heap := s.heap.setCell f C } e :=
  ⟨by rw [← hf.1]; exact holds_congr _ _ _ (by rw [cell_copyOf]; exact getElem?_setCell_ne C hne),
    hf.2⟩

/-- Remembering a reference that had no copy, with a copy in a new cell, keeps a state sound. -/
theorem Sound.remember (hs : Sound h s) {r : Ref} (hfree : r ∉ s.seen.map (·.1)) (c : Cell) :
    Sound h ⟨⟨s.heap.cells.push c⟩, (r, (h.copyOf r s.heap.cells.size).datum) :: s.seen⟩ where
  size := Nat.le_trans hs.size (by simp)
  source n hn := by
    rw [Array.getElem?_push, if_neg (by have := hs.size; omega)]
    exact hs.source n hn
  copies e he := by
    rcases List.mem_cons.mp he with rfl | he
    · refine ⟨by rw [refCell_copyOf], by rw [refCell_copyOf]; exact hs.size, ?_⟩
      rw [refCell_copyOf, Array.size_push]
      exact Nat.lt_succ_self _
    · obtain ⟨h₁, h₂, h₃⟩ := hs.copies e he
      exact ⟨h₁, h₂, by simp only [Array.size_push]; omega⟩
  keys := List.nodup_cons.mpr ⟨hfree, hs.keys⟩
  cells := by
    refine List.nodup_cons.mpr ⟨fun hmem => ?_, hs.cells⟩
    obtain ⟨e, he, hcell⟩ := List.mem_map.mp hmem
    have := (hs.copies e he).2.2
    simp only [refCell_copyOf] at hcell
    omega

/-- The end of copying a reference that had no copy: the copy, remembered in the new cell `f`
before the contents were copied, has its cell filled with the copied contents. -/
theorem copied_of_fill {r : Ref} {f : Nat} (hf : s.heap.cells.size = f)
    (hseen₁ : s₁.seen = (r, (h.copyOf r f).datum) :: s.seen) (hsize₁ : f < s₁.heap.cells.size)
    (hcells₁ : ∀ n < f, s₁.heap.cells[n]? = s.heap.cells[n]?) (hs₁ : Sound h s₁)
    (hs₂ : Sound h s₂) (hx : Extends h s₁ s₂) (C : Cell)
    (hC : (s₂.heap.setCell f C).holds (h.copyOf r f) = (h.holds r).rename s₂.seen)
    (hrefs : (h.holds r).refs ⊆ s₂.seen.map (·.1)) :
    Copied h r.datum s (h.copyOf r f).datum { s₂ with heap := s₂.heap.setCell f C } := by
  obtain ⟨new, hseen₂, hfin⟩ := hx.seen
  have hsize₂ : f < s₂.heap.cells.size := Nat.lt_of_lt_of_le hsize₁ hx.size
  have hsize : (s₂.heap.setCell f C).cells.size = s₂.heap.cells.size := Array.size_modify ..
  have hfresh : ∀ n < h.cells.size, n ≠ f := by
    intro n hn
    have hcopy := (hs₁.copies _ (hseen₁ ▸ List.mem_cons_self)).2.1
    simp only [refCell_copyOf] at hcopy
    omega
  have hs₃ : Sound h { s₂ with heap := s₂.heap.setCell f C } :=
    { size := hsize ▸ hs₂.size
      source := fun n hn => (getElem?_setCell_ne C (hfresh n hn)).trans (hs₂.source n hn)
      copies := fun e he => hsize ▸ hs₂.copies e he
      keys := hs₂.keys
      cells := hs₂.cells }
  have hr₁ : r ∈ s₁.seen.map (·.1) := by rw [hseen₁]; exact List.mem_cons_self
  refine ⟨hs₃, ⟨⟨new ++ [(r, (h.copyOf r f).datum)], by simp [hseen₂, hseen₁], fun e he => ?_⟩,
    ?_, fun n hn => ?_⟩, ?_, ?_⟩
  · rcases List.mem_append.mp he with he | he
    · have hcells := hs₂.cells
      rw [hseen₂, hseen₁, List.map_append, List.nodup_append] at hcells
      refine (hfin e he).setCell (fun heq => hcells.2.2 _ (List.mem_map.mpr ⟨e, he, rfl⟩) _
        List.mem_cons_self ?_) C
      simp [heq]
    · rw [List.mem_singleton.mp he]
      exact ⟨by simpa using hC, hrefs⟩
  · rw [hsize]; omega
  · rw [getElem?_setCell_ne C (by omega), hx.cells n (by omega), hcells₁ n (by omega)]
  · show _ = r.datum.rename s₂.seen
    rw [rename_datum, lookup_extend hs₂ hseen₂ hr₁, hseen₁, List.lookup_cons_self]
    rfl
  · intro r' hr'
    rw [refs_datum, List.mem_singleton] at hr'
    rw [hr']
    exact keys_subset_extend hseen₂ hr₁

theorem push_getElem?_lt {a : Array Cell} {c : Cell} {n : Nat} (hn : n < a.size) :
    (a.push c)[n]? = a[n]? := by
  rw [Array.getElem?_push, if_neg (Nat.ne_of_lt hn)]

/-- The end of copying a reference that had no copy, from the state that remembered it with its
copy in a pushed cell. -/
theorem copied_of_push {r : Ref} (hs : Sound h s) (hfree : r ∉ s.seen.map (·.1)) (c : Cell)
    (hx : Extends h ⟨⟨s.heap.cells.push c⟩, (r, (h.copyOf r s.heap.cells.size).datum) :: s.seen⟩ s₂)
    (hs₂ : Sound h s₂) (C : Cell)
    (hC : s.heap.cells.size < s₂.heap.cells.size →
      (s₂.heap.setCell s.heap.cells.size C).holds (h.copyOf r s.heap.cells.size) =
        (h.holds r).rename s₂.seen)
    (hrefs : (h.holds r).refs ⊆ s₂.seen.map (·.1)) :
    Copied h r.datum s (h.copyOf r s.heap.cells.size).datum
      { s₂ with heap := s₂.heap.setCell s.heap.cells.size C } := by
  have hsize : s.heap.cells.size < (s.heap.cells.push c).size := by simp
  exact copied_of_fill rfl rfl hsize (fun _ hn => push_getElem?_lt hn) (hs.remember hfree c) hs₂ hx
    C (hC (Nat.lt_of_lt_of_le hsize hx.size)) hrefs

/-- Copying references with `copyRef fuel` copies soundly each reference of `U`, when `U` names
only cells of `h` and holds each reference that its references hold. -/
theorem copyRef_copies (hU : ∀ r ∈ U, r.cell < h.cells.size ∧ (h.holds r).refs ⊆ U) :
    ∀ fuel, CopiesRefs h U fuel (copyRef fuel)
  | 0 => fun _ _ _ _ hb => absurd hb (Nat.not_lt_zero _)
  | fuel + 1 => by
    intro r s hs hr hb
    have href := copyRef_copies hU fuel
    obtain ⟨hcell, hsub⟩ := hU r hr
    have hsrc : s.heap.holds r = h.holds r := holds_congr _ _ _ (hs.source _ hcell)
    cases hc : s.seen.lookup r with
    | some c =>
      -- met before: answered with the copy it has
      have hrun : (copyRef (fuel + 1) r.datum).run s = (c, s) := by
        cases r <;>
        · simp only [Ref.datum, copyRef, StateT.run_bind, StateT.run_get, pure_bind, hc]
          rfl
      rw [hrun]
      refine ⟨hs, .refl s, by rw [rename_datum, hc]; rfl, ?_⟩
      obtain ⟨p, hp, hrp⟩ := List.lookup_isSome_iff.mp (by rw [hc]; rfl : (s.seen.lookup r).isSome)
      rw [refs_datum, List.cons_subset]
      exact ⟨List.mem_map.mpr ⟨p, hp, (beq_iff_eq.mp hrp).symm⟩, List.nil_subset _⟩
    | none =>
      have hfree : r ∉ s.seen.map (·.1) := fun hmem => by
        obtain ⟨c, hc', -⟩ := exists_lookup_of_mem hmem
        rw [hc] at hc'
        cases hc'
      have hb₁ : ∀ {s₁ : Copying} {c : Datum}, s₁.seen = (r, c) :: s.seen → budget U s₁ < fuel :=
        fun hseen => by have := budget_remember hseen hr hfree; omega
      cases r with
      | map n =>
        have hrun : (copyRef (fuel + 1) (Ref.map n).datum).run s =
            let s₁ : Copying := ⟨⟨s.heap.cells.push (.entries [])⟩,
              (.map n, (h.copyOf (.map n) s.heap.cells.size).datum) :: s.seen⟩
            let r₂ := (copyEntries (copyRef fuel) (s₁.heap.entries (.map n))).run s₁
            (.map s.heap.cells.size,
              { r₂.2 with heap := r₂.2.heap.setCell s.heap.cells.size (.entries r₂.1) }) := by
          simp only [Ref.datum, copyRef, StateT.run_bind, StateT.run_get, pure_bind, hc]
          rfl
        have hs₁ := hs.remember hfree (.entries [])
        have hes : (Heap.mk (s.heap.cells.push (.entries []))).entries (.map n) = h.entries (.map n) :=
          Cell.entries.inj (holds_congr _ _ (.map n) (hs₁.source _ hcell))
        rw [hrun]
        dsimp only
        rw [hes]
        obtain ⟨c₂, hkeys⟩ := copyEntries_copied href (h.entries (.map n)) _ hs₁ hsub (hb₁ rfl)
        refine copied_of_push hs hfree _ c₂.grows c₂.sound _ (fun hf => ?_) c₂.closed
        refine (holds_setCell_entries _ hf).trans ?_
        rw [entries_eq_rename _ _ hkeys c₂.result]
        rfl
      | pointer n =>
        have hrun : (copyRef (fuel + 1) (Ref.pointer n).datum).run s =
            let s₁ : Copying := ⟨⟨s.heap.cells.push (.target .none)⟩,
              (.pointer n, (h.copyOf (.pointer n) s.heap.cells.size).datum) :: s.seen⟩
            let r₂ := (copyHeld (copyRef fuel) (s₁.heap.deref (.pointer n))).run s₁
            (.pointer s.heap.cells.size,
              { r₂.2 with heap := r₂.2.heap.setCell s.heap.cells.size (.target r₂.1) }) := by
          simp only [Ref.datum, copyRef, StateT.run_bind, StateT.run_get, pure_bind, hc]
          rfl
        have hs₁ := hs.remember hfree (.target .none)
        have ht : (Heap.mk (s.heap.cells.push (.target .none))).deref (.pointer n) =
            h.deref (.pointer n) :=
          Cell.target.inj (holds_congr _ _ (.pointer n) (hs₁.source _ hcell))
        rw [hrun]
        dsimp only
        rw [ht]
        have c₂ := copyHeld_copied href (h.deref (.pointer n)) _ hs₁ hsub (hb₁ rfl)
        refine copied_of_push hs hfree _ c₂.grows c₂.sound _ (fun hf => ?_) c₂.closed
        refine (holds_setCell_target _ hf).trans ?_
        rw [c₂.result]
        rfl
      | slice n st l =>
        have hrun : (copyRef (fuel + 1) (Ref.slice n st l).datum).run s =
            let xs := s.heap.items (.slice n st l)
            let s₁ : Copying := ⟨⟨s.heap.cells.push (.items (xs.map fun _ => .none))⟩,
              (.slice n st l, .slice s.heap.cells.size 0 xs.length) :: s.seen⟩
            let r₂ := (copyItems (copyRef fuel) xs).run s₁
            (.slice s.heap.cells.size 0 xs.length,
              { r₂.2 with heap := r₂.2.heap.setCell s.heap.cells.size (.items r₂.1) }) := by
          simp only [Ref.datum, copyRef, StateT.run_bind, StateT.run_get, pure_bind, hc]
          rfl
        have hxs : s.heap.items (.slice n st l) = h.items (.slice n st l) := Cell.items.inj hsrc
        rw [hrun]
        dsimp only
        rw [hxs]
        have hs₁ := hs.remember hfree (.items ((h.items (.slice n st l)).map fun _ => .none))
        have c₂ := copyItems_copied href (h.items (.slice n st l)) _ hs₁ hsub (hb₁ rfl)
        refine copied_of_push hs hfree _ c₂.grows c₂.sound _ (fun hf => ?_) c₂.closed
        have hys := c₂.result
        simp only [Datum.rename, Datum.array.injEq] at hys
        -- the copy views as many items as were copied
        refine (holds_setCell_items _ ?_ hf).trans ?_
        · exact (congrArg List.length hys).trans (length_renameAll _ _)
        · exact congrArg Cell.items hys

/-- The first state of a copy: the source heap, and no copies yet. -/
theorem Sound.init : Sound h { heap := h } where
  size := Nat.le_refl _
  source _ _ := rfl
  copies _ he := nomatch he
  keys := List.nodup_nil
  cells := List.nodup_nil

end Copying

/-! ## The budget suffices -/

section Budget

theorem refsAll_eq_flatMap (ds : List Datum) : refsAll ds = ds.flatMap Datum.refs := by
  induction ds with
  | nil => rfl
  | cons d ds ih => rw [refsAll, ih, List.flatMap_cons]

/-- What a reference holds is part of what its cell holds: a slice views a run of its cell. -/
theorem holds_refs_subset (h : Heap) (r : Ref) : (h.holds r).refs ⊆ (h.cell r.cell).refs := by
  cases r with
  | map n => cases hc : h.cell n <;> simp [Heap.holds, Heap.entries, Ref.cell, Cell.refs, hc, refsAll]
  | pointer n =>
    cases hc : h.cell n <;> simp [Heap.holds, Heap.deref, Ref.cell, Cell.refs, hc, Datum.refs]
  | slice n st l =>
    cases hc : h.cell n with
    | items xs =>
      simp only [Heap.holds, Heap.items, Ref.cell, Cell.refs, hc, refsAll_eq_flatMap]
      intro r hr
      obtain ⟨x, hx, hr⟩ := List.mem_flatMap.mp hr
      exact List.mem_flatMap.mpr ⟨x, ((List.take_sublist _ _).trans (List.drop_sublist _ _)).subset hx, hr⟩
    | entries _ | target _ => simp [Heap.holds, Heap.items, Ref.cell, Cell.refs, hc, refsAll]

theorem cell_refs_subset {h : Heap} {n : Nat} (hn : n < h.cells.size) :
    (h.cell n).refs ⊆ h.cells.toList.flatMap Cell.refs := by
  intro r hr
  have hcell : h.cell n = h.cells[n] := by simp [Heap.cell, hn]
  exact List.mem_flatMap.mpr ⟨_, Array.getElem_mem_toList hn, hcell ▸ hr⟩

/-- What a reachable reference holds is reachable, when every reachable reference names a cell of
the heap. -/
theorem reachable_closed {h : Heap} {d : Datum} (hwf : ∀ r ∈ h.reachable d, r.cell < h.cells.size) :
    ∀ r ∈ h.reachable d, r.cell < h.cells.size ∧ (h.holds r).refs ⊆ h.reachable d :=
  fun r hr => ⟨hwf r hr, fun _ hx =>
    List.mem_append_right _ (cell_refs_subset (hwf r hr) (holds_refs_subset h r hx))⟩

mutual

/-- A datum holds no more references than its weight. -/
theorem Datum.length_refs_le : ∀ d : Datum, d.refs.length ≤ d.weight
  | .scalar _ | .none => Nat.zero_le _
  | .map _ | .pointer _ | .slice _ _ _ => by simp [Datum.refs, Datum.weight]
  | .array items => by
    have := length_refsAll_le items
    simp only [Datum.refs, Datum.weight]
    omega
  | .record fields => by
    have := length_refsFields_le fields
    simp only [Datum.refs, Datum.weight]
    omega

theorem length_refsAll_le : ∀ ds : List Datum, (refsAll ds).length ≤ weightAll ds
  | [] => Nat.le_refl 0
  | d :: ds => by
    have := d.length_refs_le
    have := length_refsAll_le ds
    simp only [refsAll, weightAll, List.length_append]
    omega

theorem length_refsFields_le :
    ∀ fs : List (String × Bool × Datum), (refsFields fs).length ≤ weightFields fs
  | [] => Nat.le_refl 0
  | (_, v, d) :: rest => by
    have := d.length_refs_le
    have := length_refsFields_le rest
    simp only [refsFields, weightFields, List.length_append]
    cases v <;> simp <;> omega

end

theorem Cell.length_refs_le (c : Cell) : c.refs.length ≤ c.weight := by
  cases c with
  | entries es => exact length_refsAll_le _
  | items xs => exact length_refsAll_le xs
  | target d => exact d.length_refs_le

theorem length_flatMap_refs_le (cs : List Cell) (acc : Nat) :
    (cs.flatMap Cell.refs).length + acc ≤ cs.foldl (fun n c => n + c.weight) acc := by
  induction cs generalizing acc with
  | nil => simp
  | cons c cs ih =>
    have := ih (acc + c.weight)
    have := c.length_refs_le
    simp only [List.flatMap_cons, List.length_append, List.foldl_cons]
    omega

/-- A heap and a datum hold no more references than their weights. -/
theorem length_reachable_le (h : Heap) (d : Datum) :
    (h.reachable d).length ≤ h.weight + d.weight := by
  have hcells := length_flatMap_refs_le h.cells.toList 0
  have hd := d.length_refs_le
  rw [Array.foldl_toList] at hcells
  rw [Heap.reachable, List.length_append, Heap.weight]
  omega

end Budget

/-! ## The clone -/

theorem clone_eq (h : Heap) (d : Datum) : h.clone d =
    (((copyWith (h.weight + d.weight + 1) d).run { heap := h }).2.heap,
      ((copyWith (h.weight + d.weight + 1) d).run { heap := h }).1) := rfl

/-- The clone's run copies soundly: its budget exceeds the references it can meet. -/
theorem clone_copied {h : Heap} {d : Datum} (hwf : ∀ r ∈ h.reachable d, r.cell < h.cells.size) :
    Copied h d { heap := h } ((copyWith (h.weight + d.weight + 1) d).run { heap := h }).1
      ((copyWith (h.weight + d.weight + 1) d).run { heap := h }).2 := by
  have hb : budget (h.reachable d) { heap := h } < h.weight + d.weight + 1 := by
    have hcount : budget (h.reachable d) { heap := h } ≤ (h.reachable d).length :=
      List.countP_le_length
    have := length_reachable_le h d
    omega
  exact copyHeld_copied (copyRef_copies (reachable_closed hwf) _) d _ Sound.init
    (List.subset_append_left _ _) hb

/-- A copy `x` of `d` in the heap `h'`, grown from `h`, with the table `φ` from each source
reference to its copy. Renaming is a function of the reference, so positions of `d` holding one
reference hold one copy. -/
structure CloneShape (h : Heap) (d : Datum) (h' : Heap) (x : Datum) (φ : List (Ref × Datum)) :
    Prop where
  /-- The cells of the source are as they were. -/
  source : ∀ n < h.cells.size, h'.cells[n]? = h.cells[n]?
  /-- The copy is the datum with each reference replaced by its copy. -/
  copy : x = d.rename φ
  /-- Each reference met from the datum, directly or through what a copied reference holds, has
  a copy. -/
  closed : d.refs ⊆ φ.map (·.1) ∧ ∀ e ∈ φ, (h.holds e.1).refs ⊆ φ.map (·.1)
  /-- Each copy is a reference of the same kind to a new cell, holding what the source reference
  holds, renamed. -/
  copies : ∀ e ∈ φ, e.2 = (h.copyOf e.1 e.2.refCell).datum ∧ h.cells.size ≤ e.2.refCell ∧
    h'.holds (h.copyOf e.1 e.2.refCell) = (h.holds e.1).rename φ
  /-- One copy a reference, and no two copies share a cell. -/
  distinct : (φ.map (·.1)).Nodup ∧ (φ.map (·.2.refCell)).Nodup
  /-- What the copy holds, and what its copies hold, are copies. -/
  reach : (∀ r ∈ x.refs, r.datum ∈ φ.map (·.2)) ∧
    ∀ e ∈ φ, ∀ r ∈ (h'.holds (h.copyOf e.1 e.2.refCell)).refs, r.datum ∈ φ.map (·.2)
  /-- A reference held by a copied reference has its copy held by the copy: each path, and each
  cycle, of the source is one of the copy. -/
  cycles : ∀ e₁ ∈ φ, ∀ e₂ ∈ φ, e₂.1 ∈ (h.holds e₁.1).refs →
    h.copyOf e₂.1 e₂.2.refCell ∈ (h'.holds (h.copyOf e₁.1 e₁.2.refCell)).refs
  /-- A write to the cell of any copy leaves every cell of the source as it was. -/
  isolated : ∀ e ∈ φ, ∀ C : Cell, ∀ n < h.cells.size, (h'.setCell e.2.refCell C).cells[n]? = h.cells[n]?

/-- A clone of a datum whose reachable references name cells of the heap has the shape of its
source and shares none of it. -/
theorem clone_laws (h : Heap) (d : Datum) (hwf : ∀ r ∈ h.reachable d, r.cell < h.cells.size) :
    ∃ φ, CloneShape h d (h.clone d).1 (h.clone d).2 φ := by
  obtain ⟨hs, hx, hres, hclosed⟩ := clone_copied hwf
  rw [clone_eq]
  generalize ((copyWith (h.weight + d.weight + 1) d).run { heap := h }) = run at hs hx hres hclosed ⊢
  -- the copy started with no copies, so every copy it made is finished
  have hfin : ∀ e ∈ run.2.seen, Finished h run.2 e := by
    obtain ⟨new, hseen, hnew⟩ := hx.seen
    intro e he
    rw [hseen, List.append_nil] at he
    exact hnew e he
  have hφ : ∀ e ∈ run.2.seen, ∃ r : Ref, e.2 = r.datum := fun e he => ⟨_, (hs.copies e he).1⟩
  refine ⟨run.2.seen, hs.source, hres, ⟨hclosed, fun e he => (hfin e he).2⟩,
    fun e he => ⟨(hs.copies e he).1, (hs.copies e he).2.1, (hfin e he).1⟩, ⟨hs.keys, hs.cells⟩,
    ⟨?_, ?_⟩, ?_, ?_⟩
  · intro r hr
    rw [hres] at hr
    exact Datum.refs_rename hφ d hclosed r hr
  · intro e he r hr
    rw [(hfin e he).1] at hr
    exact Cell.refs_rename hφ _ (hfin e he).2 r hr
  · intro e₁ he₁ e₂ he₂ hr
    rw [(hfin e₁ he₁).1]
    exact Cell.mem_refs_rename
      ((lookup_of_mem hs.keys he₂).trans (congrArg some (hs.copies e₂ he₂).1)) _ hr
  · intro e he C n hn
    have hfresh := (hs.copies e he).2.1
    rw [getElem?_setCell_ne C (by omega)]
    exact hs.source n hn

/-- A map holding itself under one key: its clone is a new map holding the clone. -/
theorem self_map_clone_shape :
    (∀ r ∈ Heap.reachable ⟨#[.entries [("self", .map 0)]]⟩ (.map 0), r.cell < 1) ∧
      ∃ φ, CloneShape ⟨#[.entries [("self", .map 0)]]⟩ (.map 0)
        (Heap.clone ⟨#[.entries [("self", .map 0)]]⟩ (.map 0)).1
        (Heap.clone ⟨#[.entries [("self", .map 0)]]⟩ (.map 0)).2 φ :=
  ⟨by decide, clone_laws _ _ (by decide)⟩

example : (Heap.clone ⟨#[.entries [("self", .map 0)]]⟩ (.map 0)).1.holds (.map 1) =
    .entries [("self", .map 1)] := by rfl

end Bindery.Layering
