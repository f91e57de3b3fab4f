import Bindery.Proofs.Scope.Round

/-!
# What a watcher records

A watcher that sees a change records the value: the value itself when it compares by identity,
a deep copy when it compares by structure. The next round compares the new value with the
recorded one. By identity, NaN equals NaN and a list, a table or a scalar equals itself; by
structure, floats compare as numbers, so a NaN differs from itself and from its copy.

The values a watch function hands back here are data: nil, booleans, integers, floats, texts, and
lists and tables of data of any depth that reach no table again on the way down (`Datum`). The
copy of a datum has its shape (`CopyOf`): each list and table it reaches is copied once, into a
list or a table of its own, and a table's copy is filled before the copy returns. While a copy is
made, the copies of the tables on the way down are the only ones still being filled
(`Copying`). Two data are twins when they have the same shape with the same scalars, lists item by
item and tables key by key, whatever their identities (`Twin`).

Main statements:
* `sameValue_self`: by identity, every datum equals itself.
* `copiesAs_datum`: copying a datum returns a copy of it, the world only growing.
* `equalHeld_copy`: by structure, a datum equals its copy exactly when no NaN is reachable in it.
* `equalHeld_twin_copy`: a twin of a datum without NaN equals its copy.
-/

namespace Bindery

/-- A float that is not NaN equals itself. -/
theorem Float.beq_self_of_isNaN_eq_false {x : Float} (h : x.isNaN = false) : (x == x) = true := by
  show x.toModel.unpack.beq x.toModel.unpack = true
  have hn : x.toModel.unpack.isNaN = false := h
  generalize x.toModel.unpack = u at hn ⊢
  cases u with
  | notANumber => simp [Float.Model.UnpackedFloat.isNaN] at hn
  | infinity s => cases s <;> rfl
  | zero s => cases s <;> rfl
  | finite s m e hm =>
    cases s <;> simp [Float.Model.UnpackedFloat.beq, Float.Model.UnpackedFloat.compare]

/-- A NaN float differs from itself. -/
theorem Float.beq_self_of_isNaN {x : Float} (h : x.isNaN = true) : (x == x) = false := by
  show x.toModel.unpack.beq x.toModel.unpack = false
  have hn : x.toModel.unpack.isNaN = true := h
  generalize x.toModel.unpack = u at hn ⊢
  cases u <;> simp_all [Float.Model.UnpackedFloat.isNaN, Float.Model.UnpackedFloat.beq,
    Float.Model.UnpackedFloat.compare]

/-- The entries of a shared table. -/
def World.entries (w : World) (i : Nat) : List (String × Value) := w.tables[i]?.getD []

/-- `w'` keeps the tables of `w` as they were, and has handed out at least the list identities
`w` had. -/
def World.Grows (w w' : World) : Prop :=
  w.tables.size ≤ w'.tables.size ∧ (∀ t < w.tables.size, w'.entries t = w.entries t) ∧
    w.nextList ≤ w'.nextList

/-- `w'` keeps the tables of `w` that are not in `opn` as they were. -/
def World.Frames (opn : List Nat) (w w' : World) : Prop :=
  w.tables.size ≤ w'.tables.size ∧ ∀ t < w.tables.size, t ∉ opn → w'.entries t = w.entries t

namespace World

variable {w w₁ w₂ w₃ : World}

theorem Grows.refl (w : World) : w.Grows w := ⟨Nat.le_refl _, fun _ _ => rfl, Nat.le_refl _⟩

theorem Grows.trans (h₁ : w₁.Grows w₂) (h₂ : w₂.Grows w₃) : w₁.Grows w₃ :=
  ⟨Nat.le_trans h₁.1 h₂.1, fun t ht => (h₂.2.1 t (Nat.lt_of_lt_of_le ht h₁.1)).trans (h₁.2.1 t ht),
    Nat.le_trans h₁.2.2 h₂.2.2⟩

theorem Grows.frames (h : w₁.Grows w₂) (opn : List Nat) : w₁.Frames opn w₂ :=
  ⟨h.1, fun t ht _ => h.2.1 t ht⟩

theorem grows_push (w : World) (e : List (String × Value)) :
    w.Grows { w with tables := w.tables.push e } :=
  ⟨by simp, fun t ht => by simp [entries, Array.getElem?_push, Nat.ne_of_lt ht], Nat.le_refl _⟩

theorem grows_newList (w : World) : w.Grows { w with nextList := w.nextList + 1 } :=
  ⟨Nat.le_refl _, fun _ _ => rfl, Nat.le_succ _⟩

/-- Filling an open table keeps the others. -/
theorem frames_set {n : Nat} {opn : List Nat} (hn : n ∈ opn) (e : List (String × Value)) :
    w.Frames opn { w with tables := w.tables.set! n e } :=
  ⟨by simp, fun t _ ht => by
    have hne : n ≠ t := fun h => ht (h ▸ hn)
    simp [entries, Array.set!, hne]⟩

/-- Filling a table the first world did not have keeps it growing. -/
theorem Grows.set {n : Nat} (h : w₁.Grows w₂) (hn : w₁.tables.size ≤ n) (e : List (String × Value)) :
    w₁.Grows { w₂ with tables := w₂.tables.set! n e } :=
  ⟨by simpa using h.1, fun t ht => by
    have hne : n ≠ t := by omega
    rw [← h.2.1 t ht]
    simp [entries, Array.set!, hne], h.2.2⟩

theorem entries_push (w : World) (e : List (String × Value)) :
    World.entries { w with tables := w.tables.push e } w.tables.size = e := by
  simp [entries]

theorem entries_set {n : Nat} (hn : n < w.tables.size) (e : List (String × Value)) :
    World.entries { w with tables := w.tables.set! n e } n = e := by
  simp [entries, Array.set!, hn]

end World

namespace Scope

open Run

/-! ## Data, their copies and their twins -/

/-- A datum of a world, met below the tables `path`: nil, a boolean, an integer, a float, a text,
a list of data with an identity the world has handed out, or a table of the world off the path
that holds each key once and data below it as values. So a datum reaches no table again on the
way down, however deep it is. Lists of one identity and length hold the same items (`lists`), as
slices of one array do. -/
inductive Datum (w : World) (lists : Nat → Nat → List Value) : List Nat → Value → Prop where
  | nil {path : List Nat} : Datum w lists path .nil
  | bool {path : List Nat} (b : Bool) : Datum w lists path (.bool b)
  | int {path : List Nat} (i : Int) : Datum w lists path (.int i)
  | float {path : List Nat} (x : Float) : Datum w lists path (.float x)
  | str {path : List Nat} (s : String) : Datum w lists path (.str s)
  | list {path : List Nat} {i : Nat} {xs : List Value} (hi : i < w.nextList)
      (hxs : lists i xs.length = xs) (h : ∀ x ∈ xs, Datum w lists path x) :
      Datum w lists path (.list i xs)
  | table {path : List Nat} {i : Nat} (hi : i < w.tables.size) (hpath : i ∉ path)
      (hkeys : ((w.entries i).map Prod.fst).Nodup)
      (h : ∀ e ∈ w.entries i, Datum w lists (i :: path) e.2) : Datum w lists path (.table i)

/-- A NaN float is reachable in a value: it is one, or it is reachable in an item of a list or
in a value of a table. -/
inductive NanIn (w : World) : Value → Prop where
  | float {x : Float} (hx : x.isNaN = true) : NanIn w (.float x)
  | list {i : Nat} {xs : List Value} {x : Value} (hx : x ∈ xs) (h : NanIn w x) :
      NanIn w (.list i xs)
  | table {i : Nat} {e : String × Value} (he : e ∈ w.entries i) (h : NanIn w e.2) :
      NanIn w (.table i)

/-- Two values with one shape: the same scalars, lists with twin items in order, and tables with
the same keys, each once, and twin values under each key, whatever the identities of the lists
and tables. -/
inductive Twin (w : World) : Value → Value → Prop where
  | nil : Twin w .nil .nil
  | bool (b : Bool) : Twin w (.bool b) (.bool b)
  | int (i : Int) : Twin w (.int i) (.int i)
  | float (x : Float) : Twin w (.float x) (.float x)
  | str (s : String) : Twin w (.str s) (.str s)
  | list {i j : Nat} {xs ys : List Value} (hlen : xs.length = ys.length)
      (h : ∀ p ∈ xs.zip ys, Twin w p.1 p.2) : Twin w (.list i xs) (.list j ys)
  | table {i j : Nat} (hkeys : ((w.entries i).map Prod.fst).Perm ((w.entries j).map Prod.fst))
      (hnodup : ((w.entries i).map Prod.fst).Nodup)
      (h : ∀ key x y, (key, x) ∈ w.entries i → (key, y) ∈ w.entries j → Twin w x y) :
      Twin w (.table i) (.table j)

/-- `c` is a copy of the datum `v` of `w₀` at world `u`, where the tables `opn` are still being
filled: a scalar is itself; a list's copy is a list with an identity `w₀` had not handed out and
copies of its items in order; a table's copy is a filled table `w₀` did not have, with the keys
of the table in order and copies of its values under them. -/
inductive CopyOf (w₀ u : World) (opn : List Nat) : Value → Value → Prop where
  | nil : CopyOf w₀ u opn .nil .nil
  | bool (b : Bool) : CopyOf w₀ u opn (.bool b) (.bool b)
  | int (i : Int) : CopyOf w₀ u opn (.int i) (.int i)
  | float (x : Float) : CopyOf w₀ u opn (.float x) (.float x)
  | str (s : String) : CopyOf w₀ u opn (.str s) (.str s)
  | list {i j : Nat} {xs cs : List Value} (hj : w₀.nextList ≤ j) (hlen : cs.length = xs.length)
      (h : ∀ p ∈ xs.zip cs, CopyOf w₀ u opn p.1 p.2) : CopyOf w₀ u opn (.list i xs) (.list j cs)
  | table {i j : Nat} (hj : w₀.tables.size ≤ j) (hju : j < u.tables.size) (hopen : j ∉ opn)
      (hkeys : (u.entries j).map Prod.fst = (w₀.entries i).map Prod.fst)
      (h : ∀ p ∈ (w₀.entries i).zip (u.entries j), CopyOf w₀ u opn p.1.2 p.2.2) :
      CopyOf w₀ u opn (.table i) (.table j)

section Copies

variable {w₀ u u' : World} {opn opn' : List Nat} {v c : Value}

/-- A copy stays one while the tables it reaches stay as they are. -/
theorem CopyOf.frame (hc : CopyOf w₀ u opn v c) (hf : u.Frames opn u') : CopyOf w₀ u' opn v c := by
  induction hc with
  | nil => exact .nil
  | bool b => exact .bool b
  | int i => exact .int i
  | float x => exact .float x
  | str s => exact .str s
  | list hj hlen _ ih => exact .list hj hlen ih
  | table hj hju hopen hkeys _ ih =>
    rw [← hf.2 _ hju hopen] at hkeys ih
    exact .table hj (Nat.lt_of_lt_of_le hju hf.1) hopen hkeys ih

/-- A copy reaches only tables the world has, so it stays one whatever other tables are open. -/
theorem CopyOf.reopen (hc : CopyOf w₀ u opn v c) (h : ∀ j < u.tables.size, j ∈ opn' → j ∈ opn) :
    CopyOf w₀ u opn' v c := by
  induction hc with
  | nil => exact .nil
  | bool b => exact .bool b
  | int i => exact .int i
  | float x => exact .float x
  | str s => exact .str s
  | list hj hlen _ ih => exact .list hj hlen ih
  | table hj hju hopen hkeys _ ih => exact .table hj hju (fun hj' => hopen (h _ hju hj')) hkeys ih

end Copies

/-! ## Making a copy -/

/-- The copies remembered later include those remembered before. -/
def Extends (seen seen' : Copies) : Prop := ∀ r c, seen.lookup r = some c → seen'.lookup r = some c

theorem Extends.refl (seen : Copies) : Extends seen seen := fun _ _ h => h

theorem Extends.trans {s₁ s₂ s₃ : Copies} (h₁ : Extends s₁ s₂) (h₂ : Extends s₂ s₃) :
    Extends s₁ s₃ := fun r c h => h₂ r c (h₁ r c h)

theorem lookup_cons_of_ne {r r' : Ref} {c : Value} {seen : Copies} (h : r' ≠ r) :
    ((r, c) :: seen).lookup r' = seen.lookup r' := by
  simp [List.lookup, beq_eq_false_iff_ne.mpr h]

/-- Remembering a reference that was not remembered at the start keeps what was. -/
theorem Extends.cons {seen seen₁ : Copies} {r : Ref} (h : Extends seen seen₁)
    (hr : seen.lookup r = none) (c : Value) : Extends seen ((r, c) :: seen₁) := by
  intro r' c' h'
  have hne : r' ≠ r := fun heq => by rw [heq, hr] at h'; cases h'
  rw [lookup_cons_of_ne hne]
  exact h r' c' h'

/-- A state of a copy of data of `w₀`, at world `u`, below the tables `path`: `u` keeps what `w₀`
had, the open tables are `u`'s, and each table remembered off the path and each list remembered
has a copy there. -/
structure Copying (w₀ u : World) (lists : Nat → Nat → List Value) (path opn : List Nat)
    (seen : Copies) : Prop where
  grows : w₀.Grows u
  opened : ∀ j ∈ opn, j < u.tables.size
  tables : ∀ t c, seen.lookup (.table t) = some c → t ∉ path → CopyOf w₀ u opn (.table t) c
  lists : ∀ i n c, seen.lookup (.list i n) = some c → CopyOf w₀ u opn (.list i (lists i n)) c

/-- Copying `v` with budget `f`, below the tables `path`, from any state of a copy: it returns a
copy of `v` while the world only grows, remembering more and keeping the state. -/
def CopiesAs (w₀ : World) (lists : Nat → Nat → List Value) (f : Nat) (path : List Nat)
    (v : Value) : Prop :=
  ∀ opn seen u, Copying w₀ u lists path opn seen → ∃ c seen' u',
    copyHeld (copyRef f) seen v u = .ok (c, seen') u' ∧ u.Grows u' ∧ Extends seen seen' ∧
      Copying w₀ u' lists path opn seen' ∧ CopyOf w₀ u' opn v c

section Making

variable {w₀ : World} {lists : Nat → Nat → List Value} {f : Nat} {path opn : List Nat}

namespace Copying

variable {u u' : World} {seen : Copies}

theorem grow (hs : Copying w₀ u lists path opn seen) (hu : u.Grows u') :
    Copying w₀ u' lists path opn seen where
  grows := hs.grows.trans hu
  opened j hj := Nat.lt_of_lt_of_le (hs.opened j hj) hu.1
  tables t c h ht := (hs.tables t c h ht).frame (hu.frames opn)
  lists i n c h := (hs.lists i n c h).frame (hu.frames opn)

/-- Remembering a new list copy keeps the state. -/
theorem remember_list {i n : Nat} {c : Value} (hs : Copying w₀ u lists path opn seen)
    (hc : CopyOf w₀ u opn (.list i (lists i n)) c) :
    Copying w₀ u lists path opn ((.list i n, c) :: seen) where
  grows := hs.grows
  opened := hs.opened
  tables t c' h ht := hs.tables t c' (by rwa [lookup_cons_of_ne (by simp)] at h) ht
  lists i' n' c' h := by
    by_cases he : Ref.list i' n' = .list i n
    · cases he
      simp only [List.lookup, beq_self_eq_true, Option.some.injEq] at h
      exact h ▸ hc
    · exact hs.lists i' n' c' (by rwa [lookup_cons_of_ne he] at h)

/-- Going down into a table not met before: its new, empty copy is remembered and open. -/
theorem descend {i : Nat} (hs : Copying w₀ u lists path opn seen) :
    Copying w₀ { u with tables := u.tables.push [] } lists (i :: path) (u.tables.size :: opn)
      ((.table i, .table u.tables.size) :: seen) := by
  have hu := World.grows_push u []
  have hre : ∀ j < u.tables.size, j ∈ u.tables.size :: opn → j ∈ opn := fun j hj h =>
    (List.mem_cons.mp h).resolve_left (Nat.ne_of_lt hj)
  refine ⟨hs.grows.trans hu, ?_, ?_, ?_⟩
  · intro j hj
    rcases List.mem_cons.mp hj with rfl | hj
    · simp
    · exact Nat.lt_of_lt_of_le (hs.opened j hj) hu.1
  · intro t c h ht
    have hti : t ≠ i := fun heq => ht (heq ▸ List.mem_cons_self)
    have h' : seen.lookup (.table t) = some c := by
      rwa [lookup_cons_of_ne (by simpa using hti)] at h
    exact ((hs.tables t c h' fun hp => ht (List.mem_cons_of_mem _ hp)).reopen hre).frame
      (hu.frames _)
  · intro i' n c h
    exact ((hs.lists i' n c (by rwa [lookup_cons_of_ne (by simp)] at h)).reopen hre).frame
      (hu.frames _)

/-- Coming back up from a table: its copy is filled and closed, and it is a copy off the path. -/
theorem ascend {i n : Nat} {e : List (String × Value)}
    (hs : Copying w₀ u lists (i :: path) (n :: opn) seen)
    (hseen : seen.lookup (.table i) = some (.table n))
    (hc : CopyOf w₀ { u with tables := u.tables.set! n e } opn (.table i) (.table n)) :
    Copying w₀ { u with tables := u.tables.set! n e } lists path opn seen := by
  have hf := World.frames_set (w := u) (List.mem_cons_self (a := n) (l := opn)) e
  have hclose : ∀ j < u.tables.size, j ∈ opn → j ∈ n :: opn := fun _ _ h => List.mem_cons_of_mem _ h
  have hfill : ∀ {a b : Value}, CopyOf w₀ u (n :: opn) a b →
      CopyOf w₀ { u with tables := u.tables.set! n e } opn a b := fun h =>
    (h.frame hf).reopen fun j hj h' => hclose j (by simpa using hj) h'
  refine ⟨?_, ?_, ?_, ?_⟩
  · refine ⟨Nat.le_trans hs.grows.1 hf.1, fun t ht => ?_, hs.grows.2.2⟩
    -- the filled table is a new one, so the tables of `w₀` are untouched
    have hn₀ : w₀.tables.size ≤ n := by
      cases hc with
      | table hj => exact hj
    have hnt : n ≠ t := by omega
    rw [← hs.grows.2.1 t ht]
    simp [World.entries, Array.set!, hnt]
  · intro j hj
    simpa using hs.opened j (List.mem_cons_of_mem _ hj)
  · intro t c h ht
    by_cases hti : t = i
    · subst hti
      rw [hseen] at h
      cases h
      exact hc
    · exact hfill (hs.tables t c h fun hp => ht ((List.mem_cons.mp hp).resolve_left hti))
  · intro i' n' c h
    exact hfill (hs.lists i' n' c h)

end Copying

/-- The items of a list on the way down are no more than the tables there are. -/
theorem length_le_of_nodup {l : List Nat} {n : Nat} (hnd : l.Nodup) (hlt : ∀ t ∈ l, t < n) :
    l.length ≤ n := by
  simpa using (hnd.subperm fun t ht => List.mem_range.mpr (hlt t ht)).length_le

/-- A value that copying keeps is its own copy. -/
theorem copiesAs_of_kept {v : Value} (hv : ∀ seen, copyHeld (copyRef f) seen v = pure (v, seen))
    (hc : ∀ u opn, CopyOf w₀ u opn v v) : CopiesAs w₀ lists f path v :=
  fun opn seen u hs => ⟨v, seen, u, by rw [hv]; rfl, .refl u, .refl seen, hs, hc u opn⟩

theorem copyItems_of {xs : List Value} (h : ∀ x ∈ xs, CopiesAs w₀ lists f path x) :
    ∀ opn seen u, Copying w₀ u lists path opn seen → ∃ cs seen' u',
      copyItems (copyRef f) seen xs u = .ok (cs, seen') u' ∧ u.Grows u' ∧ Extends seen seen' ∧
      Copying w₀ u' lists path opn seen' ∧ cs.length = xs.length ∧
      ∀ p ∈ xs.zip cs, CopyOf w₀ u' opn p.1 p.2 := by
  induction xs with
  | nil => exact fun opn seen u hs => ⟨[], seen, u, rfl, .refl u, .refl seen, hs, rfl, by simp⟩
  | cons x xs ih =>
    intro opn seen u hs
    obtain ⟨c, seen₁, u₁, hrun₁, hu₁, hx₁, hs₁, hc⟩ := h x List.mem_cons_self opn seen u hs
    obtain ⟨cs, seen₂, u₂, hrun₂, hu₂, hx₂, hs₂, hlen, hcs⟩ :=
      ih (fun y hy => h y (List.mem_cons_of_mem _ hy)) opn seen₁ u₁ hs₁
    refine ⟨c :: cs, seen₂, u₂, ?_, hu₁.trans hu₂, hx₁.trans hx₂, hs₂, by simp [hlen], ?_⟩
    · rw [copyItems, bind_run_ok hrun₁, bind_run_ok hrun₂]
      rfl
    · intro p hp
      rcases List.mem_cons.mp (by simpa using hp) with rfl | hp
      · exact hc.frame (hu₂.frames opn)
      · exact hcs p hp

theorem copyEntries_of {es : List (String × Value)} (h : ∀ e ∈ es, CopiesAs w₀ lists f path e.2) :
    ∀ opn seen u, Copying w₀ u lists path opn seen → ∃ es' seen' u',
      copyEntries (copyRef f) seen es u = .ok (es', seen') u' ∧ u.Grows u' ∧ Extends seen seen' ∧
      Copying w₀ u' lists path opn seen' ∧ es'.map Prod.fst = es.map Prod.fst ∧
      ∀ p ∈ es.zip es', CopyOf w₀ u' opn p.1.2 p.2.2 := by
  induction es with
  | nil => exact fun opn seen u hs => ⟨[], seen, u, rfl, .refl u, .refl seen, hs, rfl, by simp⟩
  | cons e es ih =>
    intro opn seen u hs
    obtain ⟨c, seen₁, u₁, hrun₁, hu₁, hx₁, hs₁, hc⟩ := h e List.mem_cons_self opn seen u hs
    obtain ⟨es', seen₂, u₂, hrun₂, hu₂, hx₂, hs₂, hkeys, hcs⟩ :=
      ih (fun y hy => h y (List.mem_cons_of_mem _ hy)) opn seen₁ u₁ hs₁
    refine ⟨(e.1, c) :: es', seen₂, u₂, ?_, hu₁.trans hu₂, hx₁.trans hx₂, hs₂, by simp [hkeys], ?_⟩
    · rw [copyEntries, bind_run_ok hrun₁, bind_run_ok hrun₂]
      rfl
    · intro p hp
      rcases List.mem_cons.mp (by simpa using hp) with rfl | hp
      · exact hc.frame (hu₂.frames opn)
      · exact hcs p hp

/-- A list met before is answered with its copy; any other is copied item by item into a list
with a new identity, which is remembered. -/
theorem copiesAs_list {i : Nat} {xs : List Value}
    (hxs : lists i xs.length = xs) (h : ∀ x ∈ xs, CopiesAs w₀ lists f path x) :
    CopiesAs w₀ lists f path (.list i xs) := by
  intro opn seen u hs
  cases hseen : seen.lookup (.list i xs.length) with
  | some c =>
    refine ⟨c, seen, u, ?_, .refl u, .refl seen, hs, hxs ▸ hs.lists i xs.length c hseen⟩
    rw [copyHeld, hseen]
    rfl
  | none =>
    obtain ⟨cs, seen₁, u₁, hrun, hu₁, hx₁, hs₁, hlen, hcs⟩ := copyItems_of h opn seen u hs
    have hu₂ := World.grows_newList u₁
    have hc : CopyOf w₀ { u₁ with nextList := u₁.nextList + 1 } opn (.list i xs)
        (.list u₁.nextList cs) :=
      .list hs₁.grows.2.2 hlen fun p hp => (hcs p hp).frame (hu₂.frames opn)
    refine ⟨_, _, _, ?_, hu₁.trans hu₂, hx₁.cons hseen _, (hs₁.grow hu₂).remember_list (hxs ▸ hc), hc⟩
    rw [copyHeld, hseen]
    simp only
    rw [bind_run_ok hrun]
    rfl

/-- A table met before is answered with its copy; any other gets a new, empty table, remembered
before its entries are copied one level further down, and then filled with them. -/
theorem copiesAs_table {i : Nat} (hi : i < w₀.tables.size) (hpath : i ∉ path)
    (h : ∀ e ∈ w₀.entries i, CopiesAs w₀ lists f (i :: path) e.2) :
    CopiesAs w₀ lists (f + 1) path (.table i) := by
  intro opn seen u hs
  cases hseen : seen.lookup (.table i) with
  | some c =>
    refine ⟨c, seen, u, ?_, .refl u, .refl seen, hs, hs.tables i c hseen hpath⟩
    show copyRef (f + 1) seen (.table i) u = _
    rw [copyRef.eq_1, hseen]
    rfl
  | none =>
    have hs₁ := hs.descend (i := i)
    obtain ⟨es', seen₂, u₂, hrun, hu₂, hx₂, hs₂, hkeys, hcs⟩ :=
      copyEntries_of h _ _ _ hs₁
    have hn₂ : u.tables.size < u₂.tables.size := by
      have := hu₂.1
      simp at this
      omega
    have hf := World.frames_set (w := u₂) (List.mem_cons_self (a := u.tables.size) (l := opn)) es'
    -- the new table holds the copied entries, each a copy with the new table closed
    have hc : CopyOf w₀ { u₂ with tables := u₂.tables.set! u.tables.size es' } opn (.table i)
        (.table u.tables.size) := by
      refine .table hs.grows.1 (by simpa using hn₂) (fun hn => Nat.lt_irrefl _ (hs.opened _ hn))
        (by rw [World.entries_set hn₂]; exact hkeys) ?_
      rw [World.entries_set hn₂]
      exact fun p hp => ((hcs p hp).frame hf).reopen fun _ _ hj => List.mem_cons_of_mem _ hj
    have hseen₂ : seen₂.lookup (.table i) = some (.table u.tables.size) :=
      hx₂ _ _ (by simp [List.lookup])
    refine ⟨_, _, _, ?_, ((World.grows_push u []).trans hu₂).set (Nat.le_refl _) es',
      (Extends.refl seen).cons hseen _ |>.trans hx₂, hs₂.ascend hseen₂ hc, hc⟩
    have hent : World.entries { u with tables := u.tables.push [] } i = w₀.entries i :=
      hs₁.grows.2.1 i hi
    show copyRef (f + 1) seen (.table i) u = _
    rw [copyRef.eq_1, hseen]
    show (copyEntries (copyRef f) _ (World.entries { u with tables := u.tables.push [] } i) >>= _) _ = _
    rw [hent, bind_run_ok hrun]
    rfl

/-- **Copying a datum returns a copy of it**: with a budget above the tables there are, less
those on the way down, every datum is copied, whatever it shares. -/
theorem copiesAs_datum {path : List Nat} {v : Value} (hd : Datum w₀ lists path v) :
    ∀ f, w₀.tables.size < f + path.length → path.Nodup → (∀ t ∈ path, t < w₀.tables.size) →
      CopiesAs w₀ lists f path v := by
  induction hd with
  | nil => exact fun _ _ _ _ => copiesAs_of_kept (fun _ => rfl) fun _ _ => .nil
  | bool b => exact fun _ _ _ _ => copiesAs_of_kept (fun _ => rfl) fun _ _ => .bool b
  | int i => exact fun _ _ _ _ => copiesAs_of_kept (fun _ => rfl) fun _ _ => .int i
  | float x => exact fun _ _ _ _ => copiesAs_of_kept (fun _ => rfl) fun _ _ => .float x
  | str s => exact fun _ _ _ _ => copiesAs_of_kept (fun _ => rfl) fun _ _ => .str s
  | list _ hxs _ ih =>
    exact fun f hf hnd hlt => copiesAs_list hxs fun x hx => ih x hx f hf hnd hlt
  | @table path i hi hpath _ _ ih =>
    intro f hf hnd hlt
    -- the tables on the way down are distinct tables of the world, so there is budget left
    have hlen : (i :: path).length ≤ w₀.tables.size :=
      length_le_of_nodup (List.nodup_cons.mpr ⟨hpath, hnd⟩) fun t ht =>
        (List.mem_cons.mp ht).elim (fun h => h ▸ hi) (hlt t)
    obtain ⟨f, rfl⟩ : ∃ f', f = f' + 1 := ⟨f - 1, by simp at hlen; omega⟩
    exact copiesAs_table hi hpath fun e he => ih e he f (by simp; omega)
      (List.nodup_cons.mpr ⟨hpath, hnd⟩) fun t ht =>
        (List.mem_cons.mp ht).elim (fun h => h ▸ hi) (hlt t)

/-- Copying a datum returns its copy, the world only growing. -/
theorem cloneValue_copy {w : World} {v : Value} (hd : Datum w lists [] v) :
    ∃ c w', cloneValue v w = .ok c w' ∧ w.Grows w' ∧ CopyOf w w' [] v c := by
  have hs : Copying w w lists [] [] [] :=
    ⟨.refl w, by simp, fun _ _ h _ => by simp at h, fun _ _ _ h => by simp at h⟩
  obtain ⟨c, _, w', hrun, hw, -, -, hc⟩ :=
    copiesAs_datum hd (w.tables.size + w.boxes.size + 1) (by omega) List.nodup_nil (by simp)
      [] [] w hs
  refine ⟨c, w', ?_, hw, hc⟩
  show (copyHeld (copyRef (w.tables.size + w.boxes.size + 1)) [] v >>= fun r => pure r.1) w = _
  rw [bind_run_ok hrun]
  rfl

end Making

/-! ## Comparing with a copy -/

section Comparing

variable {tables : Array (List (String × Value))} {boxes : Array Box} {fuel i j : Nat}
  {met : List (Ref × Ref)}

/-- Comparing two tables that are not one and whose pair was not met: the same number of entries,
and each value equal to the other table's value under its key, with the pair met below. -/
theorem equalRef_table_iff (hij : i ≠ j) (hmet : (Ref.table (min i j), Ref.table (max i j)) ∉ met) :
    equalRef tables boxes (fuel + 1) met (.table i) (.table j) = true ↔
      (tables[i]?.getD []).length = (tables[j]?.getD []).length ∧ ∀ e ∈ tables[i]?.getD [],
        ∃ y, (tables[j]?.getD []).find? (·.1 == e.1) = some y ∧
          equalHeld (equalRef tables boxes fuel ((Ref.table (min i j), Ref.table (max i j)) :: met))
            e.2 y.2 = true := by
  rw [equalRef]
  simp only [hij, hmet, Bool.and_eq_true, List.all_eq_true, Bool.or_eq_true, beq_iff_eq, false_or,
    List.contains_iff_mem]
  refine and_congr_right fun _ => forall₂_congr fun e _ => ?_
  cases (tables[j]?.getD []).find? (·.1 == e.1) <;> simp

/-- A table equals itself, and a pair met before is taken as equal. -/
theorem equalRef_table_of (h : i = j ∨ (Ref.table (min i j), Ref.table (max i j)) ∈ met) :
    equalRef tables boxes (fuel + 1) met (.table i) (.table j) = true := by
  rw [equalRef]
  rcases h with rfl | h
  · simp
  · simp [h]

theorem equalItems_iff {ref : Value → Value → Bool} {xs ys : List Value} :
    equalItems ref xs ys = true ↔ ∀ p ∈ xs.zip ys, equalHeld ref p.1 p.2 = true := by
  induction xs generalizing ys with
  | nil => simp [equalItems]
  | cons x xs ih =>
    cases ys with
    | nil => simp [equalItems]
    | cons y ys => simp [equalItems, ih]

theorem forall_zip_fst {α β : Type} {xs : List α} {ys : List β} (hlen : ys.length = xs.length)
    {P : α → Prop} : (∀ p ∈ xs.zip ys, P p.1) ↔ ∀ x ∈ xs, P x := by
  have hmap : (xs.zip ys).map Prod.fst = xs := List.map_fst_zip (by omega)
  refine ⟨fun h x hx => ?_, fun h p hp => h p.1 (List.of_mem_zip hp).1⟩
  rw [← hmap] at hx
  obtain ⟨p, hp, rfl⟩ := List.mem_map.mp hx
  exact h p hp

theorem nanIn_list_iff {w : World} {i : Nat} {xs : List Value} :
    NanIn w (.list i xs) ↔ ∃ x ∈ xs, NanIn w x :=
  ⟨fun h => by cases h with | list hx h => exact ⟨_, hx, h⟩, fun ⟨_, hx, h⟩ => .list hx h⟩

theorem nanIn_table_iff {w : World} {i : Nat} :
    NanIn w (.table i) ↔ ∃ e ∈ w.entries i, NanIn w e.2 :=
  ⟨fun h => by cases h with | table he h => exact ⟨_, he, h⟩, fun ⟨_, he, h⟩ => .table he h⟩

/-- In entries with the keys of entries that hold each key once, the entry under the key of one
of them is the one paired with it. -/
theorem find?_of_keys {l r : List (String × Value)} (hnodup : (l.map Prod.fst).Nodup)
    (hkeys : r.map Prod.fst = l.map Prod.fst) {e : String × Value} (he : e ∈ l) :
    ∃ y, r.find? (·.1 == e.1) = some (e.1, y) ∧ (e, (e.1, y)) ∈ l.zip r := by
  induction l generalizing r with
  | nil => cases he
  | cons e₀ l ih =>
    cases r with
    | nil => simp at hkeys
    | cons m r =>
      simp only [List.map_cons, List.cons.injEq] at hkeys
      obtain ⟨hm, hrest⟩ := hkeys
      rw [List.map_cons, List.nodup_cons] at hnodup
      by_cases h0 : e = e₀
      · subst h0
        have hme : m = (e.1, m.2) := Prod.ext hm rfl
        refine ⟨m.2, ?_, ?_⟩
        · simp only [List.find?_cons, hm, beq_self_eq_true]
          exact congrArg some hme
        · rw [← hme]
          exact List.mem_cons_self
      · have he' : e ∈ l := (List.mem_cons.mp he).resolve_left h0
        have hne : (m.1 == e.1) = false := by
          rw [hm, beq_eq_false_iff_ne]
          intro heq
          exact hnodup.1 (heq ▸ List.mem_map_of_mem he')
        obtain ⟨y, hy, hmem⟩ := ih hnodup.2 hrest he'
        exact ⟨y, by simp [hne, hy], by simp [hmem]⟩

/-- Of three lists of one length, a pair of the first and the third at one place has the item
of the second at that place between them. -/
theorem exists_mid_of_mem_zip {α β γ : Type} {xs' : List α} {xs : List β} {cs : List γ}
    (h₁ : xs'.length = xs.length) (h₂ : cs.length = xs.length) {p : α × γ} (hp : p ∈ xs'.zip cs) :
    ∃ x, (p.1, x) ∈ xs'.zip xs ∧ (x, p.2) ∈ xs.zip cs := by
  induction xs generalizing xs' cs with
  | nil => simp_all
  | cons x xs ih =>
    cases xs' with
    | nil => simp at h₁
    | cons x' xs' =>
      cases cs with
      | nil => simp at h₂
      | cons c cs =>
        rcases List.mem_cons.mp hp with rfl | hp
        · exact ⟨x, by simp, by simp⟩
        · obtain ⟨y, hy₁, hy₂⟩ := ih (by simpa using h₁) (by simpa using h₂) hp
          exact ⟨y, List.mem_cons_of_mem _ hy₁, List.mem_cons_of_mem _ hy₂⟩

/-- By identity, every datum equals itself: NaN counts as equal to NaN. -/
theorem sameValue_self {w : World} {lists : Nat → Nat → List Value} {path : List Nat} {v : Value}
    (hd : Datum w lists path v) : sameValue v v = true := by
  cases hd with
  | nil => rfl
  | float x =>
    cases hx : x.isNaN with
    | false => simp [sameValue, isNaNValue, Float.beq_self_of_isNaN_eq_false hx]
    | true => simp only [sameValue, isNaNValue, hx, Bool.and_self, ↓reduceIte]
  | _ => simp [sameValue, isNaNValue]

variable {w₀ u : World} {lists : Nat → Nat → List Value} {opn : List Nat}

/-- On the way down from a datum there is budget left at each table: the tables on the way are
distinct tables of the world. -/
theorem budget_left {path : List Nat} {t : Nat} (ht : t < w₀.tables.size) (htp : t ∉ path)
    (hnd : path.Nodup) (hlt : ∀ t ∈ path, t < w₀.tables.size) (hf : w₀.tables.size < fuel + path.length) :
    ∃ f, fuel = f + 1 ∧ (t :: path).Nodup ∧ (∀ t' ∈ t :: path, t' < w₀.tables.size) ∧
      w₀.tables.size < f + (t :: path).length := by
  have hnd' := List.nodup_cons.mpr ⟨htp, hnd⟩
  have hlt' : ∀ t' ∈ t :: path, t' < w₀.tables.size := fun t' h =>
    (List.mem_cons.mp h).elim (fun h => h ▸ ht) (hlt t')
  have hlen := length_le_of_nodup hnd' hlt'
  simp only [List.length_cons] at hlen ⊢
  exact ⟨fuel - 1, by omega, hnd', hlt', by omega⟩

/-- **A datum equals its copy exactly when no NaN is reachable in it**: comparing by structure at
a world that kept the datum's tables, below the tables on the way down, with their pairs met and a
budget above the tables there are, less those on the way down. -/
theorem equalHeld_copy (hu : w₀.Grows u) {path : List Nat} {v : Value}
    (hd : Datum w₀ lists path v) : ∀ {fuel : Nat} {met : List (Ref × Ref)} {c : Value},
      CopyOf w₀ u opn v c → w₀.tables.size < fuel + path.length → path.Nodup →
      (∀ t ∈ path, t < w₀.tables.size) → (∀ p ∈ met, ∃ t ∈ path, p.1 = .table t) →
      (equalHeld (equalRef u.tables u.boxes fuel met) v c = true ↔ ¬ NanIn w₀ v) := by
  induction hd with
  | nil =>
    intro _ _ _ hc _ _ _ _
    cases hc
    simpa [equalHeld] using fun h => nomatch h
  | bool b =>
    intro _ _ _ hc _ _ _ _
    cases hc
    simpa [equalHeld, Value.typeName, sameValue, isNaNValue] using fun h => nomatch h
  | int i =>
    intro _ _ _ hc _ _ _ _
    cases hc
    simpa [equalHeld, Value.typeName, sameValue, isNaNValue] using fun h => nomatch h
  | str s =>
    intro _ _ _ hc _ _ _ _
    cases hc
    simpa [equalHeld, Value.typeName, sameValue, isNaNValue] using fun h => nomatch h
  | float x =>
    intro _ _ _ hc
    cases hc
    have hnan : NanIn w₀ (.float x) ↔ x.isNaN = true :=
      ⟨fun h => by cases h with | float hx => exact hx, .float⟩
    simp only [equalHeld, Value.typeName, bne_self_eq_false, Bool.false_eq_true, if_false, hnan]
    cases hx : x.isNaN with
    | false => simp [Float.beq_self_of_isNaN_eq_false hx]
    | true => simp [Float.beq_self_of_isNaN hx]
  | @list path i xs hi _ _ ih =>
    intro fuel met c hc hf hnd hlt hmet
    cases hc with
    | @list _ j _ cs hj hlen hcs =>
    -- the copy is another list, so its items are compared in order
    have hij : (i == j) = false := beq_eq_false_iff_ne.mpr (by omega)
    simp only [equalHeld, Value.typeName, bne_self_eq_false, Bool.false_eq_true, if_false, hlen,
      beq_self_eq_true, hij, Bool.false_or, Bool.true_and, equalItems_iff, nanIn_list_iff,
      not_exists, not_and]
    rw [← forall_zip_fst hlen]
    exact forall₂_congr fun p hp => ih p.1 (List.of_mem_zip hp).1 (hcs p hp) hf hnd hlt hmet
  | @table path i hi hpath hkeys _ ih =>
    intro fuel met c hc hf hnd hlt hmet
    cases hc with
    | @table _ j hj _ _ hkeysc hcs =>
    obtain ⟨f, rfl, hnd', hlt', hf'⟩ := budget_left hi hpath hnd hlt hf
    have hij : i ≠ j := by omega
    have hpair : (Ref.table (min i j), Ref.table (max i j)) ∉ met := fun hm => by
      obtain ⟨t, ht, heq⟩ := hmet _ hm
      have : min i j = t := by simpa using heq
      exact hpath (by rwa [Nat.min_eq_left (by omega)] at this ▸ ht)
    have hmet' : ∀ p ∈ (Ref.table (min i j), Ref.table (max i j)) :: met, ∃ t ∈ i :: path,
        p.1 = .table t := by
      intro p hp
      rcases List.mem_cons.mp hp with rfl | hp
      · exact ⟨i, List.mem_cons_self, by simp [Nat.min_eq_left (Nat.le_of_lt (by omega : i < j))]⟩
      · obtain ⟨t, ht, heq⟩ := hmet p hp
        exact ⟨t, List.mem_cons_of_mem _ ht, heq⟩
    have hsrc : u.tables[i]?.getD [] = w₀.entries i := hu.2.1 i hi
    simp only [equalHeld, Value.typeName, bne_self_eq_false, Bool.false_eq_true, if_false]
    rw [equalRef_table_iff hij hpair, hsrc, nanIn_table_iff]
    -- each entry is compared with the entry paired with it in the copy
    have hlen : (w₀.entries i).length = (u.tables[j]?.getD []).length := by
      simpa [World.entries] using (congrArg List.length hkeysc).symm
    simp only [hlen, true_and, not_exists, not_and]
    refine forall₂_congr fun e he => ?_
    obtain ⟨y, hfind, hmem⟩ := find?_of_keys hkeys hkeysc he
    rw [show (u.tables[j]?.getD []).find? (·.1 == e.1) = some (e.1, y) from hfind]
    simpa using ih e he (hcs _ hmem) hf' hnd' hlt' hmet'

/-- **A twin of a datum without NaN equals its copy**: comparing by structure any value with
the shape of the datum, at a world that kept the datum's tables, with the copy. -/
theorem equalHeld_twin_copy (hu : w₀.Grows u) {path : List Nat} {v : Value}
    (hd : Datum w₀ lists path v) : ∀ {fuel : Nat} {met : List (Ref × Ref)} {c v' : Value},
      CopyOf w₀ u opn v c → ¬ NanIn w₀ v → Twin u v' v → w₀.tables.size < fuel + path.length →
      path.Nodup → (∀ t ∈ path, t < w₀.tables.size) →
      equalHeld (equalRef u.tables u.boxes fuel met) v' c = true := by
  induction hd with
  | nil =>
    intro _ _ _ _ hc _ ht _ _ _
    cases hc
    cases ht
    rfl
  | bool b =>
    intro _ _ _ _ hc _ ht _ _ _
    cases hc
    cases ht
    simp [equalHeld, Value.typeName, sameValue, isNaNValue]
  | int i =>
    intro _ _ _ _ hc _ ht _ _ _
    cases hc
    cases ht
    simp [equalHeld, Value.typeName, sameValue, isNaNValue]
  | str s =>
    intro _ _ _ _ hc _ ht _ _ _
    cases hc
    cases ht
    simp [equalHeld, Value.typeName, sameValue, isNaNValue]
  | float x =>
    intro _ _ _ _ hc hnan ht _ _ _
    cases hc
    cases ht
    have hx : x.isNaN = false := by simpa using fun h => hnan (.float h)
    simp [equalHeld, Value.typeName, Float.beq_self_of_isNaN_eq_false hx]
  | @list path i xs _ _ _ ih =>
    intro fuel met c v' hc hnan ht hf hnd hlt
    cases hc with
    | @list _ j _ cs _ hlen hcs =>
    cases ht with
    | @list i' _ xs' _ hlen' htw =>
    simp only [equalHeld, Value.typeName, bne_self_eq_false, Bool.false_eq_true, if_false,
      Bool.and_eq_true, beq_iff_eq, Bool.or_eq_true]
    refine ⟨by omega, ?_⟩
    by_cases hij : i' = j
    · exact .inl hij
    -- a twin that is not the copy is compared item by item, through the datum's items
    refine .inr (equalItems_iff.mpr fun p hp => ?_)
    obtain ⟨x, hx', hxc⟩ := exists_mid_of_mem_zip hlen' hlen hp
    have hxs : x ∈ xs := (List.of_mem_zip hxc).1
    exact ih x hxs (hcs _ hxc) (fun h => hnan (.list hxs h)) (htw _ hx') hf hnd hlt
  | @table path i hi hpath hkeys _ ih =>
    intro fuel met c v' hc hnan ht hf hnd hlt
    cases hc with
    | @table _ j _ _ _ hkeysc hcs =>
    cases ht with
    | @table i' _ hperm _ htw =>
    obtain ⟨f, rfl, hnd', hlt', hf'⟩ := budget_left hi hpath hnd hlt hf
    simp only [equalHeld, Value.typeName, bne_self_eq_false, Bool.false_eq_true, if_false]
    by_cases hshort : i' = j ∨ (Ref.table (min i' j), Ref.table (max i' j)) ∈ met
    · exact equalRef_table_of hshort
    obtain ⟨hij, hpair⟩ := not_or.mp hshort
    have hsrc : u.entries i = w₀.entries i := hu.2.1 i hi
    rw [equalRef_table_iff hij hpair]
    -- the twin has the keys of the datum, so as many entries as the copy
    have hlen : (u.entries i').length = (u.entries j).length := by
      have := hperm.length_eq
      rw [hsrc, ← hkeysc] at this
      simpa using this
    refine ⟨hlen, fun e he => ?_⟩
    obtain ⟨x, hx⟩ : ∃ x, (e.1, x) ∈ w₀.entries i := by
      have hk : e.1 ∈ (u.entries i).map Prod.fst := hperm.subset (List.mem_map_of_mem he)
      rw [hsrc] at hk
      obtain ⟨e', he', hkey⟩ := List.mem_map.mp hk
      exact ⟨e'.2, hkey ▸ he'⟩
    obtain ⟨y, hfind, hmem⟩ := find?_of_keys hkeys hkeysc hx
    refine ⟨(e.1, y), hfind, ?_⟩
    exact ih _ hx (hcs _ hmem) (fun h => hnan (.table hx h)) (htw e.1 e.2 x he (hsrc ▸ hx)) hf' hnd'
      hlt'

end Comparing

/-! ## Recording and the next comparison -/

/-- What a watcher keeps of a value it saw change: the value itself, or a copy when it compares
by structure. -/
def Watcher.keep (wr : Watcher) (v : Value) : Run Value :=
  if wr.byValue then cloneValue v else pure v

/-- What recording a value does to the next comparison of a watcher: recording returns what it
keeps and only grows the world; afterwards, at every world that kept the tables, the value reads
as changed exactly when the watcher compares by structure and a NaN is reachable in it, and by
structure every twin of a value without NaN reads as unchanged. -/
def RecordSettles (wr : Watcher) (w : World) (v : Value) : Prop :=
  ∃ kept w', wr.keep v w = .ok kept w' ∧ w.Grows w' ∧ ∀ u, w'.Grows u →
    (∃ b, { wr with last := some kept }.changed v u = .ok b u ∧
      (b = true ↔ wr.byValue = true ∧ NanIn w v)) ∧
    (wr.byValue = true → ¬ NanIn w v → ∀ v', Twin u v' v →
      { wr with last := some kept }.changed v' u = .ok false u)

theorem changed_byValue_run {wr : Watcher} {kept v : Value} {u : World} (hb : wr.byValue = true) :
    { wr with last := some kept }.changed v u = .ok (!deepEqual u v kept) u := by
  simp only [Watcher.changed, hb, if_true]
  rfl

/-- **Recording a datum settles its watcher, unless it compares a NaN by structure.** By
identity the recorded datum reads as unchanged; by structure it reads as changed exactly when a
NaN is reachable in it, while every twin of a datum without NaN reads as unchanged. Data here are
of any depth and may share lists and tables; they only reach no table again on the way down. -/
theorem recording_settles (wr : Watcher) {w : World} {lists : Nat → Nat → List Value} {v : Value}
    (hd : Datum w lists [] v) : RecordSettles wr w v := by
  cases hb : wr.byValue with
  | false =>
    -- by identity the watcher keeps the value itself
    refine ⟨v, w, by simp [Watcher.keep, hb]; rfl, World.Grows.refl w,
      fun u _ => ⟨⟨false, ?_, by simp [hb]⟩, fun hbv => by simp [hb] at hbv⟩⟩
    simp only [Watcher.changed, hb, Bool.false_eq_true, if_false, sameValue_self hd, Bool.not_true]
    rfl
  | true =>
    -- by structure it keeps a copy, and copying a datum always returns one
    obtain ⟨kept, w', hc, hgrow, hcopy⟩ := cloneValue_copy hd
    have hkeep : wr.keep v w = .ok kept w' := by
      simp only [Watcher.keep, hb, if_true]
      exact hc
    refine ⟨kept, w', hkeep, hgrow, fun u hu => ?_⟩
    -- the comparison's budget covers every chain of tables the datum reaches
    have hwu := hgrow.trans hu
    have hbudget : w.tables.size <
        u.tables.size * u.tables.size + u.boxes.size * u.boxes.size + 1 + 0 := by
      have := Nat.le_mul_self u.tables.size
      have := hwu.1
      omega
    have hcu := hcopy.frame (hu.frames [])
    refine ⟨⟨_, changed_byValue_run hb, ?_⟩, fun _ hnan v' ht => ?_⟩
    · have hiff : equalHeld (equalRef u.tables u.boxes
            (u.tables.size * u.tables.size + u.boxes.size * u.boxes.size + 1) []) v kept = true ↔
          ¬ NanIn w v :=
        equalHeld_copy hwu hd hcu hbudget List.nodup_nil (by simp) (by simp)
      simp only [deepEqual, hb, true_and, Bool.not_eq_true']
      rw [← Bool.not_eq_true, hiff, not_not]
    · rw [changed_byValue_run hb, deepEqual,
        equalHeld_twin_copy hwu hd hcu hnan ht hbudget List.nodup_nil (by simp)]
      rfl

/-- A watcher that compares by structure. -/
def byStructure : Watcher := { scope := 0, watch := .noop, listener := .nil, byValue := true }

/-- NaN is a datum, and recording it settles a watcher that compares by structure as the law
says: it reads as changed. -/
theorem nan_recorded_by_structure :
    Datum {} (fun _ _ => []) [] (.float (0.0 / 0.0)) ∧
      RecordSettles byStructure {} (.float (0.0 / 0.0)) :=
  have hd : Datum {} (fun _ _ => []) [] (.float (0.0 / 0.0)) := .float _
  ⟨hd, recording_settles byStructure hd⟩

/-- A watcher that compares by structure and records NaN sees NaN as changed right after: the
copy it keeps differs from the value as NaN differs from itself. -/
theorem nan_copy_reads_changed :
    ∃ kept w', byStructure.keep (.float (0.0 / 0.0)) {} = .ok kept w' ∧
      { byStructure with last := some kept }.changed (.float (0.0 / 0.0)) w' = .ok true w' :=
  ⟨_, _, rfl, rfl⟩

end Scope

end Bindery
