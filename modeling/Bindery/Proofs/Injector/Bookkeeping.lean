import Bindery.Dispatch
import Bindery.Proofs.Run.Keeps
import Bindery.Proofs.Injector.Registration

/-!
# The bookkeeping of injector resolution

While a key is built on a tier, its cache entry is pending and the key heads the tier's path.
This module shows that every operation of an injector keeps that bookkeeping sound, whatever the
functions it calls do with the injector through its own operations, and however the operation
ends: with a value, a failure, a panic or an exhausted depth.

* `TierSound`: on each tier, the path has no key twice, every pending entry's key is on the
  path, every key on the path has an entry, and every entry's identity was handed out already.
* `Settles`: what an operation may do to the bookkeeping between its start and its end. The paths
  end as they started; a resolved entry stays as it is unless a registration made during the
  operation replaces it with a newer one; a pending entry stays pending, is settled with a value
  under its own identity, or is replaced by a newer registration.
* `books`: the guarantee "sound at the start, then sound at the end and settled".

Main statements: `keeps_getWith` (a resolution keeps the guarantee when the entry points it
resolves through do), `getWith_error_of_absent` (a failed resolution of an absent key leaves no
entry of its own behind), `getWith_ok` (a resolution that returns leaves its value cached, unless
a newer registration replaced it) and `keepsBooks_knotOf`: for any calling function that keeps
the guarantee whenever the entry points it is given do, the entry points tied around it keep the
guarantee at every depth. The operations built on them are treated in
`Bindery.Proofs.Injector.Operations`.
-/

namespace Bindery.Injector

/-! ## Caches and paths -/

/-- Setting an entry in place leaves what every other key finds. -/
private theorem find?_map_set (c : Cache) (key key' : String) (cell : Cell) :
    (List.find? (·.1 == key') (c.map fun (k, v) => if k == key then (k, cell) else (k, v))).map (·.2) =
      if key' = key then (List.find? (·.1 == key) c).map fun _ => cell
      else (List.find? (·.1 == key') c).map (·.2) := by
  induction c with
  | nil => split <;> rfl
  | cons p c ih =>
    obtain ⟨k, v⟩ := p
    by_cases hk : k = key <;> by_cases hk' : key' = key <;> grind

@[simp] theorem Cache.find?_put (c : Cache) (key key' : String) (cell : Cell) :
    (c.put key cell).find? key' = if key' = key then some cell else c.find? key' := by
  unfold Cache.put Cache.find?
  split
  · rename_i h
    rw [find?_map_set]
    have hsome : (List.find? (·.1 == key) c).isSome := List.find?_isSome.mpr (List.any_eq_true.mp h)
    split
    · obtain ⟨p, hp⟩ := Option.isSome_iff_exists.mp hsome
      simp [hp]
    · rfl
  · rename_i h
    -- the key has no entry yet, so the appended one is the first it finds
    have hnone : List.find? (·.1 == key) c = none := by
      rw [List.find?_eq_none]
      intro p hp hk
      exact h (List.any_eq_true.mpr ⟨p, hp, hk⟩)
    by_cases hk : key' = key
    · subst hk
      simp [List.find?_append, hnone]
    · simp [List.find?_append, hk, Ne.symm hk]

@[simp] theorem Cache.find?_erase (c : Cache) (key key' : String) :
    (c.erase key).find? key' = if key' = key then none else c.find? key' := by
  unfold Cache.erase Cache.find?
  induction c with
  | nil => simp
  | cons p c ih =>
    obtain ⟨k, v⟩ := p
    by_cases hk : k = key <;> by_cases hk' : k = key' <;> simp_all

section State

variable (s : State) (t t' : Tier) (c : Cache) (p : List String)

@[simp] theorem State.cache_setCache : (s.setCache t c).cache t = c := by cases t <;> rfl

theorem State.cache_setCache_of_ne (h : t' ≠ t) : (s.setCache t c).cache t' = s.cache t' := by
  cases t <;> cases t' <;> simp_all [State.setCache, State.cache]

@[simp] theorem State.path_setCache : (s.setCache t c).path t' = s.path t' := by
  cases t <;> cases t' <;> rfl

@[simp] theorem State.nextCell_setCache : (s.setCache t c).nextCell = s.nextCell := by
  cases t <;> rfl

@[simp] theorem State.path_setPath : (s.setPath t p).path t = p := by cases t <;> rfl

theorem State.path_setPath_of_ne (h : t' ≠ t) : (s.setPath t p).path t' = s.path t' := by
  cases t <;> cases t' <;> simp_all [State.setPath, State.path]

@[simp] theorem State.cache_setPath : (s.setPath t p).cache t' = s.cache t' := by
  cases t <;> cases t' <;> rfl

@[simp] theorem State.nextCell_setPath : (s.setPath t p).nextCell = s.nextCell := by
  cases t <;> rfl

@[simp] theorem State.cache_withNextCell (n : Nat) : ({ s with nextCell := n } : State).cache t = s.cache t := by
  cases t <;> rfl

@[simp] theorem State.path_withNextCell (n : Nat) : ({ s with nextCell := n } : State).path t = s.path t := by
  cases t <;> rfl

end State

/-! ## Sound bookkeeping -/

/-- The bookkeeping of a tier is sound. -/
structure TierSound (s : State) (t : Tier) : Prop where
  /-- No key is being built twice. -/
  nodup : (s.path t).Nodup
  /-- A pending entry belongs to a key being built. -/
  pending_mem : ∀ key i, (s.cache t).find? key = some ⟨i, .pending⟩ → key ∈ s.path t
  /-- A key being built has an entry. -/
  mem_cached : ∀ key ∈ s.path t, (s.cache t).find? key ≠ none
  /-- Every entry's identity has been handed out. -/
  id_lt : ∀ key c, (s.cache t).find? key = some c → c.id < s.nextCell

/-- The bookkeeping of both tiers is sound. -/
def Sound (s : State) : Prop := ∀ t, TierSound s t

/-- An injector at rest: its bookkeeping is sound and no key is being built. -/
def AtRest (s : State) : Prop := Sound s ∧ ∀ t, s.path t = []

/-- At rest, no entry is pending. -/
theorem AtRest.not_pending {s : State} (h : AtRest s) (t : Tier) (key : String) (i : Nat) :
    (s.cache t).find? key ≠ some ⟨i, .pending⟩ := by
  intro hp
  have hmem := (h.1 t).pending_mem key i hp
  rw [h.2 t] at hmem
  exact List.not_mem_nil hmem

/-! ## What an operation may do to the entries -/

/-- An entry resolved under an identity handed out at `n` or later. -/
def Newer (n : Nat) (c : Option Cell) : Prop := ∃ j v, n ≤ j ∧ c = some ⟨j, .resolved v⟩

/-- What may become of a key's entry during an operation that started handing out identities at
`n`: an entry stays as it is unless a newer resolved entry replaces it; an absent key may get any
entry. In particular an operation never settles an entry that was pending when it started: only
the build that created an entry settles it. -/
def CellSettles (n : Nat) (c c' : Option Cell) : Prop := c = none ∨ c' = c ∨ Newer n c'

/-- What an operation may do to the bookkeeping: identities are handed out in order, the paths
end as they started, and each entry settles. -/
structure Settles (s s' : State) : Prop where
  nextCell_le : s.nextCell ≤ s'.nextCell
  path_eq : ∀ t, s'.path t = s.path t
  cell : ∀ t key, CellSettles s.nextCell ((s.cache t).find? key) ((s'.cache t).find? key)

theorem Newer.mono {n n' : Nat} {c : Option Cell} (hn : n ≤ n') (h : Newer n' c) : Newer n c := by
  obtain ⟨j, v, hj, rfl⟩ := h
  exact ⟨j, v, by omega, rfl⟩

theorem Newer.ne_none {n : Nat} {c : Option Cell} (h : Newer n c) : c ≠ none := by
  obtain ⟨j, v, _, rfl⟩ := h
  simp

/-- A newer entry stays newer through everything that settles after it. -/
theorem Newer.settles {n n' : Nat} {c c' : Option Cell} (hn : n ≤ n') (h : Newer n c)
    (h' : CellSettles n' c c') : Newer n c' := by
  rcases h' with h' | rfl | h'
  · exact absurd h' h.ne_none
  · exact h
  · exact h'.mono hn

theorem CellSettles.refl (n : Nat) (c : Option Cell) : CellSettles n c c := .inr (.inl rfl)

theorem CellSettles.mono {n n' : Nat} {c c' : Option Cell} (hn : n ≤ n') (h : CellSettles n' c c') :
    CellSettles n c c' := by
  rcases h with h | h | h
  · exact .inl h
  · exact .inr (.inl h)
  · exact .inr (.inr (h.mono hn))

theorem CellSettles.trans {n n' : Nat} {c c' c'' : Option Cell} (hn : n ≤ n')
    (h : CellSettles n c c') (h' : CellSettles n' c' c'') : CellSettles n c c'' := by
  rcases h with h | rfl | h
  · exact .inl h
  · exact h'.mono hn
  · exact .inr (.inr (h.settles hn h'))

theorem Settles.refl (s : State) : Settles s s :=
  ⟨Nat.le_refl _, fun _ => rfl, fun _ _ => CellSettles.refl _ _⟩

theorem Settles.trans {s s' s'' : State} (h : Settles s s') (h' : Settles s' s'') : Settles s s'' where
  nextCell_le := Nat.le_trans h.nextCell_le h'.nextCell_le
  path_eq t := (h'.path_eq t).trans (h.path_eq t)
  cell t key := (h.cell t key).trans h.nextCell_le (h'.cell t key)

/-! ## The guarantee -/

/-- The bookkeeping guarantee of an injector operation: from sound bookkeeping it ends with sound
bookkeeping, and its entries settle. -/
def books : Run.Guarantee where
  rel w w' := Sound w.injector → Sound w'.injector ∧ Settles w.injector w'.injector
  refl _ h := ⟨h, Settles.refl _⟩
  trans hab hbc ha := ⟨(hbc (hab ha).1).1, (hab ha).2.trans (hbc (hab ha).1).2⟩

/-- Every entry point of a knot keeps the bookkeeping guarantee. -/
structure KeepsBooks (k : Knot) : Prop where
  get : ∀ t key, Run.Keeps books (k.get t key)
  invoke : ∀ t fn receiver locals, Run.Keeps books (k.invoke t fn receiver locals)
  call : ∀ fn receiver args, Run.Keeps books (k.call fn receiver args)

section Frame

variable {s s' : State} {t : Tier}

/-- A tier's bookkeeping stays sound while its cache and path stay and identities are handed
out. -/
theorem TierSound.of_agree (h : TierSound s t) (hc : s'.cache t = s.cache t)
    (hp : s'.path t = s.path t) (hn : s.nextCell ≤ s'.nextCell) : TierSound s' t where
  nodup := hp ▸ h.nodup
  pending_mem key i hk := hp ▸ h.pending_mem key i (hc ▸ hk)
  mem_cached key hk := hc ▸ h.mem_cached key (hp ▸ hk)
  id_lt key c hk := Nat.lt_of_lt_of_le (h.id_lt key c (hc ▸ hk)) hn

/-- A step that keeps every cache and path and hands out no identity keeps the guarantee. -/
theorem books_of_agree {w w' : World} (hc : ∀ t, w'.injector.cache t = w.injector.cache t)
    (hp : ∀ t, w'.injector.path t = w.injector.path t)
    (hn : w'.injector.nextCell = w.injector.nextCell) : books.rel w w' := fun hs =>
  ⟨fun t => (hs t).of_agree (hc t) (hp t) (Nat.le_of_eq hn.symm),
    ⟨Nat.le_of_eq hn.symm, hp, fun t _ => hc t ▸ CellSettles.refl _ _⟩⟩

theorem books_of_injector_eq {w w' : World} (h : w'.injector = w.injector) : books.rel w w' :=
  books_of_agree (fun _ => by rw [h]) (fun _ => by rw [h]) (by rw [h])

/-- Resolving a key under an identity already handed out keeps a tier's bookkeeping sound. -/
theorem TierSound.put_resolved (h : TierSound s t) (key : String) (i : Nat) (v : Value)
    (hc : s'.cache t = (s.cache t).put key ⟨i, .resolved v⟩) (hp : s'.path t = s.path t)
    (hn : s.nextCell ≤ s'.nextCell) (hi : i < s'.nextCell) : TierSound s' t where
  nodup := hp ▸ h.nodup
  pending_mem key' j hk := by
    rw [hc, Cache.find?_put] at hk
    split at hk
    · simp at hk
    · exact hp ▸ h.pending_mem key' j hk
  mem_cached key' hk := by
    rw [hc, Cache.find?_put]
    split
    · simp
    · exact h.mem_cached key' (hp ▸ hk)
  id_lt key' c hk := by
    rw [hc, Cache.find?_put] at hk
    split at hk
    · cases hk
      exact hi
    · exact Nat.lt_of_lt_of_le (h.id_lt key' c hk) hn

end Frame

/-! ## Storing, settling and leaving -/

section Steps

variable {s s2 : State} {t : Tier} {key : String}

theorem keeps_state : Run.Keeps books state :=
  Run.Keeps.bind Run.Keeps.get' fun _ => Run.Keeps.pure' _

/-- A store hands out the next identity and resolves the key under it: the entry is newer than
everything before. -/
private theorem books_store (s : State) (t : Tier) (key : String) (v : Value) (hs : Sound s) :
    let s' := State.setCache { s with nextCell := s.nextCell + 1 } t
      ((s.cache t).put key ⟨s.nextCell, .resolved v⟩)
    Sound s' ∧ Settles s s' := by
  intro s'
  have hn : s.nextCell ≤ s'.nextCell := by simp [s']
  refine ⟨fun t' => ?_, ⟨hn, fun t' => by simp [s'], fun t' key' => ?_⟩⟩
  · by_cases ht : t' = t
    · subst ht
      exact (hs t').put_resolved key s.nextCell v (by simp [s']) (by simp [s']) hn (by simp [s'])
    · exact (hs t').of_agree (by simp [s', State.cache_setCache_of_ne _ _ _ _ ht]) (by simp [s']) hn
  · by_cases ht : t' = t
    · subst ht
      simp only [s', State.cache_setCache, Cache.find?_put]
      split
      · exact .inr (.inr ⟨_, v, Nat.le_refl _, rfl⟩)
      · exact CellSettles.refl _ _
    · simp only [s', State.cache_setCache_of_ne _ _ _ _ ht, State.cache_withNextCell]
      exact CellSettles.refl _ _

theorem keeps_store (t : Tier) (key : String) (v : Value) : Run.Keeps books (store t key v) :=
  fun w => books_store w.injector t key v

/-- The state once the build of a key has begun on a tier: the key has a fresh pending entry and
heads the tier's path. -/
def State.begin (s : State) (t : Tier) (key : String) : State :=
  let s' : State := { s with nextCell := s.nextCell + 1 }
  let s'' := s'.setCache t ((s'.cache t).put key ⟨s.nextCell, .pending⟩)
  s''.setPath t (key :: s''.path t)

@[simp] theorem State.begin_nextCell : (s.begin t key).nextCell = s.nextCell + 1 := by
  simp [State.begin]

@[simp] theorem State.begin_path : (s.begin t key).path t = key :: s.path t := by
  simp [State.begin]

@[simp] theorem State.begin_cache : (s.begin t key).cache t = (s.cache t).put key ⟨s.nextCell, .pending⟩ := by
  simp [State.begin]

theorem State.begin_path_of_ne {t' : Tier} (h : t' ≠ t) : (s.begin t key).path t' = s.path t' := by
  simp [State.begin, State.path_setPath_of_ne _ _ _ _ h]

theorem State.begin_cache_of_ne {t' : Tier} (h : t' ≠ t) : (s.begin t key).cache t' = s.cache t' := by
  simp [State.begin, State.cache_setCache_of_ne _ _ _ _ h]

/-- A key with no entry is not being built. -/
theorem Sound.not_mem_path (hs : Sound s) (h0 : (s.cache t).find? key = none) : key ∉ s.path t :=
  fun hm => (hs t).mem_cached key hm h0

/-- Beginning the build of a key with no entry keeps the bookkeeping sound. -/
theorem Sound.begin (hs : Sound s) (h0 : (s.cache t).find? key = none) : Sound (s.begin t key) := by
  intro t'
  by_cases ht : t' = t
  · subst ht
    constructor
    · rw [State.begin_path, List.nodup_cons]
      exact ⟨hs.not_mem_path h0, (hs t').nodup⟩
    · intro key' i hk
      rw [State.begin_cache, Cache.find?_put] at hk
      rw [State.begin_path]
      split at hk
      · rename_i he
        exact he ▸ List.mem_cons_self
      · exact List.mem_cons_of_mem _ ((hs t').pending_mem key' i hk)
    · intro key' hk
      rw [State.begin_path, List.mem_cons] at hk
      rw [State.begin_cache, Cache.find?_put]
      split
      · simp
      · rename_i he
        exact (hs t').mem_cached key' (hk.resolve_left he)
    · intro key' c hk
      rw [State.begin_cache, Cache.find?_put] at hk
      rw [State.begin_nextCell]
      split at hk
      · cases hk
        exact Nat.lt_succ_self _
      · exact Nat.lt_succ_of_lt ((hs t').id_lt key' c hk)
  · exact (hs t').of_agree (State.begin_cache_of_ne ht) (State.begin_path_of_ne ht)
      (by simp)

theorem State.leave_of_pending {id : Nat} (h : (s.cache t).find? key = some ⟨id, .pending⟩) :
    s.leave t key id = (s.setPath t (s.path t).tail).setCache t ((s.cache t).erase key) := by
  simp [State.leave, h]

theorem State.leave_of_not_pending {id : Nat} (h : (s.cache t).find? key ≠ some ⟨id, .pending⟩) :
    s.leave t key id = s.setPath t (s.path t).tail := by
  unfold State.leave
  simp only [State.cache_setPath]
  split
  · rename_i i hk
    have hi : i ≠ id := fun hi => h (hi ▸ hk)
    simp [hi]
  · rfl

/-! ## A build in progress -/

/-- What a build may leave as its key's entry, the build's own entry having identity `n` and the
identities from `m` on being newer: still pending, settled under `n`, or replaced by a newer
registration. -/
def OwnEntry (n m : Nat) (c : Option Cell) : Prop :=
  c = some ⟨n, .pending⟩ ∨ (∃ v, c = some ⟨n, .resolved v⟩) ∨ Newer m c

/-- The bookkeeping while a key is built on a tier, from the state `s1` in which its build began
with a pending entry of identity `n`: sound, the paths as at the start, the key's entry as the
build may leave it, and every other entry settled from `s1`. -/
structure Building (s1 : State) (t : Tier) (key : String) (n : Nat) (s : State) : Prop where
  sound : Sound s
  nextCell_le : s1.nextCell ≤ s.nextCell
  path_eq : ∀ t', s.path t' = s1.path t'
  own : OwnEntry n s1.nextCell ((s.cache t).find? key)
  other : ∀ t' key', (t' ≠ t ∨ key' ≠ key) →
    CellSettles s1.nextCell ((s1.cache t').find? key') ((s.cache t').find? key')

/-- A build begins with its pending entry. -/
theorem Building.start {s0 : State} (hs0 : Sound s0) (h0 : (s0.cache t).find? key = none) :
    Building (s0.begin t key) t key s0.nextCell (s0.begin t key) where
  sound := hs0.begin h0
  nextCell_le := Nat.le_refl _
  path_eq _ := rfl
  own := .inl (by simp)
  other _ _ _ := CellSettles.refl _ _

/-- What keeps the books keeps a build going. -/
theorem Building.step {s1 s' : State} {n : Nat} (h : Building s1 t key n s) (hs' : Sound s')
    (hss' : Settles s s') : Building s1 t key n s' where
  sound := hs'
  nextCell_le := Nat.le_trans h.nextCell_le hss'.nextCell_le
  path_eq t' := (hss'.path_eq t').trans (h.path_eq t')
  own := by
    have hc := hss'.cell t key
    rcases h.own with h1 | ⟨v, h1⟩ | h1
    · rcases Or.resolve_left hc (by simp [h1]) with hc | hc
      · exact .inl (hc.trans h1)
      · exact .inr (.inr (hc.mono h.nextCell_le))
    · rcases Or.resolve_left hc (by simp [h1]) with hc | hc
      · exact .inr (.inl ⟨v, hc.trans h1⟩)
      · exact .inr (.inr (hc.mono h.nextCell_le))
    · exact .inr (.inr (h1.settles h.nextCell_le hc))
  other t' key' hne := (h.other t' key' hne).trans h.nextCell_le (hss'.cell t' key')

/-- Settling the build's entry under its own identity keeps the build going. -/
theorem Building.settle {s1 : State} {n : Nat} (v : Value) (h : Building s1 t key n s) :
    Building s1 t key n (s.settle t key n v) := by
  unfold State.settle
  cases hc : (s.cache t).find? key with
  | none => exact h
  | some c =>
    simp only
    split
    · rename_i hid
      have hid : c.id = n := by simpa using hid
      have hlt : n < s.nextCell := hid ▸ (h.sound t).id_lt key c hc
      refine ⟨fun t' => ?_, by simpa using h.nextCell_le, fun t' => by simpa using h.path_eq t',
        .inr (.inl ⟨v, by simp⟩), fun t' key' hne => ?_⟩
      · by_cases ht : t' = t
        · subst ht
          exact (h.sound t').put_resolved key n v (by simp) (by simp) (by simp) (by simpa using hlt)
        · exact (h.sound t').of_agree (by simp [State.cache_setCache_of_ne _ _ _ _ ht]) (by simp)
            (by simp)
      · by_cases ht : t' = t
        · subst ht
          have hk : key' ≠ key := hne.resolve_left fun h => h rfl
          simpa [hk] using h.other t' key' hne
        · simpa [State.cache_setCache_of_ne _ _ _ _ ht] using h.other t' key' hne
    · exact h

theorem State.settle_of_pending {n : Nat} (v : Value)
    (h : (s.cache t).find? key = some ⟨n, .pending⟩) :
    ((s.settle t key n v).cache t).find? key = some ⟨n, .resolved v⟩ := by
  simp [State.settle, h]

/-- Settling leaves an entry of another identity as it is. -/
theorem State.settle_of_ne {n : Nat} (v : Value) {c : Cell} (h : (s.cache t).find? key = some c)
    (hc : c.id ≠ n) : s.settle t key n v = s := by
  simp [State.settle, h, hc]

/-- Leaving a build of `key` begun at `s0`, in a state `s4` read off the state `s2` the build
ended in: the path is restored, the key keeps at most a settled entry of `s2`, and everything else
is as in `s2`. -/
private theorem books_leave {s0 s4 : State} (hs0 : Sound s0) (h0 : (s0.cache t).find? key = none)
    (h : Building (s0.begin t key) t key s0.nextCell s2) (hp4 : s4.path t = s0.path t)
    (hpo : ∀ t', t' ≠ t → s4.path t' = s2.path t') (hco : ∀ t', t' ≠ t → s4.cache t' = s2.cache t')
    (hk' : ∀ key', key' ≠ key → (s4.cache t).find? key' = (s2.cache t).find? key')
    (hkey : ∀ c, (s4.cache t).find? key = some c → (∀ i, c ≠ ⟨i, .pending⟩) ∧
      (s2.cache t).find? key = some c)
    (hn : s4.nextCell = s2.nextCell) : Sound s4 ∧ Settles s0 s4 := by
  have hP : s2.path t = key :: s0.path t := by rw [h.path_eq]; simp
  have hkP := hs0.not_mem_path h0
  have hn0 : s0.nextCell ≤ s4.nextCell := by
    have := h.nextCell_le
    simp at this
    omega
  -- away from the key, the entries of `s4` settle from those of `s0` as those of `s2` do
  have hother : ∀ t' key', (t' ≠ t ∨ key' ≠ key) →
      CellSettles s0.nextCell ((s0.cache t').find? key') ((s4.cache t').find? key') := by
    intro t' key' hne
    have hc := h.other t' key' hne
    by_cases ht : t' = t
    · subst ht
      have hk := hne.resolve_left fun h => h rfl
      rw [State.begin_cache, Cache.find?_put, if_neg hk] at hc
      rw [hk' key' hk]
      exact hc.mono (by simp)
    · rw [State.begin_cache_of_ne ht] at hc
      rw [hco t' ht]
      exact hc.mono (by simp)
  refine ⟨fun t' => ?_, ⟨hn0, fun t' => ?_, fun t' key' => ?_⟩⟩
  · by_cases ht : t' = t
    · subst ht
      constructor
      · exact hp4 ▸ (hs0 t').nodup
      · intro key' i hk
        by_cases he : key' = key
        · subst he
          exact absurd rfl ((hkey _ hk).1 i)
        · rw [hk' key' he] at hk
          have hm := (h.sound t').pending_mem key' i hk
          rw [hP, List.mem_cons] at hm
          exact hp4 ▸ hm.resolve_left he
      · intro key' hk
        have he : key' ≠ key := fun he => hkP (he ▸ hp4 ▸ hk)
        rw [hk' key' he]
        exact (h.sound t').mem_cached key' (hP ▸ List.mem_cons_of_mem _ (hp4 ▸ hk))
      · intro key' c hk
        rw [hn]
        by_cases he : key' = key
        · subst he
          exact (h.sound t').id_lt key' c (hkey c hk).2
        · exact (h.sound t').id_lt key' c (hk' key' he ▸ hk)
    · exact (h.sound t').of_agree (hco t' ht) (hpo t' ht) (Nat.le_of_eq hn.symm)
  · by_cases ht : t' = t
    · subst ht
      exact hp4
    · rw [hpo t' ht, h.path_eq, State.begin_path_of_ne ht]
  · by_cases ht : t' = t
    · subst ht
      by_cases he : key' = key
      · subst he
        exact .inl h0
      · exact hother t' key' (.inr he)
    · exact hother t' key' (.inl ht)

/-- Leaving a build keeps the books: the state it ends in is sound and settles from the state
before the build began. -/
theorem Building.leave {s0 : State} (hs0 : Sound s0) (h0 : (s0.cache t).find? key = none)
    (h : Building (s0.begin t key) t key s0.nextCell s2) :
    Sound (s2.leave t key s0.nextCell) ∧ Settles s0 (s2.leave t key s0.nextCell) := by
  have hP : s2.path t = key :: s0.path t := by rw [h.path_eq]; simp
  by_cases hp : (s2.cache t).find? key = some ⟨s0.nextCell, .pending⟩
  · -- the build's own entry is still pending: it is dropped
    rw [State.leave_of_pending hp]
    refine books_leave hs0 h0 h (by simp [hP]) (fun t' ht => ?_) (fun t' ht => ?_)
      (fun key' he => by simp [he]) (fun c hc => by simp at hc) (by simp)
    · simp [State.path_setPath_of_ne _ _ _ _ ht]
    · simp [State.cache_setCache_of_ne _ _ _ _ ht]
  · -- the entry was settled or replaced: it stays, and it is not pending
    rw [State.leave_of_not_pending hp]
    refine books_leave hs0 h0 h (by simp [hP]) (fun t' ht => ?_) (fun t' _ => by simp)
      (fun key' _ => by simp) (fun c hc => ⟨fun i hi => ?_, by simpa using hc⟩) (by simp)
    · simp [State.path_setPath_of_ne _ _ _ _ ht]
    · simp only [State.cache_setPath] at hc
      subst hi
      rcases h.own with h1 | ⟨v, h1⟩ | ⟨j, v, _, h1⟩ <;> rw [hc] at h1
      · exact hp (hc.trans h1)
      · cases h1
      · cases h1

/-- A build that left its entry unsettled leaves no entry of its own behind: the key has no entry,
or a newer registration's. -/
theorem Building.leave_drops {s0 : State} (h : Building (s0.begin t key) t key s0.nextCell s2)
    (hown : ∀ v, (s2.cache t).find? key ≠ some ⟨s0.nextCell, .resolved v⟩) :
    ((s2.leave t key s0.nextCell).cache t).find? key = none ∨
      Newer (s0.nextCell + 1) (((s2.leave t key s0.nextCell).cache t).find? key) := by
  rcases h.own with h1 | ⟨v, h1⟩ | h1
  · rw [State.leave_of_pending h1]
    simp
  · exact absurd h1 (hown v)
  · have hp : (s2.cache t).find? key ≠ some ⟨s0.nextCell, .pending⟩ := by
      obtain ⟨j, v, _, hj⟩ := h1
      simp [hj]
    rw [State.leave_of_not_pending hp]
    exact .inr (by simpa using h1)

end Steps

/-! ## Resolution keeps the books -/

section Resolution

open Run

variable {k : Knot} {s1 : State} {t : Tier} {key : String}

/-- Reading the injector's state, then running what depends on it. -/
theorem state_bind_run {f : State → Run α} (w : World) : (state >>= f) w = f w.injector w := rfl

/-- The guarantee of the steps of a build: they keep it going. -/
def building (s1 : State) (t : Tier) (key : String) (n : Nat) : Guarantee :=
  Guarantee.preserving fun w => Building s1 t key n w.injector

theorem keeps_building {x : Run α} {n : Nat} (h : Keeps books x) : Keeps (building s1 t key n) x :=
  fun w hb => hb.step (h w hb.sound).1 (h w hb.sound).2

theorem keeps_settle {n : Nat} (v : Value) : Keeps (building s1 t key n) (settle t key n v) :=
  fun _ hb => hb.settle v

theorem keeps_fallbackWith (hk : KeepsBooks k) (t : Tier) (key : String) (path : List String) :
    Keeps books (fallbackWith k t key path) := by
  unfold fallbackWith
  cases t with
  | providers => exact Keeps.bind keeps_state fun _ => Keeps.fail' _
  | instances =>
    refine Keeps.bind (hk.get _ _) fun provider => ?_
    -- the provider check joins the resolution of the resolver and its invocation
    have hbuild := Keeps.bind (PrimitivesKeep.resolverFor key provider) fun r => hk.invoke .instances r provider []
    dsimp only
    exact Keeps.ite' (Keeps.bind (Keeps.fail' _) fun _ => hbuild) hbuild

theorem keeps_buildWith (hk : KeepsBooks k) (n : Nat) :
    Keeps (building s1 t key n) (buildWith k t key n) := by
  unfold buildWith
  refine Keeps.bind (keeps_building keeps_state) fun s => ?_
  refine Keeps.bind ?_ fun v => Keeps.bind (keeps_settle v) fun _ => Keeps.pure' _
  exact keeps_building (Keeps.recoverPanic (keeps_fallbackWith hk t key _) fun _ => Keeps.fail' _)

/-- A build that stops early stopped in its fallback: the entry is not settled. -/
theorem buildWith_error (hk : KeepsBooks k) {n : Nat} {w w' : World} {e : Interrupt}
    (h : buildWith k t key n w = .error e w') : books.rel w w' := by
  unfold buildWith at h
  rw [state_bind_run] at h
  have hx := error_of_bind (fun v _ => ⟨v, _, rfl⟩) h
  exact Keeps.rel_of_error (Keeps.recoverPanic (keeps_fallbackWith hk t key _) fun _ => Keeps.fail' _) hx

/-- A run followed by a cleanup that changes the injector's state ends where the run ended, with
the cleanup's change. -/
theorem world_ensuring {x : Run α} (f : State → State) (w : World) :
    Result.world (ensuring x (modifyState f) w) =
      { Result.world (x w) with injector := f (Result.world (x w)).injector } := by
  unfold ensuring
  cases h : x w <;> simp [tryCatch, tryCatchThe, MonadExceptOf.tryCatch, EStateM.tryCatch, bind,
    EStateM.bind, h, modifyState, modify, modifyGet, MonadStateOf.modifyGet, EStateM.modifyGet, pure,
    EStateM.pure, throw, throwThe, MonadExceptOf.throw, EStateM.throw, EStateM.Backtrackable.restore,
    EStateM.dummyRestore]

/-- A run with a cleanup stops early only when the run did. -/
theorem ensuring_error {x : Run α} {f : State → State} {w w' : World} {e : Interrupt}
    (h : ensuring x (modifyState f) w = .error e w') :
    ∃ w2, x w = .error e w2 ∧ w' = { w2 with injector := f w2.injector } := by
  unfold ensuring at h
  cases hx : x w with
  | ok a w2 =>
    simp [tryCatch, tryCatchThe, MonadExceptOf.tryCatch, EStateM.tryCatch, bind, EStateM.bind, hx,
      modifyState, modify, modifyGet, MonadStateOf.modifyGet, EStateM.modifyGet, pure, EStateM.pure] at h
  | error e2 w2 =>
    simp [tryCatch, tryCatchThe, MonadExceptOf.tryCatch, EStateM.tryCatch, bind, EStateM.bind, hx,
      modifyState, modify, modifyGet, MonadStateOf.modifyGet, EStateM.modifyGet, throw, throwThe,
      MonadExceptOf.throw, EStateM.throw, EStateM.Backtrackable.restore, EStateM.dummyRestore] at h
    obtain ⟨rfl, rfl⟩ := h
    exact ⟨w2, rfl, rfl⟩

/-- Resolving a key with no entry begins its build and runs it with the cleanup. -/
theorem getWith_of_absent {w : World} (h0 : (w.injector.cache t).find? key = none) :
    getWith k t key w = ensuring (buildWith k t key w.injector.nextCell)
      (leave t key w.injector.nextCell) { w with injector := w.injector.begin t key } := by
  unfold getWith
  rw [state_bind_run]
  simp only [h0]
  rfl

/-- A build that returns ran its fallback and then settled its entry. -/
theorem buildWith_ok (hk : KeepsBooks k) {n : Nat} {w w' : World} {v : Value}
    (h : buildWith k t key n w = .ok v w') :
    ∃ w3, books.rel w w3 ∧ w' = { w3 with injector := w3.injector.settle t key n v } := by
  unfold buildWith at h
  rw [state_bind_run] at h
  obtain ⟨a, w3, h1, h2⟩ := ok_of_bind h
  have h2' : (EStateM.Result.ok a { w3 with injector := w3.injector.settle t key n a } :
      EStateM.Result Interrupt World Value) = .ok v w' := h2
  cases h2'
  exact ⟨w3, Keeps.rel_of_ok (Keeps.recoverPanic (keeps_fallbackWith hk t key _)
    fun _ => Keeps.fail' _) h1, rfl⟩

/-- A run with a cleanup returns only when the run did. -/
theorem ensuring_ok {x : Run α} {f : State → State} {w w' : World} {a : α}
    (h : ensuring x (modifyState f) w = .ok a w') :
    ∃ w2, x w = .ok a w2 ∧ w' = { w2 with injector := f w2.injector } := by
  unfold ensuring at h
  cases hx : x w with
  | ok a2 w2 =>
    simp [tryCatch, tryCatchThe, MonadExceptOf.tryCatch, EStateM.tryCatch, bind, EStateM.bind, hx,
      modifyState, modify, modifyGet, MonadStateOf.modifyGet, EStateM.modifyGet, pure, EStateM.pure] at h
    obtain ⟨rfl, rfl⟩ := h
    exact ⟨w2, rfl, rfl⟩
  | error e2 w2 =>
    simp [tryCatch, tryCatchThe, MonadExceptOf.tryCatch, EStateM.tryCatch, bind, EStateM.bind, hx,
      modifyState, modify, modifyGet, MonadStateOf.modifyGet, EStateM.modifyGet, throw, throwThe,
      MonadExceptOf.throw, EStateM.throw, EStateM.Backtrackable.restore, EStateM.dummyRestore] at h

theorem ensuring_run_congr {x y : Run α} {c : Run Unit} {w : World} (hxy : x w = y w) :
    ensuring x c w = ensuring y c w := by
  unfold ensuring
  change EStateM.tryCatch (x >>= _) _ w = EStateM.tryCatch (y >>= _) _ w
  simp only [EStateM.tryCatch, bind_run_congr hxy]

/-- A run with a cleanup that returns returns the same, after the cleanup. -/
theorem ensuring_run_ok {x : Run α} {g : State → State} {w w' : World} {a : α}
    (hx : x w = .ok a w') :
    ensuring x (modifyState g) w = .ok a { w' with injector := g w'.injector } := by
  unfold ensuring
  simp [tryCatch, tryCatchThe, MonadExceptOf.tryCatch, EStateM.tryCatch, bind, EStateM.bind, hx,
    modifyState, modify, modifyGet, MonadStateOf.modifyGet, EStateM.modifyGet, pure, EStateM.pure]

/-- A run with a cleanup that stops early stops with the run's interruption, after the cleanup. -/
theorem ensuring_run_error {x : Run α} {g : State → State} {w w' : World} {e : Interrupt}
    (hx : x w = .error e w') :
    ensuring x (modifyState g) w = .error e { w' with injector := g w'.injector } := by
  unfold ensuring
  simp [tryCatch, tryCatchThe, MonadExceptOf.tryCatch, EStateM.tryCatch, bind, EStateM.bind, hx,
    modifyState, modify, modifyGet, MonadStateOf.modifyGet, EStateM.modifyGet, throw, throwThe,
    MonadExceptOf.throw, EStateM.throw, EStateM.Backtrackable.restore, EStateM.dummyRestore]

/-- **Resolution keeps the books.** A cached key is answered without a change; an absent key is
built between a fresh pending entry with the key on the path and the cleanup that restores the
path and drops the entry unless the build settled it. -/
theorem keeps_getWith (hk : KeepsBooks k) (t : Tier) (key : String) : Keeps books (getWith k t key) := by
  intro w
  cases hc : (w.injector.cache t).find? key with
  | some c =>
    unfold getWith
    rw [state_bind_run]
    rcases c with ⟨i, _ | v⟩ <;> simp only [hc]
    · exact Keeps.fail' _ w
    · exact Keeps.pure' _ w
  | none =>
    intro hs
    rw [getWith_of_absent hc, leave, world_ensuring]
    exact (keeps_buildWith hk _ _ (Building.start hs hc)).leave hs hc

/-- A resolution of a key with no entry that stops early leaves no entry of its own behind: the
key has no entry, or one a registration made during the attempt. -/
theorem getWith_error_of_absent (hk : KeepsBooks k) {w w' : World} {e : Interrupt}
    (hs : Sound w.injector) (h0 : (w.injector.cache t).find? key = none)
    (h : getWith k t key w = .error e w') :
    (w'.injector.cache t).find? key = none ∨
      Newer (w.injector.nextCell + 1) ((w'.injector.cache t).find? key) := by
  rw [getWith_of_absent h0, leave] at h
  obtain ⟨w2, h2, rfl⟩ := ensuring_error h
  -- the build stopped in its fallback, which settles from the begun state
  obtain ⟨hs2, h12⟩ := buildWith_error hk h2 (hs.begin h0)
  have hb := (Building.start hs h0).step hs2 h12
  refine hb.leave_drops fun v hv => ?_
  have hc := h12.cell t key
  simp only [State.begin_cache, Cache.find?_put, if_pos, hv] at hc
  rcases hc with hc | hc | ⟨j, v', hj, hc⟩
  · cases hc
  · cases hc
  · simp only [State.begin_nextCell] at hj
    simp at hc
    omega

/-- A resolution that returns a value leaves its key resolved with that value, unless a
registration made during the resolution replaced the entry. -/
theorem getWith_ok (hk : KeepsBooks k) {w w' : World} {v : Value} (hs : Sound w.injector)
    (h : getWith k t key w = .ok v w') :
    (∃ i, (w'.injector.cache t).find? key = some ⟨i, .resolved v⟩) ∨
      Newer w.injector.nextCell ((w'.injector.cache t).find? key) := by
  cases hc : (w.injector.cache t).find? key with
  | some c =>
    unfold getWith at h
    rw [state_bind_run] at h
    rcases c with ⟨i, _ | v'⟩ <;> simp only [hc] at h
    · cases h
    · cases h
      exact .inl ⟨i, hc⟩
  | none =>
    rw [getWith_of_absent hc, leave] at h
    obtain ⟨w2, h2, rfl⟩ := ensuring_ok h
    obtain ⟨w3, h13, rfl⟩ := buildWith_ok hk h2
    obtain ⟨hs3, h13⟩ := h13 (hs.begin hc)
    -- after the fallback the entry is still the build's pending one, or a newer registration's
    have hcell := h13.cell t key
    simp only [State.begin_cache, Cache.find?_put, if_pos, State.begin_nextCell] at hcell
    rcases Or.resolve_left hcell (by simp) with h3 | h3
    · have hr := State.settle_of_pending v h3
      have hp : ((w3.injector.settle t key w.injector.nextCell v).cache t).find? key ≠
          some ⟨w.injector.nextCell, .pending⟩ := by simp [hr]
      refine .inl ⟨w.injector.nextCell, ?_⟩
      simp [State.leave_of_not_pending hp, hr]
    · have ⟨j, v', hj, h3'⟩ := h3
      rw [State.settle_of_ne v h3' (by simp; omega)]
      have hp : (w3.injector.cache t).find? key ≠ some ⟨w.injector.nextCell, .pending⟩ := by
        simp [h3']
      refine .inr ?_
      simpa [State.leave_of_not_pending hp] using h3.mono (Nat.le_succ _)

/-- Invocation keeps the books when the entry points do. -/
theorem keeps_invokeWith (hk : KeepsBooks k) (t : Tier) (fn receiver : Value) (locals : Locals) :
    Keeps books (invokeWith k t fn receiver locals) :=
  EntriesKeep.invokeWith ⟨hk.get, hk.invoke, hk.call⟩ t fn receiver locals

/-- Allocating an object touches no entry of the injector. -/
theorem keeps_allocate (m : Make) : Keeps books (allocate m) := by
  unfold allocate
  cases m with
  | box label => exact Keeps.bind (Keeps.modifyGet' fun _ => books_of_injector_eq rfl) fun _ => Keeps.pure' _
  | setting => exact Keeps.bind (Keeps.modifyGet' fun _ => books_of_injector_eq rfl) fun _ => Keeps.pure' _
  | directive d => exact Keeps.modifyGet' fun _ => books_of_injector_eq rfl
  | registry => exact Keeps.modifyGet' fun _ => books_of_injector_eq rfl
  | app => exact Keeps.pure' _

theorem keeps_instantiateWith (hk : KeepsBooks k) (t : Tier) (c : Ctor) (locals : Locals) :
    Keeps books (instantiateWith k t c locals) := by
  unfold instantiateWith
  split
  · exact Keeps.fail' _
  · exact Keeps.bind (keeps_allocate _) fun _ => Keeps.bind (keeps_invokeWith hk _ _ _ _) fun _ => Keeps.pure' _

end Resolution

/-! ## The knot -/

/-- The interpreter's entry points tied `depth` levels deep around a calling function: resolution
and invocation are the injector's own, and every call goes to `call`. -/
def knotOf (call : Knot → Value → Value → List Value → Run Value) : Nat → Knot
  | 0 => Knot.exhausted
  | depth + 1 =>
    { get := getWith (knotOf call depth)
      invoke := invokeWith (knotOf call depth)
      call := call (knotOf call depth) }

/-- The interpreter's knot is the one tied around its own calling function. -/
theorem knot_eq_knotOf (depth : Nat) : knot depth = knotOf callWith depth := by
  induction depth with
  | zero => rfl
  | succ depth ih => rw [knot, knotOf, ih]

/-- A calling function keeps the books when every call it makes through entry points that keep
them does. -/
def CallKeepsBooks (call : Knot → Value → Value → List Value → Run Value) : Prop :=
  ∀ k, KeepsBooks k → ∀ fn receiver args, Run.Keeps books (call k fn receiver args)

/-- Every level of the knot keeps the books, by induction on its depth: the bottom stops, and each
level resolves and invokes through the level below. -/
theorem keepsBooks_knotOf {call : Knot → Value → Value → List Value → Run Value}
    (hcall : CallKeepsBooks call) : ∀ depth, KeepsBooks (knotOf call depth)
  | 0 => ⟨fun _ _ => Run.Keeps.throw' _, fun _ _ _ _ => Run.Keeps.throw' _,
      fun _ _ _ => Run.Keeps.throw' _⟩
  | depth + 1 =>
    have ih := keepsBooks_knotOf hcall depth
    ⟨keeps_getWith ih, keeps_invokeWith ih, hcall _ ih⟩


end Bindery.Injector
