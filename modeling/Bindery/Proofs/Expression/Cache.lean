import Bindery.Expression.Program
import Bindery.Proofs.Run.Keeps

/-!
# Program caches

An engine with a program cache keeps each program it makes under a key and answers a later
request for the key from the cache. The default language keys a compiled program by its source,
`expr:<source>`; the typed language keys a checked program by the sorted names of the
environment it was checked against and its source, `cel:<names, comma-separated>:<source>`.

A cache is faithful to a registry of helpers when each program it keeps is what an engine with
those helpers and no cache makes for the key's source and names. A faithful cache answers each
compile, check and run as the engine without a cache does, and stays faithful, when the engines
sharing it have the same helpers and the names of each environment a run sees are keyable: none
holds a comma or a colon, and they are not the single empty name. Neither key tells everything
apart. The default language's key omits the helpers, so engines with other helpers sharing a
cache receive each other's programs; and the names `a,b` make the key of the names `a` and `b`.

Main statements: `program_cache_laws` and `comma_names_share_a_key`.
-/

namespace Bindery

open Run

/-! ## Keys -/

/-- The names of an environment, sorted as the key of the typed language sorts them. -/
def sortedNames (names : List String) : List String := names.mergeSort fun a b => decide (a ≤ b)

/-- Names the key of the typed language tells apart: none holds a comma or a colon, and they are
not the one empty name, whose key is that of no names. -/
def Keyable (names : List String) : Prop :=
  names ≠ [""] ∧ ∀ n ∈ names, ',' ∉ n.toList ∧ ':' ∉ n.toList

theorem celKey_eq (names : List String) (source : String) :
    celKey names source = "cel:" ++ ",".intercalate (sortedNames names) ++ ":" ++ source := rfl

theorem Keyable.sorted {names : List String} (hk : Keyable names) : Keyable (sortedNames names) := by
  have hperm := List.mergeSort_perm names fun a b => decide (a ≤ b)
  refine ⟨fun h => hk.1 ?_, fun n hn => hk.2 n (hperm.mem_iff.mp hn)⟩
  rw [sortedNames] at h
  rw [h] at hperm
  exact List.perm_singleton.mp hperm.symm

/-- Two texts split at a separator that neither first part holds have equal parts. -/
theorem eq_of_append_sep {c : Char} :
    ∀ {a a' b b' : List Char}, c ∉ a → c ∉ a' → a ++ c :: b = a' ++ c :: b' → a = a' ∧ b = b'
  | [], [], _, _, _, _, h => ⟨rfl, (List.cons.inj h).2⟩
  | [], x :: _, _, _, _, ha', h => absurd ((List.cons.inj h).1 ▸ List.mem_cons_self) ha'
  | x :: _, [], _, _, ha, _, h => absurd ((List.cons.inj h).1 ▸ List.mem_cons_self) ha
  | x :: a, y :: a', _, _, ha, ha', h => by
    rw [List.cons_append, List.cons_append, List.cons.injEq] at h
    obtain ⟨rfl, h⟩ := h
    obtain ⟨rfl, rfl⟩ := eq_of_append_sep (fun hc => ha (List.mem_cons_of_mem x hc))
      (fun hc => ha' (List.mem_cons_of_mem x hc)) h
    exact ⟨rfl, rfl⟩

theorem toList_intercalate_cons_cons (x y : String) (l : List String) :
    (",".intercalate (x :: y :: l)).toList = x.toList ++ ',' :: (",".intercalate (y :: l)).toList := by
  rw [String.intercalate_cons_cons, String.toList_append, String.toList_append, List.append_assoc]
  rfl

/-- A letter of names joined by commas is a comma or a letter of a name. -/
theorem mem_intercalate {c : Char} :
    ∀ {l : List String}, c ∈ (",".intercalate l).toList → c = ',' ∨ ∃ n ∈ l, c ∈ n.toList
  | [], h => by simp at h
  | [x], h => by
    rw [String.intercalate_singleton] at h
    exact .inr ⟨x, List.mem_singleton_self x, h⟩
  | x :: y :: l, h => by
    rw [toList_intercalate_cons_cons, List.mem_append, List.mem_cons] at h
    rcases h with h | h | h
    · exact .inr ⟨x, List.mem_cons_self, h⟩
    · exact .inl h
    · rcases mem_intercalate h with h | ⟨n, hn, h⟩
      · exact .inl h
      · exact .inr ⟨n, List.mem_cons_of_mem x hn, h⟩

/-- One name without a comma is not the join of two or more names. -/
theorem intercalate_singleton_ne {x y v : String} {l : List String} (hx : ',' ∉ x.toList) :
    ",".intercalate [x] ≠ ",".intercalate (y :: v :: l) := fun h => by
  have h := congrArg String.toList h
  rw [String.intercalate_singleton, toList_intercalate_cons_cons] at h
  exact hx (h ▸ List.mem_append_right _ List.mem_cons_self)

/-- Names without commas, at least one, are read back from their join. -/
theorem intercalate_cons_inj :
    ∀ {x y : String} {xs ys : List String}, (∀ n ∈ x :: xs, ',' ∉ n.toList) →
      (∀ n ∈ y :: ys, ',' ∉ n.toList) →
      ",".intercalate (x :: xs) = ",".intercalate (y :: ys) → x :: xs = y :: ys
  | x, y, [], [], _, _, h => by
    rw [String.intercalate_singleton, String.intercalate_singleton] at h
    rw [h]
  | x, y, [], v :: l, hx, _, h => absurd h (intercalate_singleton_ne (hx x List.mem_cons_self))
  | x, y, u :: l, [], _, hy, h => absurd h.symm (intercalate_singleton_ne (hy y List.mem_cons_self))
  | x, y, u :: l, v :: l', hx, hy, h => by
    have h := congrArg String.toList h
    rw [toList_intercalate_cons_cons, toList_intercalate_cons_cons] at h
    -- the first names end at the first comma; the rest are joined the same way
    obtain ⟨hxy, hrest⟩ := eq_of_append_sep (hx x List.mem_cons_self) (hy y List.mem_cons_self) h
    rw [String.toList_inj.mp hxy, intercalate_cons_inj (fun n hn => hx n (List.mem_cons_of_mem x hn))
      (fun n hn => hy n (List.mem_cons_of_mem y hn)) (String.toList_inj.mp hrest)]

/-- Names joined by commas are empty only when there are none or one empty name. -/
theorem intercalate_eq_empty {y : String} {ys : List String} (h : ",".intercalate (y :: ys) = "") :
    y :: ys = [""] := by
  cases ys with
  | nil => rw [String.intercalate_singleton] at h; rw [h]
  | cons v l =>
    have h := congrArg String.toList h
    rw [toList_intercalate_cons_cons] at h
    simp at h

/-- Keyable names are read back from their join. -/
theorem intercalate_inj {l l' : List String} (hl : Keyable l) (hl' : Keyable l')
    (h : ",".intercalate l = ",".intercalate l') : l = l' := by
  cases l with
  | nil =>
    cases l' with
    | nil => rfl
    | cons y ys => exact absurd (intercalate_eq_empty h.symm) hl'.1
  | cons x xs =>
    cases l' with
    | nil => exact absurd (intercalate_eq_empty h) hl.1
    | cons y ys =>
      exact intercalate_cons_inj (fun n hn => (hl.2 n hn).1) (fun n hn => (hl'.2 n hn).1) h

theorem colon_not_mem_intercalate {l : List String} (hl : Keyable l) :
    ':' ∉ (",".intercalate l).toList := fun h => by
  rcases mem_intercalate h with h | ⟨n, hn, h⟩
  · cases h
  · exact (hl.2 n hn).2 h

/-- The key of the typed language names the sorted names of keyable environments and the source. -/
theorem celKey_inj {ns ns' : List String} {s s' : String} (hk : Keyable ns) (hk' : Keyable ns')
    (h : celKey ns s = celKey ns' s') : sortedNames ns = sortedNames ns' ∧ s = s' := by
  have h := congrArg String.toList h
  simp only [celKey_eq, String.toList_append, List.append_assoc] at h
  have h := List.append_cancel_left h
  -- the names end at the first colon, since no name holds one
  obtain ⟨hnames, hsource⟩ := eq_of_append_sep (colon_not_mem_intercalate hk.sorted)
    (colon_not_mem_intercalate hk'.sorted) h
  exact ⟨intercalate_inj hk.sorted hk'.sorted (String.toList_inj.mp hnames),
    String.toList_inj.mp hsource⟩

/-- The keys of the two languages begin differently. -/
theorem exprKey_ne_celKey (source : String) (names : List String) (source' : String) :
    "expr:" ++ source ≠ celKey names source' := fun h => by
  have h := congrArg (fun s => s.toList.head?) h
  simp [celKey_eq, String.toList_append] at h

theorem exprKey_inj {s s' : String} (h : "expr:" ++ s = "expr:" ++ s') : s = s' := by
  have h := congrArg String.toList h
  simp only [String.toList_append, List.append_cancel_left_eq] at h
  exact String.toList_inj.mp h

/-! ## Faithful caches -/

/-- The programs a cache keeps; none for a cache that is not there. -/
def World.cacheEntries (w : World) (id : Nat) : List (String × Program) :=
  ((w.caches[id]?).map (·.entries)).getD []

/-- A kept program is what an engine with the helpers `hs` and no cache makes for its key: the
compiled program of a source of the default language, or the program checked from the parse of a
source of the typed language against keyable names. -/
def EntryFaithful (hs : Option Helpers) (entry : String × Program) : Prop :=
  (∃ source, entry.1 = "expr:" ++ source ∧
    Engine.compileExpr { language := .expr, helpers := hs } source = .ok entry.2) ∨
  (∃ names source t checked, Keyable names ∧ entry.1 = celKey names source ∧
    Cel.parse source = .ok t ∧
    Engine.checkCel { language := .cel, helpers := hs } source t names = .ok checked ∧
    entry.2 = .cel checked hs)

/-- Every program the cache `id` keeps is faithful to the helpers `hs`. -/
def Faithful (hs : Option Helpers) (id : Nat) (w : World) : Prop :=
  ∀ entry ∈ w.cacheEntries id, EntryFaithful hs entry

/-- The caches after a step of an engine on the cache `id`: it stays faithful, and no other
cache changes. -/
def FaithfulUpdate (hs : Option Helpers) (id : Nat) (w : World) (caches : Array ProgramCache) :
    Prop :=
  Faithful hs id { w with caches } ∧ ∀ j, j ≠ id → caches[j]? = w.caches[j]?

theorem FaithfulUpdate.refl {hs : Option Helpers} {id : Nat} {w : World} (hf : Faithful hs id w) :
    FaithfulUpdate hs id w w.caches :=
  ⟨hf, fun _ _ => rfl⟩

theorem FaithfulUpdate.trans {hs : Option Helpers} {id : Nat} {w : World} {c₁ c₂ : Array ProgramCache}
    (h₁ : FaithfulUpdate hs id w c₁) (h₂ : FaithfulUpdate hs id { w with caches := c₁ } c₂) :
    FaithfulUpdate hs id w c₂ :=
  ⟨h₂.1, fun j hj => (h₂.2 j hj).trans (h₁.2 j hj)⟩

/-- The caches with a program kept in the cache `id` under a key, replacing what was there. -/
def storeProgram (caches : Array ProgramCache) (id : Nat) (key : String) (p : Program) :
    Array ProgramCache :=
  caches.modify id fun c => { c with entries := (c.entries.filter (·.1 != key)) ++ [(key, p)] }

section Steps

variable {hs : Option Helpers} {id : Nat} {w : World}

theorem cachedProgram?_run (key : String) :
    cachedProgram? (some id) key w = .ok (((w.cacheEntries id).find? (·.1 == key)).map (·.2)) w :=
  rfl

/-- What a lookup finds in a faithful cache is faithful, under the key it was asked for. -/
theorem Faithful.find {key : String} {entry : String × Program} (hf : Faithful hs id w)
    (h : (w.cacheEntries id).find? (·.1 == key) = some entry) :
    EntryFaithful hs entry ∧ entry.1 = key := by
  have hkey : (entry.1 == key) = true :=
    @List.find?_some _ (fun e : String × Program => e.1 == key) entry _ h
  exact ⟨hf _ (List.mem_of_find?_eq_some h), beq_iff_eq.mp hkey⟩

/-- Keeping a faithful program keeps a cache faithful, and changes no other cache. -/
theorem Faithful.store {key : String} {p : Program} (hf : Faithful hs id w)
    (hp : EntryFaithful hs (key, p)) :
    FaithfulUpdate hs id w (storeProgram w.caches id key p) := by
  refine ⟨fun entry he => ?_, fun j hj => ?_⟩
  · cases hc : w.caches[id]? with
    | none => simp [World.cacheEntries, storeProgram, Array.getElem?_modify, hc] at he
    | some c =>
      simp [World.cacheEntries, storeProgram, Array.getElem?_modify, hc] at he
      rcases he with ⟨he, -⟩ | rfl
      · exact hf entry (by simp [World.cacheEntries, hc, he])
      · exact hp
  · simp only [storeProgram, Array.getElem?_modify, if_neg (Ne.symm hj)]

-- Checking reads the names of an environment sorted.
theorem checkCel_sorted {ns ns' : List String} (h : sortedNames ns = sortedNames ns') (e : Engine)
    (source : String) (t : Cel.Term) : e.checkCel source t ns = e.checkCel source t ns' := by
  simp only [Engine.checkCel]
  rw [show ns.mergeSort (fun a b => decide (a ≤ b)) = ns'.mergeSort (fun a b => decide (a ≤ b))
    from h]

/-- Without a cache, compiling changes nothing and returns the same in every world. -/
theorem compileSource_uncached (e : Engine) (source : String) :
    ∃ r, { e with cache := none }.compileSource source = pure r := by
  simp only [Engine.compileSource, cachedProgram?, cacheProgram, pure_bind]
  split
  · exact ⟨_, rfl⟩
  · split
    · split
      · exact ⟨_, rfl⟩
      · exact ⟨_, rfl⟩
    · split
      · exact ⟨_, rfl⟩
      · exact ⟨_, rfl⟩

/-- Without a cache, checking changes nothing and returns the check with the engine's helpers. -/
theorem checkedCel_uncached (e : Engine) (source : String) (t : Cel.Term) (names : List String) :
    { e with cache := none }.checkedCel source t names =
      pure ((e.checkCel source t names).map fun checked => (checked, e.helpers)) := by
  simp only [Engine.checkedCel, cachedProgram?, cacheProgram, pure_bind]
  -- checking reads the language and the helpers, not the cache
  rw [show ({ e with cache := none } : Engine).checkCel source t names = e.checkCel source t names
    from rfl]
  cases e.checkCel source t names <;> rfl

/-- Compiling with a faithful cache returns what compiling without one returns, and leaves the
cache faithful. -/
theorem compileSource_cached (hf : Faithful hs id w) {e : Engine} (he : e.helpers = hs)
    (hc : e.cache = some id) (source : String) :
    ∃ r c, { e with cache := none }.compileSource source = pure r ∧
      e.compileSource source w = .ok r { w with caches := c } ∧ FaithfulUpdate hs id w c := by
  obtain ⟨r, hr⟩ := compileSource_uncached e source
  suffices h : ∃ c, e.compileSource source w = .ok r { w with caches := c } ∧
      FaithfulUpdate hs id w c from
    let ⟨c, h₁, h₂⟩ := h
    ⟨r, c, hr, h₁, h₂⟩
  obtain ⟨language, helpers, cache⟩ := e
  dsimp only at he hc hr
  subst he hc
  have hrw : ({ language := language, helpers := helpers } : Engine).compileSource source w =
      .ok r w := by
    rw [hr]
    rfl
  cases hempty : source.isEmpty
  case true =>
    -- an empty source is refused before any cache is read
    refine ⟨w.caches, ?_, .refl hf⟩
    simp only [Engine.compileSource, hempty, if_true] at hrw ⊢
    exact hrw
  case false =>
  cases language with
  | cel =>
    -- the typed language only parses when it compiles
    refine ⟨w.caches, ?_, .refl hf⟩
    simp only [Engine.compileSource, hempty, Bool.false_eq_true, if_false] at hrw ⊢
    exact hrw
  | expr =>
    simp only [Engine.compileSource, hempty, Bool.false_eq_true, if_false] at hrw ⊢
    rw [show cachedProgram? none _ = pure none from rfl, pure_bind] at hrw
    rw [bind_run_ok (cachedProgram?_run _)]
    have hcompile : Engine.compileExpr { language := .expr, helpers := helpers, cache := some id }
        source = Engine.compileExpr { language := .expr, helpers := helpers } source := rfl
    cases hfind : (w.cacheEntries id).find? (·.1 == "expr:" ++ source) with
    | some entry =>
      -- a hit is the program compiled from the same source
      obtain ⟨hentry, hkey⟩ := hf.find hfind
      rcases hentry with ⟨s, hs, hcomp⟩ | ⟨names, s, _, _, _, hs, _⟩
      · rw [hkey] at hs
        rw [← exprKey_inj hs] at hcomp
        dsimp only at hrw
        rw [hcomp] at hrw
        cases hrw
        exact ⟨w.caches, rfl, .refl hf⟩
      · exact absurd (hkey ▸ hs) (exprKey_ne_celKey _ _ _)
    | none =>
      -- a miss compiles as the engine without a cache does, and keeps the program
      simp only [Option.map_none] at hrw ⊢
      rw [hcompile]
      cases hcomp : Engine.compileExpr { language := .expr, helpers := helpers } source with
      | error f =>
        rw [hcomp] at hrw
        cases hrw
        exact ⟨w.caches, rfl, .refl hf⟩
      | ok p =>
        rw [hcomp] at hrw
        cases hrw
        exact ⟨storeProgram w.caches id ("expr:" ++ source) p, rfl,
          hf.store (.inl ⟨source, rfl, hcomp⟩)⟩

/-- Checking with a faithful cache returns what checking without one returns, for the parse of
the source and keyable names, and leaves the cache faithful. -/
theorem checkedCel_cached (hf : Faithful hs id w) {e : Engine} (he : e.helpers = hs)
    (hc : e.cache = some id) {source : String} {t : Cel.Term} (ht : Cel.parse source = .ok t)
    {names : List String} (hk : Keyable names) :
    ∃ c, e.checkedCel source t names w =
        .ok ((e.checkCel source t names).map fun checked => (checked, hs)) { w with caches := c } ∧
      FaithfulUpdate hs id w c := by
  obtain ⟨language, helpers, cache⟩ := e
  dsimp only at he hc
  subst he hc
  have hcheck : Engine.checkCel { language := language, helpers := helpers, cache := some id }
      source t names = Engine.checkCel { language := .cel, helpers := helpers } source t names := rfl
  simp only [Engine.checkedCel]
  rw [bind_run_ok (cachedProgram?_run _), hcheck]
  cases hfind : (w.cacheEntries id).find? (·.1 == celKey names source) with
  | some entry =>
    -- a hit is the program checked from the same source against the same sorted names
    obtain ⟨hentry, hkey⟩ := hf.find hfind
    rcases hentry with ⟨s, hs, -⟩ | ⟨names', s, t', checked, hk', hs, ht', hcheck', hprog⟩
    · exact absurd (hs.symm.trans hkey) (exprKey_ne_celKey _ _ _)
    · obtain ⟨hsorted, rfl⟩ := celKey_inj hk' hk (hs.symm.trans hkey)
      rw [ht] at ht'
      cases ht'
      obtain ⟨key, program⟩ := entry
      dsimp only at hprog
      subst hprog
      rw [← checkCel_sorted hsorted, hcheck']
      exact ⟨w.caches, rfl, .refl hf⟩
  | none =>
    -- a miss checks as the engine without a cache does, and keeps the checked program
    simp only [Option.map_none]
    cases hch : Engine.checkCel { language := .cel, helpers := helpers } source t names with
    | error f => exact ⟨w.caches, rfl, .refl hf⟩
    | ok checked =>
      exact ⟨storeProgram w.caches id (celKey names source) (.cel checked helpers), rfl,
        hf.store (.inr ⟨names, source, t, checked, hk, rfl, ht, hch, rfl⟩)⟩

/-- What a run needs for the cache key of its program to name it: a program of the typed
language is the parse of its source, run over keyable names. -/
def RunsKeyed (source : String) (env : List (String × Value)) : Program → Prop
  | .expr .. => True
  | .cel t _ => Cel.parse source = .ok t ∧ Keyable (env.map (·.1))

/-- Running with a faithful cache is running without one in the world holding the cache the run
leaves, which stays faithful. -/
theorem runSource_cached (hf : Faithful hs id w) {e : Engine} (he : e.helpers = hs)
    (hc : e.cache = some id) {source : String} {p : Program} {env : List (String × Value)}
    (hp : RunsKeyed source env p) :
    ∃ c, e.runSource source p env w =
        { e with cache := none }.runSource source p env { w with caches := c } ∧
      FaithfulUpdate hs id w c := by
  cases p with
  | expr t size helpers => exact ⟨w.caches, rfl, .refl hf⟩
  | cel t helpers =>
    obtain ⟨ht, hk⟩ := hp
    obtain ⟨c, hrun, hupd⟩ := checkedCel_cached hf he hc ht hk
    refine ⟨c, ?_, hupd⟩
    simp only [Engine.runSource]
    rw [bind_run_ok hrun, checkedCel_uncached, pure_bind]
    subst he
    rfl

/-- A run of compiles by engines sharing a faithful cache, all with its helpers, returns what the
same compiles without a cache return, and leaves the cache faithful. -/
theorem compileAll_cached : ∀ (calls : List (Engine × String)) {w : World}, Faithful hs id w →
    (∀ x ∈ calls, x.1.helpers = hs ∧ x.1.cache = some id) →
    ∃ rs c, (calls.mapM fun x : Engine × String => { x.1 with cache := none }.compileSource x.2) = pure rs ∧
      (calls.mapM fun x : Engine × String => x.1.compileSource x.2) w = .ok rs { w with caches := c } ∧
      FaithfulUpdate hs id w c
  | [], w, hf, _ => ⟨[], w.caches, rfl, rfl, .refl hf⟩
  | (e, source) :: calls, w, hf, hcalls => by
    obtain ⟨he, hc⟩ := hcalls (e, source) List.mem_cons_self
    obtain ⟨r, c₁, hr, hrun, hupd₁⟩ := compileSource_cached hf he hc source
    -- the rest of the run starts from the cache the first compile left, still faithful
    obtain ⟨rs, c₂, hrs, hruns, hupd₂⟩ :=
      compileAll_cached calls hupd₁.1 fun x hx => hcalls x (List.mem_cons_of_mem _ hx)
    refine ⟨r :: rs, c₂, ?_, ?_, hupd₁.trans hupd₂⟩
    · rw [List.mapM_cons, hr, pure_bind, hrs, pure_bind]
    · rw [List.mapM_cons, bind_run_ok hrun, bind_run_ok hruns]
      rfl

end Steps

/-! ## The laws of a shared cache -/

/-- What a program cache shared by engines with the helpers `hs` guarantees. -/
structure ProgramCacheLaws (hs : Option Helpers) (id : Nat) : Prop where
  /-- The keys of the two languages never meet. -/
  apart : ∀ source names source', "expr:" ++ source ≠ celKey names source'
  /-- The key of the typed language names the sorted names of a keyable environment and the
  source. -/
  celKeys : ∀ ns ns' s s', Keyable ns → Keyable ns' → celKey ns s = celKey ns' s' →
    sortedNames ns = sortedNames ns' ∧ s = s'
  /-- A cache starts faithful. -/
  empty : ∀ w : World, w.cacheEntries id = [] → Faithful hs id w
  /-- A run of compiles returns what it returns without a cache and keeps the cache faithful. -/
  compilesAll : ∀ (calls : List (Engine × String)) (w : World), Faithful hs id w →
    (∀ x ∈ calls, x.1.helpers = hs ∧ x.1.cache = some id) →
    ∃ rs c, (calls.mapM fun x : Engine × String => { x.1 with cache := none }.compileSource x.2) = pure rs ∧
      (calls.mapM fun x : Engine × String => x.1.compileSource x.2) w = .ok rs { w with caches := c } ∧
      FaithfulUpdate hs id w c
  /-- A check answered from the cache is the check of the parsed source against the same names
  with the same helpers. -/
  checks : ∀ (e : Engine) (source : String) (t : Cel.Term) (names : List String) (w : World),
    Faithful hs id w → e.helpers = hs → e.cache = some id → Cel.parse source = .ok t →
    Keyable names →
    ∃ c, e.checkedCel source t names w =
        .ok ((e.checkCel source t names).map fun checked => (checked, hs)) { w with caches := c } ∧
      FaithfulUpdate hs id w c
  /-- A run is the run without a cache, in the world holding the faithful cache it leaves. -/
  runs : ∀ (e : Engine) (source : String) (p : Program) (env : List (String × Value)) (w : World),
    Faithful hs id w → e.helpers = hs → e.cache = some id → RunsKeyed source env p →
    ∃ c, e.runSource source p env w =
        { e with cache := none }.runSource source p env { w with caches := c } ∧
      FaithfulUpdate hs id w c

theorem program_cache_laws (hs : Option Helpers) (id : Nat) : ProgramCacheLaws hs id where
  apart := exprKey_ne_celKey
  celKeys _ _ _ _ := celKey_inj
  empty w hw entry he := by
    rw [hw] at he
    cases he
  compilesAll calls _ hf hcalls := compileAll_cached calls hf hcalls
  checks _ _ _ _ _ hf he hc ht hk := checkedCel_cached hf he hc ht hk
  runs _ _ _ _ _ hf he hc hp := runSource_cached hf he hc hp

/-- Two engines of both languages sharing cache 0, each compiling `a + 1`. -/
def sharedCompiles : List (Engine × String) :=
  [({ language := .expr, cache := some 0 }, "a + 1"),
    ({ language := .cel, cache := some 0 }, "a + 1")]

/-- Compiles by engines sharing an empty cache return what they return without it. -/
theorem shared_compiles_as_uncached :
    Faithful none 0 {} ∧ (∀ x ∈ sharedCompiles, x.1.helpers = none ∧ x.1.cache = some 0) ∧
    ∃ rs c, (sharedCompiles.mapM fun x : Engine × String =>
        { x.1 with cache := none }.compileSource x.2) = pure rs ∧
      (sharedCompiles.mapM fun x : Engine × String => x.1.compileSource x.2) {} =
        .ok rs { ({} : World) with caches := c } ∧
      FaithfulUpdate none 0 {} c :=
  have hempty : Faithful none 0 {} := (program_cache_laws none 0).empty {} rfl
  have hcalls : ∀ x ∈ sharedCompiles, x.1.helpers = none ∧ x.1.cache = some 0 := by
    intro x hx
    simp only [sharedCompiles, List.mem_cons, List.not_mem_nil, or_false] at hx
    rcases hx with rfl | rfl <;> exact ⟨rfl, rfl⟩
  ⟨hempty, hcalls, (program_cache_laws none 0).compilesAll sharedCompiles {} hempty hcalls⟩

/-- The names `a` and `b` and the one name `a,b` share a key, so a cache holding the program
checked for the first answers a check for the second with it. -/
theorem comma_names_share_a_key :
    celKey ["a", "b"] "a + b" = celKey ["a,b"] "a + b" ∧ ¬ Keyable ["a,b"] ∧
      ∀ (t checked : Cel.Term) (w : World),
        w.cacheEntries 0 = [(celKey ["a", "b"] "a + b", .cel checked none)] →
        ({ language := .cel, cache := some 0 } : Engine).checkedCel "a + b" t ["a,b"] w =
          .ok (.ok (checked, none)) w := by
  have hkey : celKey ["a", "b"] "a + b" = celKey ["a,b"] "a + b" := by
    rw [celKey, celKey, List.mergeSort_of_pairwise (by decide), List.mergeSort_singleton]
    decide
  refine ⟨hkey, fun hk => (hk.2 "a,b" List.mem_cons_self).1 (by decide), ?_⟩
  intro t checked w hw
  simp only [Engine.checkedCel]
  rw [bind_run_ok (cachedProgram?_run _), hw, hkey]
  simp only [List.find?, beq_self_eq_true, Option.map_some]
  rfl

end Bindery
