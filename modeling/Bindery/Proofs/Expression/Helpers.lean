import Bindery.Expression.Helpers
import Bindery.Proofs.Text.Case

/-!
# What the helper registry guarantees

A helper is registered under the key of its name: the name in lower case, without surrounding
blanks. A registration is refused when the key is empty or the reserved `call`, when there is no
helper, or when an earlier registration took the key; otherwise the helper is added under its
key. Calls, and `call` in expressions, look a name up in lower case only.

So after any sequence of registrations the keys are distinct and carry no blanks at their ends.
A name whose lower case is a key reaches exactly the helper registered under it, and a name
whose key was never registered is unknown. But a name with surrounding blanks is registered
under its trimmed key and is not trimmed when called: it never reaches its own helper.

* `Helpers.registerAll`: the registry a sequence of registrations builds.
* `Helpers.Keyed`: distinct keys without surrounding blanks.
* `HelperRegistryLaws`: the laws of registering, calling and listing.

Main statement: `helper_registry_laws`.
-/

namespace Bindery

/-! ## One registration -/

/-- The registry a sequence of registrations builds: each is made on the registry the earlier
ones built, and one that is refused leaves it as it was. -/
def Helpers.registerAll (hs : Helpers) (regs : List (String × Option Helper)) : Helpers :=
  regs.foldl (fun hs r => (hs.register r.1 r.2).toOption.getD hs) hs

/-- The registry a sequence of registrations builds from an empty one. -/
def registryOf (regs : List (String × Option Helper)) : Helpers := Helpers.registerAll [] regs

namespace Helpers

variable {hs hs' : Helpers} {name : String} {h : Option Helper}

theorem any_key_iff (hs : Helpers) (k : String) :
    hs.any (·.1 == k) = true ↔ k ∈ hs.map (·.1) := by
  simp only [List.any_eq_true, beq_iff_eq, List.mem_map]

/-- A registration succeeds exactly when the key is neither empty nor `call`, the helper exists
and the key is free; the helper is then added last under the key. -/
theorem register_eq_ok :
    hs.register name h = .ok hs' ↔ helperKey name ≠ "" ∧ helperKey name ≠ callHelperName ∧
      ∃ g, h = some g ∧ helperKey name ∉ hs.map (·.1) ∧ hs' = hs ++ [(helperKey name, g)] := by
  unfold register
  dsimp only
  split
  · rename_i hempty
    have hkey : helperKey name = "" := String.isEmpty_iff.mp hempty
    exact ⟨nofun, fun h => absurd hkey h.1⟩
  · rename_i hempty
    have hkey : helperKey name ≠ "" := fun h => hempty (String.isEmpty_iff.mpr h)
    split
    · rename_i hcall
      exact ⟨nofun, fun h => absurd (beq_iff_eq.mp hcall) h.2.1⟩
    · rename_i hcall
      have hcall : helperKey name ≠ callHelperName := fun h => hcall (beq_iff_eq.mpr h)
      cases h with
      | none => exact ⟨nofun, fun ⟨_, _, _, hg, _⟩ => nomatch hg⟩
      | some g =>
        dsimp only
        split
        · rename_i htaken
          exact ⟨nofun, fun ⟨_, _, _, _, hfree, _⟩ => (hfree ((any_key_iff hs _).mp htaken)).elim⟩
        · rename_i hfree
          have hfree : helperKey name ∉ hs.map (·.1) := fun h =>
            hfree ((any_key_iff hs _).mpr h)
          constructor
          · intro hok
            cases hok
            exact ⟨hkey, hcall, g, rfl, hfree, rfl⟩
          · rintro ⟨-, -, g', hg, -, rfl⟩
            cases hg
            rfl

theorem register_isOk :
    (hs.register name h).isOk = true ↔ helperKey name ≠ "" ∧ helperKey name ≠ callHelperName ∧
      h.isSome = true ∧ helperKey name ∉ hs.map (·.1) := by
  cases hr : hs.register name h with
  | error e =>
    refine ⟨nofun, ?_⟩
    rintro ⟨hne, hcall, hsome, hfree⟩
    obtain ⟨g, rfl⟩ := Option.isSome_iff_exists.mp hsome
    have hok : hs.register name (some g) = .ok (hs ++ [(helperKey name, g)]) :=
      register_eq_ok.mpr ⟨hne, hcall, g, rfl, hfree, rfl⟩
    rw [hok] at hr
    cases hr
  | ok hs' =>
    obtain ⟨hne, hcall, g, rfl, hfree, -⟩ := register_eq_ok.mp hr
    exact ⟨fun _ => ⟨hne, hcall, rfl, hfree⟩, fun _ => rfl⟩

@[simp] theorem registerAll_nil : hs.registerAll [] = hs := rfl

theorem registerAll_cons (r : String × Option Helper) (regs : List (String × Option Helper)) :
    hs.registerAll (r :: regs) = ((hs.register r.1 r.2).toOption.getD hs).registerAll regs := by
  rw [registerAll, registerAll, List.foldl_cons]

theorem registerAll_append (regs regs' : List (String × Option Helper)) :
    hs.registerAll (regs ++ regs') = (hs.registerAll regs).registerAll regs' := by
  rw [registerAll, registerAll, registerAll, List.foldl_append]

/-- One more registration adds its helper under its key, or changes nothing. -/
theorem registerAll_concat (regs : List (String × Option Helper)) (n : String) (h : Option Helper) :
    hs.registerAll (regs ++ [(n, h)]) =
      ((hs.registerAll regs).register n h).toOption.getD (hs.registerAll regs) := by
  rw [registerAll_append, registerAll_cons, registerAll_nil]

/-- Registering only adds entries. -/
theorem mem_registerAll {e : String × Helper} (he : e ∈ hs) (regs : List (String × Option Helper)) :
    e ∈ hs.registerAll regs := by
  induction regs generalizing hs with
  | nil => exact he
  | cons r regs ih =>
    rw [registerAll_cons]
    apply ih
    cases hr : hs.register r.1 r.2 with
    | error _ => exact he
    | ok hs' =>
      obtain ⟨-, -, g, -, -, rfl⟩ := register_eq_ok.mp hr
      exact List.mem_append_left _ he

/-! ## Keys -/

/-- Keys are distinct and carry no blanks at their ends. -/
structure Keyed (hs : Helpers) : Prop where
  nodup : (hs.map (·.1)).Nodup
  trimmed : ∀ k ∈ hs.map (·.1), Text.trim k = k

theorem keyed_nil : Keyed [] := ⟨List.nodup_nil, by simp⟩

/-- A key carries no blanks at its ends. -/
theorem trim_helperKey (name : String) : Text.trim (helperKey name) = helperKey name := by
  rw [helperKey, Text.trim_lower, Text.trim_trim]

theorem Keyed.register (hk : hs.Keyed) (hr : hs.register name h = .ok hs') : hs'.Keyed := by
  obtain ⟨-, -, g, -, hfree, rfl⟩ := register_eq_ok.mp hr
  refine ⟨?_, ?_⟩
  · rw [List.map_append, List.nodup_append]
    refine ⟨hk.nodup, List.nodup_singleton _, fun k hk' k' hk'' hkk => ?_⟩
    simp only [List.map_cons, List.map_nil, List.mem_singleton] at hk''
    exact hfree (hk'' ▸ hkk ▸ hk')
  · intro k hmem
    rw [List.map_append, List.mem_append] at hmem
    rcases hmem with hmem | hmem
    · exact hk.trimmed k hmem
    · simp only [List.map_cons, List.map_nil, List.mem_singleton] at hmem
      rw [hmem]
      exact trim_helperKey name

theorem Keyed.registerAll (hk : hs.Keyed) (regs : List (String × Option Helper)) :
    (hs.registerAll regs).Keyed := by
  induction regs generalizing hs with
  | nil => exact hk
  | cons r regs ih =>
    rw [registerAll_cons]
    apply ih
    cases hr : hs.register r.1 r.2 with
    | error _ => exact hk
    | ok hs' => exact hk.register hr

/-! ## Looking names up -/

/-- With distinct keys, a name whose lower case is a key reaches the helper of that key. -/
theorem lookup_of_mem {k : String} {g : Helper} (hnd : (hs.map (·.1)).Nodup) (hmem : (k, g) ∈ hs)
    (hk : Text.lower name = k) : hs.lookup name = some g := by
  induction hs with
  | nil => cases hmem
  | cons e rest ih =>
    simp only [List.map_cons, List.nodup_cons] at hnd
    rcases List.mem_cons.mp hmem with rfl | hrest
    · simp [lookup, hk]
    · have hne : e.1 ≠ k := fun he => hnd.1 (he ▸ List.mem_map.mpr ⟨(k, g), hrest, rfl⟩)
      have hskip : (e.1 == Text.lower name) = false := by simpa [hk] using hne
      simp only [lookup, List.find?_cons, hskip] at ih ⊢
      exact ih hnd.2 hrest

/-- The entry a lookup finds has the lower case of the name as its key. -/
theorem exists_mem_of_lookup {g : Helper} (hl : hs.lookup name = some g) :
    (Text.lower name, g) ∈ hs := by
  obtain ⟨e, hfind, rfl⟩ := Option.map_eq_some_iff.mp hl
  have hkey : e.1 = Text.lower name := by simpa using List.find?_some hfind
  rw [← hkey]
  exact List.mem_of_find?_eq_some hfind

/-- A name whose key was never registered reaches nothing: were its lower case a key, that key
would be trimmed, so it would be the name's key. -/
theorem lookup_eq_none (hk : hs.Keyed) (hfree : helperKey name ∉ hs.map (·.1)) :
    hs.lookup name = none := by
  cases hl : hs.lookup name with
  | none => rfl
  | some g =>
    have hmem := exists_mem_of_lookup hl
    have hkey : helperKey name = Text.lower name := by
      rw [helperKey, ← Text.trim_lower]
      exact hk.trimmed _ (List.mem_map.mpr ⟨_, hmem, rfl⟩)
    exact (hfree (List.mem_map.mpr ⟨_, hmem, hkey.symm⟩)).elim

/-- A name reaches the helper registered under its own key exactly when it has no surrounding
blanks. -/
theorem lookup_own {g : Helper} (hk : hs.Keyed) (hmem : (helperKey name, g) ∈ hs) :
    hs.lookup name = some g ↔ Text.trim name = name := by
  constructor
  · intro hl
    -- the key found is the lower case of the name, and keys are trimmed
    have hfound := exists_mem_of_lookup hl
    have htrim := hk.trimmed _ (List.mem_map.mpr ⟨_, hfound, rfl⟩)
    rw [Text.trim_lower] at htrim
    apply Text.trim_eq_self_of_length
    rw [← Text.length_lower, htrim, Text.length_lower]
  · intro htrim
    exact lookup_of_mem hk.nodup hmem (by rw [helperKey, htrim])

/-- A call runs the helper its name reaches, its failure message becoming the call's failure. -/
theorem call_of_lookup {g : Helper} (hl : hs.lookup name = some g) (args : List Value) :
    hs.call name args = (fun r => r.mapError Fault.text) <$> g.call args := by
  simp only [call, hl]
  refine congrArg (g.call args >>= ·) (funext fun r => ?_)
  cases r <;> rfl

/-- A call of a name that reaches nothing fails as an unknown function. -/
theorem call_of_lookup_none (hl : hs.lookup name = none) (args : List Value) :
    hs.call name args = pure (.error (Fault.because .unknownFunction (Text.quoted name))) := by
  simp only [call, hl]

/-! ## Listing names -/

/-- The names of a registry with distinct keys are its keys in increasing order. -/
theorem names_increasing (hnd : (hs.map (·.1)).Nodup) :
    hs.names.Pairwise (· < ·) ∧ hs.names.Perm (hs.map (·.1)) := by
  have hperm : hs.names.Perm (hs.map (·.1)) := List.mergeSort_perm _ _
  have hsorted : hs.names.Pairwise (· ≤ ·) := List.pairwise_mergeSort' (· ≤ ·) _
  exact ⟨(hsorted.and (hperm.nodup_iff.mpr hnd)).imp fun h => lt_of_le_of_ne h.1 h.2, hperm⟩

end Helpers

/-! ## The laws -/

/-- The laws of the registry that the registrations `regs` build from an empty one. -/
structure HelperRegistryLaws (regs : List (String × Option Helper)) : Prop where
  /-- The next registration succeeds exactly when its key is neither empty nor `call`, its
  helper exists, and no earlier registration that succeeded took the key. -/
  admits : ∀ n h, ((registryOf regs).register n h).isOk = true ↔
    helperKey n ≠ "" ∧ helperKey n ≠ callHelperName ∧ h.isSome = true ∧
      helperKey n ∉ (registryOf regs).map (·.1)
  /-- It adds its helper under its key, or changes nothing. -/
  records : ∀ n h, registryOf (regs ++ [(n, h)]) =
    ((registryOf regs).register n h).toOption.getD (registryOf regs)
  /-- Once it succeeded, every name whose lower case is its key reaches its helper, whatever is
  registered later, by a call and by `call` in an expression. -/
  reaches : ∀ n g, ((registryOf regs).register n (some g)).isOk = true →
    ∀ later n' args, Text.lower n' = helperKey n →
      let hs := registryOf (regs ++ (n, some g) :: later)
      hs.lookup n' = some g ∧
        hs.call n' args = (fun r => r.mapError Fault.text) <$> g.call args ∧
        hs.dispatch (.str n' :: args) = (fun r => r.mapError Fault.text) <$> g.call args
  /-- The name it was registered by reaches it exactly when that name has no surrounding blanks;
  a name with them is not trimmed when called, and is unknown. -/
  ownName : ∀ n g, ((registryOf regs).register n (some g)).isOk = true →
    ∀ later args, let hs := registryOf (regs ++ (n, some g) :: later)
      (hs.lookup n = some g ↔ Text.trim n = n) ∧
      (Text.trim n ≠ n →
        hs.call n args = pure (.error (Fault.because .unknownFunction (Text.quoted n))))
  /-- A name whose key no registration took is unknown. -/
  unknown : ∀ n args, helperKey n ∉ (registryOf regs).map (·.1) →
    (registryOf regs).call n args =
      pure (.error (Fault.because .unknownFunction (Text.quoted n)))
  /-- The names listed are the keys, each once, in increasing order. -/
  names : (registryOf regs).names.Pairwise (· < ·) ∧
    (registryOf regs).names.Perm ((registryOf regs).map (·.1))

/-- The helper registered by a successful registration, under its key, stays in the registry. -/
theorem mem_registerAll_of_register {regs : List (String × Option Helper)} {n : String}
    {g : Helper} (hok : ((registryOf regs).register n (some g)).isOk = true)
    (later : List (String × Option Helper)) :
    (helperKey n, g) ∈ registryOf (regs ++ (n, some g) :: later) := by
  obtain ⟨hne, hcall, -, hfree⟩ := Helpers.register_isOk.mp hok
  have hreg : (registryOf regs).register n (some g) =
      .ok (registryOf regs ++ [(helperKey n, g)]) :=
    Helpers.register_eq_ok.mpr ⟨hne, hcall, g, rfl, hfree, rfl⟩
  rw [registryOf] at hreg ⊢
  rw [← List.singleton_append, ← List.append_assoc, Helpers.registerAll_append,
    Helpers.registerAll_concat, hreg]
  exact Helpers.mem_registerAll (List.mem_append_right _ (List.mem_singleton_self _)) later

theorem helper_registry_laws (regs : List (String × Option Helper)) : HelperRegistryLaws regs where
  admits _ _ := Helpers.register_isOk
  records n h := Helpers.registerAll_concat regs n h
  reaches n g hok later n' args hkey := by
    have hk := Helpers.keyed_nil.registerAll (regs ++ (n, some g) :: later)
    have hl := Helpers.lookup_of_mem hk.nodup (mem_registerAll_of_register hok later) hkey
    exact ⟨hl, Helpers.call_of_lookup hl args, Helpers.call_of_lookup hl args⟩
  ownName n g hok later args := by
    have hk := Helpers.keyed_nil.registerAll (regs ++ (n, some g) :: later)
    have hown := Helpers.lookup_own hk (mem_registerAll_of_register hok later)
    refine ⟨hown, fun htrim => Helpers.call_of_lookup_none ?_ args⟩
    cases hl : Helpers.lookup _ n with
    | none => rfl
    | some g' =>
      -- whatever the name reaches, it is the entry of its own key, which needs no blanks
      have hfound := Helpers.exists_mem_of_lookup hl
      have hsame : Text.lower n = helperKey n := by
        have htrim' := hk.trimmed _ (List.mem_map.mpr ⟨_, hfound, rfl⟩)
        rw [Text.trim_lower] at htrim'
        rw [helperKey, htrim']
      exact absurd (hown.mp (Helpers.lookup_of_mem hk.nodup
        (mem_registerAll_of_register hok later) hsame)) htrim
  unknown n args hfree :=
    Helpers.call_of_lookup_none (Helpers.lookup_eq_none (Helpers.keyed_nil.registerAll regs) hfree) args
  names := Helpers.names_increasing (Helpers.keyed_nil.registerAll regs).nodup

/-- A helper registered as `Shout` is reached by `SHOUT`, by a call and by `call` in an
expression. -/
theorem shout_reached_in_any_case :
    ((registryOf []).register "Shout" (some .shout)).isOk = true ∧
    Text.lower "SHOUT" = helperKey "Shout" ∧
    let hs := registryOf ([] ++ ("Shout", some .shout) :: [])
    hs.lookup "SHOUT" = some .shout ∧
      hs.call "SHOUT" [.str "a"] = (fun r => r.mapError Fault.text) <$> Helper.shout.call [.str "a"] ∧
      hs.dispatch (.str "SHOUT" :: [.str "a"]) =
        (fun r => r.mapError Fault.text) <$> Helper.shout.call [.str "a"] :=
  have hok : ((registryOf []).register "Shout" (some .shout)).isOk = true := by decide
  have hkey : Text.lower "SHOUT" = helperKey "Shout" := by decide
  ⟨hok, hkey, (helper_registry_laws []).reaches "Shout" .shout hok [] "SHOUT" [.str "a"] hkey⟩

/-- Registering a helper by a name with surrounding blanks succeeds and lists its trimmed key,
but calling it back by that very name fails as an unknown function. -/
theorem padded_name_never_called_back :
    let hs := registryOf [(" shout ", some .shout)]
    hs = [("shout", .shout)] ∧ hs.names = ["shout"] ∧
      hs.call " shout " [.str "a"] =
        pure (.error (Fault.because .unknownFunction (Text.quoted " shout "))) := by
  have hreg : registryOf [(" shout ", some .shout)] = [("shout", .shout)] := rfl
  refine ⟨hreg, by rw [hreg, Helpers.names]; simp, Helpers.call_of_lookup_none rfl _⟩

end Bindery
