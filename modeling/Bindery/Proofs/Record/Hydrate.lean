import Bindery.Record.Hydrate
import Bindery.Proofs.Record.Decode

/-!
# What hydrating a payload guarantees

Hydrating runs the pre-hooks in order, each handed the table the one before it handed on, the
first on a copy of the payload (`runPreHooks_eq_foldlM`); then a custom decoder or the record
decoder; then the post-hooks in order on the record (`runPostHooks_eq_foldlM`). A failure of any
stage ends the run with a message that quotes the payload's name, and gives no record
(`decode_namesOnFailure`).

The record decoder is a parameter: hydrating is stated for every record decoder, and what it
needs of one is named (`RecordDecoder.WritesOnlyOwn`: it writes no table it did not make, which
the library's `decodeRecord` meets). The copy is a new table, past every table there was, so a
decoder whose stages write only tables past the first `n`, and hand on only such tables, leaves
the first `n` tables as they were (`decode_keeps`): started with `n` the number of tables there
are, the payload's table and every table it holds keep their entries. The sample stages are of
that kind (`Decoder.confined_of_samples`).

The copy is shallow, though: it holds the payload's own nested tables. A pre-hook that writes
through its working table into a table held there writes into the payload
(`nested_edit_reaches_payload`).

Main statements: `hydrate_laws` and `nested_edit_reaches_payload`.
-/

namespace Bindery.Record

open Run

/-! ## The stages run in order -/

/-- One pre-hook of a chain: a present hook is handed the working table, and its failure ends
the chain; what it hands on, or else the working table, goes on. An absent hook passes the
working table on. -/
def preStep (ctx : Context) (current : Value) : Option PreStage → ExceptT Fault Run Value
  | none => pure current
  | some h => do
    match ← (h ctx current : Run _) with
    | .error m => throw (stageFault "pre-hook" ctx m)
    | .ok next => pure (next.getD current)

/-- One post-hook of a chain: a present hook adjusts the record, and its failure ends the
chain. -/
def postStep (ctx : Context) (s : Sample) : Option PostStage → ExceptT Fault Run Sample
  | none => pure s
  | some h => do
    match ← (h ctx s : Run _) with
    | .error m => throw (stageFault "post-hook" ctx m)
    | .ok s' => pure s'

/-- **Pre-hooks run in order**, each handed what the one before it handed on: the chain is the
left fold of its steps, and the first failure ends it. -/
theorem runPreHooks_eq_foldlM (ctx : Context) (hooks : List (Option PreStage)) (current : Value) :
    runPreHooks ctx hooks current = (hooks.foldlM (preStep ctx) current).run := by
  induction hooks generalizing current with
  | nil => rfl
  | cons h hooks ih =>
    rw [List.foldlM_cons, ExceptT.run_bind]
    cases h with
    | none => exact ih current
    | some h =>
      simp only [runPreHooks, preStep, ExceptT.run_bind, ExceptT.run_liftM, bind_map_left]
      rw [bind_assoc]
      refine congrArg _ (funext fun r => ?_)
      cases r with
      | error m => rfl
      | ok next => exact ih _

/-- **Post-hooks run in order**, each on the record the one before it gave. -/
theorem runPostHooks_eq_foldlM (ctx : Context) (hooks : List (Option PostStage)) (s : Sample) :
    runPostHooks ctx hooks s = (hooks.foldlM (postStep ctx) s).run := by
  induction hooks generalizing s with
  | nil => rfl
  | cons h hooks ih =>
    rw [List.foldlM_cons, ExceptT.run_bind]
    cases h with
    | none => exact ih s
    | some h =>
      simp only [runPostHooks, postStep, ExceptT.run_bind, ExceptT.run_liftM, bind_map_left]
      rw [bind_assoc]
      refine congrArg _ (funext fun r => ?_)
      cases r with
      | error m => rfl
      | ok s' => exact ih _

/-! ## Failures name the payload -/

/-- A failure that names the payload: a hydrating message that quotes the payload's name. -/
def NamesPayload (ctx : Context) (e : Fault) : Prop :=
  ∃ stage detail, e = .text ("hydrate: " ++ stage ++ Text.quoted ctx.name ++ detail)

/-- A result of decoding: a value, or a failure that names the payload. -/
def NamesOnFailure (ctx : Context) (r : Except Fault α) : Prop := ∀ e, r = .error e → NamesPayload ctx e

theorem namesOnFailure_ok (ctx : Context) (a : α) : NamesOnFailure ctx (.ok a : Except Fault α) := by
  intro e h
  cases h

theorem namesOnFailure_stageFault (stage : String) (ctx : Context) (m : String) :
    NamesOnFailure ctx (.error (stageFault stage ctx m) : Except Fault α) := by
  intro e h
  cases h
  exact ⟨stage ++ " for ", " failed: " ++ m, by simp only [stageFault, String.append_assoc]⟩

theorem runPreHooks_namesOnFailure (ctx : Context) :
    ∀ (hooks : List (Option PreStage)) (current : Value),
      Returns (NamesOnFailure ctx) (runPreHooks ctx hooks current)
  | [], _ => Returns.pure' (namesOnFailure_ok ctx _)
  | none :: hooks, current => runPreHooks_namesOnFailure ctx hooks current
  | some _ :: hooks, _ => Returns.bind fun r => by
    cases r with
    | error m => exact Returns.pure' (namesOnFailure_stageFault _ ctx m)
    | ok next => exact runPreHooks_namesOnFailure ctx hooks _

theorem runPostHooks_namesOnFailure (ctx : Context) :
    ∀ (hooks : List (Option PostStage)) (s : Sample),
      Returns (NamesOnFailure ctx) (runPostHooks ctx hooks s)
  | [], _ => Returns.pure' (namesOnFailure_ok ctx _)
  | none :: hooks, s => runPostHooks_namesOnFailure ctx hooks s
  | some _ :: hooks, _ => Returns.bind fun r => by
    cases r with
    | error m => exact Returns.pure' (namesOnFailure_stageFault _ ctx m)
    | ok s' => exact runPostHooks_namesOnFailure ctx hooks s'

theorem decodeTable_namesOnFailure (record : RecordDecoder) (d : Decoder) (ctx : Context)
    (current : Value) : Returns (NamesOnFailure ctx) (d.decodeTable record ctx current) := by
  unfold Decoder.decodeTable
  split
  · refine Returns.bind fun r => ?_
    cases r with
    | error m => exact Returns.pure' (namesOnFailure_stageFault _ ctx m)
    | ok s => exact Returns.pure' (namesOnFailure_ok ctx s)
  · split
    · refine Returns.pure' fun e he => ?_
      cases he
      exact ⟨"configure decoder for ", ": result must be a pointer", rfl⟩
    · refine Returns.bind fun r => ?_
      cases r with
      | error p =>
        refine Returns.pure' fun e he => ?_
        cases he
        exact ⟨"decode ", ": " ++ p.text, by rw [← String.append_assoc]; rfl⟩
      | ok fields => exact Returns.pure' (namesOnFailure_ok ctx _)

/-- **Every failure of decoding names the payload**, and a failed decode gives no record, whatever
the record decoder. -/
theorem decode_namesOnFailure (record : RecordDecoder) (d : Decoder) (ctx : Context)
    (payload : Value) : Returns (NamesOnFailure ctx) (d.decode record ctx payload) := by
  unfold Decoder.decode
  split
  · refine Returns.bind fun _ => Returns.bind fun copy => ?_
    refine Returns.bind_of (runPreHooks_namesOnFailure ctx d.pre copy) fun r hr => ?_
    cases r with
    | error e => exact Returns.pure' fun e' he' => by cases he'; exact hr _ rfl
    | ok current =>
      refine Returns.bind_of (decodeTable_namesOnFailure record d ctx current) fun r hr => ?_
      cases r with
      | error e => exact Returns.pure' hr
      | ok s => exact runPostHooks_namesOnFailure ctx d.post s
  · refine Returns.pure' fun e he => ?_
    cases he
    exact ⟨"payload is nil for ", "", by rw [String.append_empty]; rfl⟩

/-! ## Tables made before decoding keep their entries -/

/-- The guarantee that the first `n` tables keep their entries. -/
def keepingFirst (n : Nat) : Guarantee where
  rel w w' := n ≤ w.tables.size → n ≤ w'.tables.size ∧ ∀ i < n, w'.tables[i]? = w.tables[i]?
  refl _ h := ⟨h, fun _ _ => rfl⟩
  trans h₁ h₂ h := ⟨(h₂ (h₁ h).1).1, fun i hi => ((h₂ (h₁ h).1).2 i hi).trans ((h₁ h).2 i hi)⟩

/-- What changes only what observers keep leaves every table as it was. -/
theorem keepingFirst_of_observersOnly {n : Nat} {w w' : World} (h : Scope.ObserversOnly.rel w w') :
    (keepingFirst n).rel w w' := by
  have htables : w'.tables = w.tables := congrArg Prod.fst h.2.2.2
  intro hn
  rw [htables]
  exact ⟨hn, fun _ _ => rfl⟩

/-- A new table leaves the tables before it as they were. -/
theorem keepingFirst_push (n : Nat) (w : World) (entries : List (String × Value)) :
    (keepingFirst n).rel w { w with tables := w.tables.push entries } := by
  intro hn
  refine ⟨by simp; omega, fun i hi => ?_⟩
  show (w.tables.push entries)[i]? = w.tables[i]?
  rw [Array.getElem?_push, if_neg (by omega)]

theorem keeps_newTable (n : Nat) (entries : List (String × Value)) :
    Keeps (keepingFirst n) (Run.newTable entries) :=
  .modifyGet' fun w => keepingFirst_push n w entries

theorem keeps_newList (n : Nat) (items : List Value) : Keeps (keepingFirst n) (Run.newList items) :=
  .bind (.modifyGet' fun _ hn => ⟨hn, fun _ _ => rfl⟩) fun _ => .pure' _

theorem keeps_tableEntries {g : Guarantee} (id : Nat) : Keeps g (Run.tableEntries id) :=
  (Scope.tableEntries_readsOnly id).reads.keeps

/-- Decoding's steps write no table they did not make. -/
theorem keeping_steps (n : Nat) : DecodeSteps (Keeps (keepingFirst n)) :=
  { Scope.ObserverSteps.keeps fun _ _ h => keepingFirst_of_observersOnly h with
    list := keeps_newList n
    table := keeps_newTable n }

/-- A record decoder that reads what it decodes and writes only what it makes: whatever the number
`n`, the first `n` tables keep their entries. -/
def RecordDecoder.WritesOnlyOwn (record : RecordDecoder) : Prop :=
  ∀ n o schema v, Keeps (keepingFirst n) (record o schema v)

/-- The library's record decoder writes no table it did not make. -/
theorem decodeRecord_writesOnlyOwn : RecordDecoder.WritesOnlyOwn decodeRecord :=
  fun n => (keeping_steps n).record

/-! ## Confined stages -/

/-- A pre-hook confined past the first `n` tables: handed one of the others, it changes none of
the first `n`, and, from a world that has them, what it hands on is one of the others. -/
structure PreConfined (n : Nat) (h : PreStage) : Prop where
  keeps : ∀ ctx j, n ≤ j → Keeps (keepingFirst n) (h ctx (.table j))
  hands : ∀ ctx j w v w', n ≤ j → n ≤ w.tables.size →
    h ctx (.table j) w = .ok (.ok (some v)) w' → ∃ j', v = .table j' ∧ n ≤ j'

/-- A decoder whose stages are all confined past the first `n` tables. -/
structure Decoder.Confined (n : Nat) (d : Decoder) : Prop where
  pre : ∀ h, some h ∈ d.pre → PreConfined n h
  custom : ∀ c, d.custom = some c → ∀ ctx j, n ≤ j → Keeps (keepingFirst n) (c ctx (.table j))
  post : ∀ h, some h ∈ d.post → ∀ ctx s, Keeps (keepingFirst n) (h ctx s)

/-- A chain of confined pre-hooks, started on a table past the first `n`, changes none of the
first `n` and ends on a table past them. -/
theorem runPreHooks_confined {n : Nat} (ctx : Context) :
    ∀ {hooks : List (Option PreStage)}, (∀ h, some h ∈ hooks → PreConfined n h) →
      ∀ {j : Nat}, n ≤ j → ∀ w, n ≤ w.tables.size →
        (keepingFirst n).rel w (Result.world (runPreHooks ctx hooks (.table j) w)) ∧
        ∀ v w', runPreHooks ctx hooks (.table j) w = .ok (.ok v) w' → ∃ j', v = .table j' ∧ n ≤ j'
  | [], _, j, hj, w, _ => ⟨(keepingFirst n).refl w, fun v w' h => by cases h; exact ⟨j, rfl, hj⟩⟩
  | none :: hooks, hconf, _, hj, w, hw =>
    runPreHooks_confined ctx (fun h hh => hconf h (List.mem_cons_of_mem _ hh)) hj w hw
  | some h :: hooks, hconf, j, hj, w, hw => by
    have hh := hconf h List.mem_cons_self
    have hrest : ∀ h', some h' ∈ hooks → PreConfined n h' :=
      fun h' hh' => hconf h' (List.mem_cons_of_mem _ hh')
    rw [runPreHooks]
    cases hrun : h ctx (.table j) w with
    | error e w₁ =>
      rw [bind_run_error hrun]
      exact ⟨(hh.keeps ctx j hj).rel_of_error hrun, fun _ _ h => by cases h⟩
    | ok r w₁ =>
      rw [bind_run_ok hrun]
      have h₁ := (hh.keeps ctx j hj).rel_of_ok hrun
      cases r with
      | error m => exact ⟨h₁, fun _ _ h => by cases h⟩
      | ok next =>
        -- the hook hands on a table past the first `n`, or keeps the one it was handed
        obtain ⟨j', hnext, hj'⟩ : ∃ j', next.getD (.table j) = .table j' ∧ n ≤ j' := by
          cases next with
          | none => exact ⟨j, rfl, hj⟩
          | some v => exact hh.hands ctx j w v w₁ hj hw hrun
        dsimp only
        rw [hnext]
        obtain ⟨hrel, hend⟩ := runPreHooks_confined ctx hrest hj' w₁ (h₁ hw).1
        exact ⟨(keepingFirst n).trans h₁ hrel, hend⟩

/-- Decoding a table past the first `n` with a confined custom decoder, or with a record decoder
that writes only what it makes, changes none of the first `n` tables. -/
theorem decodeTable_keeps {record : RecordDecoder} (hrecord : record.WritesOnlyOwn) {n : Nat}
    {d : Decoder} (hd : d.Confined n) (ctx : Context) {j : Nat} (hj : n ≤ j) :
    Keeps (keepingFirst n) (d.decodeTable record ctx (.table j)) := by
  unfold Decoder.decodeTable
  split
  · rename_i c hc
    exact .bind (hd.custom c hc ctx j hj) fun r => by cases r <;> exact .pure' _
  · exact .ite' (.pure' _) (.bind (hrecord n _ _ _) fun r => by cases r <;> exact .pure' _)

theorem runPostHooks_keeps {n : Nat} (ctx : Context) :
    ∀ {hooks : List (Option PostStage)}, (∀ h, some h ∈ hooks → ∀ ctx s, Keeps (keepingFirst n) (h ctx s)) →
      ∀ s, Keeps (keepingFirst n) (runPostHooks ctx hooks s)
  | [], _, _ => .pure' _
  | none :: hooks, hconf, s => runPostHooks_keeps ctx (fun h hh => hconf h (List.mem_cons_of_mem _ hh)) s
  | some h :: hooks, hconf, s => .bind (hconf h List.mem_cons_self ctx s) fun r => by
    cases r with
    | error m => exact .pure' _
    | ok s' => exact runPostHooks_keeps ctx (fun h hh => hconf h (List.mem_cons_of_mem _ hh)) s'

/-- **Decoding with confined stages changes no table made before it**: the pre-hooks are handed
a copy of the payload, made past the tables there were, so the payload's table and every table
it holds keep their entries. -/
theorem decode_keeps {record : RecordDecoder} (hrecord : record.WritesOnlyOwn) {n : Nat}
    {d : Decoder} (hd : d.Confined n) (ctx : Context) (payload : Value) :
    Keeps (keepingFirst n) (d.decode record ctx payload) := by
  intro w
  unfold Decoder.decode
  split
  · rename_i id
    by_cases hn : n ≤ w.tables.size
    swap
    · exact fun h => absurd h hn
    -- the copy is a new table, past the first `n`
    let w₁ : World := { w with tables := w.tables.push (w.tables[id]?.getD []) }
    have hentries : Run.tableEntries id w = .ok (w.tables[id]?.getD []) w := rfl
    have hcopy : Run.newTable (w.tables[id]?.getD []) w = .ok (.table w.tables.size) w₁ := rfl
    have h₀ : (keepingFirst n).rel w w₁ := keepingFirst_push n w _
    rw [bind_run_ok hentries, bind_run_ok hcopy]
    obtain ⟨hpre, hcur⟩ := runPreHooks_confined ctx hd.pre hn w₁ (h₀ hn).1
    cases hrun : runPreHooks ctx d.pre (.table w.tables.size) w₁ with
    | error e w₂ =>
      rw [bind_run_error hrun]
      rw [hrun] at hpre
      exact (keepingFirst n).trans h₀ hpre
    | ok r w₂ =>
      rw [bind_run_ok hrun]
      rw [hrun] at hpre
      have h₂ := (keepingFirst n).trans h₀ hpre
      cases r with
      | error e => exact h₂
      | ok current =>
        obtain ⟨j, rfl, hj⟩ := hcur _ _ hrun
        have hdecode := decodeTable_keeps hrecord hd ctx hj
        dsimp only
        cases hdec : d.decodeTable record ctx (.table j) w₂ with
        | error e w₃ =>
          rw [bind_run_error hdec]
          exact (keepingFirst n).trans h₂ (hdecode.rel_of_error hdec)
        | ok r w₃ =>
          rw [bind_run_ok hdec]
          have h₃ := (keepingFirst n).trans h₂ (hdecode.rel_of_ok hdec)
          cases r with
          | error e => exact h₃
          | ok s => exact (keepingFirst n).trans h₃ (runPostHooks_keeps ctx hd.post s w₃)
  · exact (keepingFirst n).refl w

/-! ## The sample stages are confined -/

/-- Writing a table past the first `n` changes none of them. -/
theorem keeps_setTable {n j : Nat} (hj : n ≤ j) (entries : List (String × Value)) :
    Keeps (keepingFirst n) (Run.setTable j entries) :=
  .modify' fun w hn => ⟨by simpa using hn, fun i hi => by
    show (w.tables.set! j entries)[i]? = w.tables[i]?
    rw [Array.set!_eq_setIfInBounds, Array.getElem?_setIfInBounds_ne (by omega)]⟩

/-- A sample pre-hook writes only the table it is handed and hands on that table or a new one. -/
theorem PreHook.stage_confined {n : Nat} {observe : Context → List String → Run Unit}
    (hobs : ∀ ctx keys, Keeps (keepingFirst n) (observe ctx keys)) (h : PreHook) :
    PreConfined n (h.stage observe) where
  keeps ctx j hj := by
    refine .bind (keeps_tableEntries j) fun entries => .bind (hobs ctx _) fun _ => ?_
    cases h with
    | mutate updates => exact .bind (keeps_setTable hj _) fun _ => .pure' _
    | replace fresh => exact .bind (keeps_newTable n fresh) fun _ => .pure' _
    | keep => exact .pure' _
    | fail m => exact .pure' _
  hands ctx j w v w' hj hw hrun := by
    obtain ⟨entries, w₀, hread, h₀⟩ := ok_of_bind hrun
    obtain ⟨⟨⟩, w₁, hobs₁, h₁⟩ := ok_of_bind h₀
    have hw₀ : w₀ = w := by cases hread; rfl
    subst hw₀
    -- observing keeps the first `n` tables, so a new table comes after them
    have hw₁ : n ≤ w₁.tables.size := ((hobs ctx _).rel_of_ok hobs₁ hw).1
    cases h with
    | mutate updates =>
      obtain ⟨⟨⟩, w₂, -, h₂⟩ := ok_of_bind h₁
      cases h₂
      exact ⟨j, rfl, hj⟩
    | replace fresh =>
      obtain ⟨t, w₂, ht, h₂⟩ := ok_of_bind h₁
      cases ht
      cases h₂
      exact ⟨_, rfl, hw₁⟩
    | keep => cases h₁
    | fail m => cases h₁

theorem PostHook.stage_keeps {g : Guarantee} (h : PostHook) (ctx : Context) (s : Sample) :
    Keeps g (h.stage ctx s) := by
  cases h <;> exact .pure' _

theorem CustomDecoder.stage_keeps {g : Guarantee} (c : CustomDecoder) (ctx : Context) (v : Value) :
    Keeps g (c.stage ctx v) := by
  cases c with
  | count name =>
    -- the count reads the table, if there is one
    cases v
    all_goals dsimp only [CustomDecoder.stage]
    all_goals first
      | exact .bind (.pure' _) fun _ => .pure' _
      | exact .bind (keeps_tableEntries _) fun _ => .bind (.pure' _) fun _ => .pure' _
  | fail m => exact .pure' _

/-- A decoder made of sample stages is confined past any number of tables its observer leaves
alone. -/
theorem Decoder.confined_of_samples {n : Nat} {observe : Context → List String → Run Unit}
    (hobs : ∀ ctx keys, Keeps (keepingFirst n) (observe ctx keys)) {d : Decoder}
    (hpre : ∀ h, some h ∈ d.pre → ∃ p : PreHook, h = p.stage observe)
    (hcustom : ∀ c, d.custom = some c → ∃ c' : CustomDecoder, c = c'.stage)
    (hpost : ∀ h, some h ∈ d.post → ∃ p : PostHook, h = p.stage) : d.Confined n where
  pre h hh := by
    obtain ⟨p, rfl⟩ := hpre h hh
    exact p.stage_confined hobs
  custom c hc ctx j _ := by
    obtain ⟨c', rfl⟩ := hcustom c hc
    exact c'.stage_keeps ctx _
  post h hh ctx s := by
    obtain ⟨p, rfl⟩ := hpost h hh
    exact p.stage_keeps ctx s

/-! ## The laws -/

/-- What hydrating guarantees for every decoder, whatever its stages do. -/
structure HydrateLaws (ctx : Context) : Prop where
  /-- The pre-hooks run in order, each handed what the one before it handed on; an absent hook,
  or a hook that hands on nothing, keeps the working table; the first failure ends the chain. -/
  pre_in_order : ∀ hooks current,
    runPreHooks ctx hooks current = (hooks.foldlM (preStep ctx) current).run
  /-- The post-hooks run in order on the record; the first failure ends the chain. -/
  post_in_order : ∀ hooks s, runPostHooks ctx hooks s = (hooks.foldlM (postStep ctx) s).run
  /-- A failed decode gives no record, and its message quotes the payload's name. -/
  failures_name_payload : ∀ (record : RecordDecoder) (d : Decoder) payload,
    Returns (NamesOnFailure ctx) (d.decode record ctx payload)
  /-- Decoding with stages confined past the tables there were, and a record decoder that writes
  only what it makes, leaves those tables as they were: the payload's table and every table it
  holds. -/
  tables_kept : ∀ (record : RecordDecoder) (d : Decoder) payload w, record.WritesOnlyOwn →
    d.Confined w.tables.size →
    ∀ i < w.tables.size, (Result.world (d.decode record ctx payload w)).tables[i]? = w.tables[i]?
  /-- The sample stages are so confined. -/
  samples_confined : ∀ n (observe : Context → List String → Run Unit),
    (∀ ctx keys, Keeps (keepingFirst n) (observe ctx keys)) → ∀ d : Decoder,
    (∀ h, some h ∈ d.pre → ∃ p : PreHook, h = p.stage observe) →
    (∀ c, d.custom = some c → ∃ c' : CustomDecoder, c = c'.stage) →
    (∀ h, some h ∈ d.post → ∃ p : PostHook, h = p.stage) → d.Confined n

theorem hydrate_laws (ctx : Context) : HydrateLaws ctx where
  pre_in_order := runPreHooks_eq_foldlM ctx
  post_in_order := runPostHooks_eq_foldlM ctx
  failures_name_payload record d payload := decode_namesOnFailure record d ctx payload
  tables_kept _ _ payload w hrecord hd i hi :=
    ((decode_keeps hrecord hd ctx payload w) (Nat.le_refl _)).2 i hi
  samples_confined _ _ hobs _ hpre hcustom hpost :=
    Decoder.confined_of_samples hobs hpre hcustom hpost

/-- The payload `{"meta": {"k": 1}}`: table 1 holds table 0 under `meta`. -/
def nestedPayloadWorld : World := { tables := #[[("k", .int 1)], [("meta", .table 0)]] }

/-- A decoder with one sample hook, which sets `meta` in the working table to 3. -/
def setMetaDecoder : Decoder :=
  { pre := [some ((PreHook.mutate [("meta", .int 3)]).stage fun _ _ => pure ())] }

/-- The sample hook that sets `meta` in the working copy of `{"meta": {"k": 1}}` is confined, and
the library's record decoder writes only what it makes, so both of the payload's tables keep
their entries. -/
theorem setting_meta_keeps_payload :
    RecordDecoder.WritesOnlyOwn decodeRecord ∧ setMetaDecoder.Confined 2 ∧
      ∀ i < 2, (Result.world (setMetaDecoder.decode decodeRecord ⟨"p", ""⟩ (.table 1)
        nestedPayloadWorld)).tables[i]? = nestedPayloadWorld.tables[i]? := by
  have hconf : setMetaDecoder.Confined 2 :=
    (hydrate_laws ⟨"p", ""⟩).samples_confined 2 _ (fun _ _ => .pure' _) setMetaDecoder
      (fun h hh => ⟨_, (Option.some.inj (List.mem_singleton.mp hh))⟩)
      (fun _ hc => by cases hc) (fun _ hh => by cases hh)
  exact ⟨decodeRecord_writesOnlyOwn, hconf, (hydrate_laws ⟨"p", ""⟩).tables_kept decodeRecord
    setMetaDecoder (.table 1) nestedPayloadWorld decodeRecord_writesOnlyOwn hconf⟩

/-! ## A hook that reaches through the copy -/

/-- A pre-hook that reaches through the working table: it sets `k` to 2 in the table the
working table holds under `meta`, and keeps the working table. -/
def setNestedK : PreStage := fun _ current => do
  if let .table id := current then
    if let some (.table inner) := (← Run.tableEntries id).lookup "meta" then
      Run.setTable inner [("k", .int 2)]
  pure (.ok none)

/-- **The copy is shallow**: a pre-hook that sets `k` in the table the working copy holds under
`meta` sets it in the payload's own nested table, which the copy shares. -/
theorem nested_edit_reaches_payload :
    nestedPayloadWorld.tables[0]? = some [("k", .int 1)] ∧
      (Result.world (({ pre := [some setNestedK] } : Decoder).decode decodeRecord ⟨"p", ""⟩ (.table 1)
        nestedPayloadWorld)).tables[0]? = some [("k", .int 2)] :=
  ⟨rfl, rfl⟩

end Bindery.Record
