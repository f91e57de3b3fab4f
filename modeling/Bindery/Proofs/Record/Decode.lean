import Bindery.Record.Decode
import Bindery.Proofs.Scope.Reporting

/-!
# What decoding a record guarantees

Decoding is built from a few steps on the world, and a property of runs closed under the monad
that those steps have, decoding has too (`DecodeSteps`). So decoding never stops early: every
problem it meets is returned as a value. A field takes the
entry of its own name, or else one whose name equals it up to case, so every key a decode uses
names a field of the schema up to case. A table with an entry whose key names no field, not even
up to case, thus leaves that entry unused, and decoding refuses it when the options refuse
unused entries.

Main statements: `decodeRecord_refuses_unknown`, and `decodeRecord_refusesUnused`: the library's
decoder meets `RecordDecoder.RefusesUnused`, what describing a definition table asks of a record
decoder.
-/

namespace Bindery.Text

@[simp] theorem equalFold_self (a : String) : equalFold a a = true := by
  simp [equalFold]

end Bindery.Text

namespace Bindery.Record

open Run

/-! ## Decoding is built from a few steps -/

/-- The steps decoding is built from, each with a property of runs that running one run after
another keeps: the steps of telling the observers (reading the world, labelling a scope, changing
only what observers keep), and making a list or a table. Encoding and decoding then have the
property too. -/
structure DecodeSteps (Q : {α : Type} → Run α → Prop) : Prop extends Scope.ObserverSteps Q where
  list : ∀ items, Q (Run.newList items)
  table : ∀ entries, Q (Run.newTable entries)

namespace DecodeSteps

variable {Q : {α : Type} → Run α → Prop}

/-- Encoding follows tables, lists and boxes by reading them, and at most names scopes. -/
theorem encode (hQ : DecodeSteps Q) : ∀ (depth : Nat) (v : Value), Q (encodeWith depth v)
  | 0, _ => hQ.pure' _
  | depth + 1, v => by
    have ih : ∀ x, Q (encodeWith depth x) := encode hQ depth
    unfold encodeWith
    -- each kind of value is read from the world and encoded one level further down
    split
    all_goals first
      | exact hQ.pure' _
      | exact hQ.bind (hQ.mapM' fun x _ => ih x) fun _ => hQ.pure' _
      | exact hQ.bind (hQ.view _) fun _ =>
          hQ.bind (hQ.mapM' fun _ _ => hQ.bind (ih _) fun _ => hQ.pure' _) fun _ => hQ.pure' _
      | exact hQ.bind (hQ.mapM' fun _ _ => hQ.bind (ih _) fun _ => hQ.bind (ih _) fun _ =>
          hQ.pure' _) fun _ => hQ.pure' _
      | exact hQ.bind (hQ.view _) fun _ => hQ.bind (hQ.mapM' fun x _ => ih x) fun _ => hQ.pure' _
      | exact hQ.bind (hQ.view _) fun _ => hQ.bind (ih _) fun _ => hQ.pure' _
      | exact hQ.view _
      | exact hQ.bind (hQ.label _) fun _ => hQ.pure' _

theorem problem (hQ : DecodeSteps Q) (name : String) (t : FieldType) (v : Value) :
    Q (unconvertible name t v) :=
  hQ.bind (hQ.encode _ _) fun _ => hQ.pure' _

theorem scalar (hQ : DecodeSteps Q) (o : Options) (name : String) (t : FieldType) (v : Value) :
    Q (decodeScalar o name t v) := by
  have hbad : Q (do pure (Except.error (← unconvertible name t v)) :
      Run (Except Problem Value)) :=
    hQ.bind (hQ.problem name t v) fun _ => hQ.pure' _
  unfold decodeScalar
  dsimp only
  -- every branch returns the value, the problem of a parse, or the unconvertible problem
  split <;> (repeat' split) <;> first | exact hQ.pure' _ | exact hbad

theorem field (hQ : DecodeSteps Q) (o : Options) (name : String) (t : FieldType) (v : Value) :
    Q (decodeField o name t v) := by
  unfold decodeField
  split
  · exact hQ.pure' _
  split
  · exact hQ.pure' _
  · exact hQ.pure' _
  -- each branch reads tables, makes lists and tables, or decodes scalars
  split
  · -- a list of texts: each item is decoded as a text
    refine hQ.bind (hQ.forIn' fun _ _ _ => ?_) fun _ =>
      hQ.ite' (hQ.bind (hQ.list _) fun _ => hQ.pure' _) (hQ.pure' _)
    dsimp only
    repeat' split
    all_goals first
      | exact hQ.pure' _
      | exact hQ.bind (hQ.scalar _ _ _ _) fun r => by cases r <;> exact hQ.pure' _
  · -- a table where texts are expected
    refine hQ.ite' (hQ.pure' _) (hQ.bind (hQ.view _) fun _ =>
      hQ.ite' (hQ.bind (hQ.list _) fun _ => hQ.pure' _)
        (hQ.bind (hQ.scalar _ _ _ _) fun r => ?_))
    cases r
    · exact hQ.pure' _
    · exact hQ.bind (hQ.list _) fun _ => hQ.pure' _
  · -- a single value where texts are expected
    refine hQ.ite' (hQ.pure' _) (hQ.bind (hQ.scalar _ _ _ _) fun r => ?_)
    cases r
    · exact hQ.pure' _
    · exact hQ.bind (hQ.list _) fun _ => hQ.pure' _
  · -- a table: its keys and values pass through the hooks
    refine hQ.bind (hQ.view _) fun _ => hQ.bind (hQ.forIn' fun _ _ _ => ?_) fun _ =>
      hQ.ite' (hQ.bind (hQ.table _) fun _ => hQ.pure' _) (hQ.pure' _)
    dsimp only
    repeat' split
    all_goals exact hQ.pure' _
  · exact hQ.pure' _
  · exact hQ.bind (hQ.scalar _ _ _ _) fun r => by cases r <;> exact hQ.pure' _

theorem scan (hQ : DecodeSteps Q) (o : Options) (entries : List (String × Value)) (s : Scan)
    (f : Field) : Q (scanField o entries s f) := by
  unfold scanField
  split
  · exact hQ.pure' _
  · exact hQ.bind (hQ.field _ _ _ _) fun r => by rcases r with _ | _ | _ <;> exact hQ.pure' _

theorem record (hQ : DecodeSteps Q) (o : Options) (schema : List Field) (payload : Value) :
    Q (decodeRecord o schema payload) := by
  unfold decodeRecord
  split
  · exact hQ.pure' _
  · exact hQ.bind (hQ.view _) fun _ =>
      hQ.bind (hQ.foldlM' fun _ _ _ => hQ.scan _ _ _ _) fun _ => hQ.ite' (hQ.pure' _) (hQ.pure' _)
  · exact hQ.pure' _

end DecodeSteps

/-! ## Decoding never stops early -/

section Avoids

variable {bad : Interrupt → Prop}

theorem newList_avoids (items : List Value) : Avoids bad (Run.newList items) :=
  .bind (.modifyGet' _) fun _ => .pure' _

theorem newTable_avoids (entries : List (String × Value)) : Avoids bad (Run.newTable entries) :=
  .modifyGet' _

/-- Decoding never stops early. -/
theorem avoids_steps : DecodeSteps (Avoids bad) :=
  { Scope.avoids_observers with
    list := newList_avoids
    table := newTable_avoids }

/-- Decoding a record never stops early: its problems are its result. -/
theorem decodeRecord_avoids (o : Options) (schema : List Field) (payload : Value) :
    Avoids bad (decodeRecord o schema payload) :=
  avoids_steps.record o schema payload

end Avoids

/-! ## The keys a decode uses -/

/-- The entry a field takes has the field's name, up to case. -/
theorem entryFor_key {entries : List (String × Value)} {f : Field} {e : String × Value}
    (h : entryFor entries f = some e) : Text.equalFold e.1 f.name = true := by
  unfold entryFor at h
  split at h
  next e' he =>
    -- the entry of the field's own name
    rw [← Option.some.inj h]
    have hname : e'.1 = f.name := by simpa using List.find?_some he
    rw [hname, Text.equalFold_self]
  next =>
    have hfold := List.find?_some h
    simpa using hfold

/-- Every key the scan of a schema uses names one of its fields, up to case. -/
theorem foldlM_scanField_used (o : Options) (entries : List (String × Value))
    (schema : List Field) :
    Returns (fun s : Scan => ∀ k ∈ s.used, ∃ f ∈ schema, Text.equalFold k f.name = true)
      (schema.foldlM (scanField o entries) {}) := by
  refine Returns.foldlM (by simp) fun f hf s hs => ?_
  unfold scanField
  split
  · exact Returns.pure' hs
  · -- the field takes the entry it found, whatever decoding its value gives
    rename_i key v he
    have hused : ∀ k ∈ s.used ++ [key], ∃ f ∈ schema, Text.equalFold k f.name = true := by
      intro k hk
      rcases List.mem_append.mp hk with hk | hk
      · exact hs k hk
      · rw [List.mem_singleton.mp hk]
        exact ⟨f, hf, entryFor_key he⟩
    exact Returns.bind fun r => by rcases r with _ | _ | _ <;> exact Returns.pure' hused

/-- **A table with an entry that names no field is refused** when unused entries are, among the
other problems: the entry is listed as an invalid key. -/
theorem decodeRecord_refuses_unknown (o : Options) (schema : List Field) (id : Nat) (w : World)
    (hunused : o.errorUnused = true)
    (hrecord : applyHooks o.hooks .record (.table id) = .ok (.table id))
    (k : String) (hk : k ∈ (w.tables[id]?.getD []).map Prod.fst)
    (hnone : ∀ f ∈ schema, Text.equalFold k f.name = false) :
    ∃ ms unused w', decodeRecord o schema (.table id) w = .ok (.error (.many ms)) w' ∧
      k ∈ unused ∧ ("'' has invalid keys: " ++ ", ".intercalate unused) ∈ ms := by
  have htotal : Avoids (fun _ => True) (schema.foldlM (scanField o (w.tables[id]?.getD [])) {}) :=
    .foldlM' fun c f _ => avoids_steps.scan o _ c f
  obtain ⟨s, w1, hs⟩ := htotal.returns w
  -- the entry is not used: every used key names a field up to case, and it names none
  have hk_unused : k ∉ s.used := by
    intro hmem
    obtain ⟨f, hf, hfold⟩ := foldlM_scanField_used o _ schema w s w1 hs k hmem
    rw [hnone f hf] at hfold
    cases hfold
  unfold decodeRecord
  rw [hrecord]
  dsimp only
  rw [bind_run_ok (show Run.tableEntries id w = .ok (w.tables[id]?.getD []) w from rfl),
    bind_run_ok hs]
  have hku : k ∈
      (((w.tables[id]?.getD []).map (·.1)).filter fun k => !s.used.contains k).mergeSort
        (fun a b => decide (a ≤ b)) := by
    rw [List.mem_mergeSort, List.mem_filter]
    exact ⟨hk, by simpa using hk_unused⟩
  have hne := List.isEmpty_eq_false_iff.mpr (List.ne_nil_of_mem hku)
  -- the unused entries are listed among the problems, so there are some
  simp only [hunused, hne, Bool.not_false, Bool.and_self, if_true]
  rw [if_neg (by simp)]
  exact ⟨_, _, w1, rfl, hku, by simp⟩

/-- A record decoder that refuses unused entries under options and a schema: decoding a table with
an entry whose key names no field of the schema, not even up to case, returns a problem. This is
what a decoder promises when it is asked to report unused keys. -/
def RecordDecoder.RefusesUnused (record : RecordDecoder) (o : Options) (schema : List Field) :
    Prop :=
  ∀ id (w : World) key, key ∈ (w.tables[id]?.getD []).map Prod.fst →
    (∀ f ∈ schema, Text.equalFold key f.name = false) →
    ∃ p w', record o schema (.table id) w = .ok (.error p) w'

/-- The library's record decoder refuses unused entries when its options do, and its hooks keep
tables. -/
theorem decodeRecord_refusesUnused (o : Options) (schema : List Field)
    (hunused : o.errorUnused = true)
    (hrecord : ∀ id, applyHooks o.hooks .record (.table id) = .ok (.table id)) :
    RecordDecoder.RefusesUnused decodeRecord o schema := by
  intro id w key hk hnone
  obtain ⟨ms, -, w', hrun, -, -⟩ :=
    decodeRecord_refuses_unknown o schema id w hunused (hrecord id) key hk hnone
  exact ⟨_, w', hrun⟩

end Bindery.Record
