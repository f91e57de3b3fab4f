import Bindery.Record.Decode

/-!
# Hydrating records from payloads

A decoder turns a payload table into a sample record in three stages. Pre-hooks run in order
on a working table, which starts as a shallow copy of the payload: each is handed the table the
one before it gave, may change it, and gives the next table, or nothing to keep it, or fails.
Then either a custom decoder builds the record from the working table, or the record decoder
fills it with the configured options. Post-hooks run in order on the record and adjust it or
fail. Every failure names the stage and the payload's name. Hooks and custom decoders are any
computations of the runtime; an absent one is skipped.

The sample hooks change entries of the working table, replace it, keep it, or fail, each
recording the sorted keys it saw; the sample post-hooks adjust the name and the count.

The sample record has a text `name`, an integer `count`, a boolean `enabled`, a list of texts
`tags`, a float `ratio` and a table `meta` (kept as `metadata`); fields the payload does not
fill keep their zero values.
-/

namespace Bindery.Record

structure Context where
  name : String
  source : String

inductive PreHook where
  | mutate (entries : List (String × Value))
  | replace (entries : List (String × Value))
  | keep
  | fail (message : String)

inductive PostHook where
  | adjust (suffix : String) (add : Int)
  | fail (message : String)

inductive CustomDecoder where
  | count (name : String)
  | fail (message : String)

/-- Settings applied to the record decoder's configuration. -/
inductive Setting where
  | errorUnset
  | badResult

structure Sample where
  name : String := ""
  count : Int := 0
  enabled : Bool := false
  tags : Option Value := none
  ratio : Float := 0
  metadata : Option Value := none
deriving Inhabited

def sampleSchema : List Field :=
  [⟨"name", .string⟩, ⟨"count", .int⟩, ⟨"enabled", .bool⟩, ⟨"tags", .strings⟩, ⟨"ratio", .float⟩,
    ⟨"meta", .table⟩]

def Sample.ofFields (fields : List (String × Value)) : Sample :=
  fields.foldl (fun s (k, v) =>
    match k, v with
    | "name", .str x => { s with name := x }
    | "count", .int x => { s with count := x }
    | "enabled", .bool x => { s with enabled := x }
    | "tags", x => { s with tags := some x }
    | "ratio", .float x => { s with ratio := x }
    | "meta", x => { s with metadata := some x }
    | _, _ => s) {}

/-- A pre-hook as decoding runs it: handed the payload's context and the working table, it gives
the table to go on with (`none` keeps the working table) or the message of its failure. -/
abbrev PreStage := Context → Value → Run (Except String (Option Value))

/-- A custom decoder as decoding runs it: the record it builds from the working table, or the
message of its failure. -/
abbrev DecodeStage := Context → Value → Run (Except String Sample)

/-- A post-hook as decoding runs it: the adjusted record, or the message of its failure. -/
abbrev PostStage := Context → Sample → Run (Except String Sample)

/-- A decoder: its stages in the order they were configured, absent ones included, and its
options. -/
structure Decoder where
  pre : List (Option PreStage) := []
  post : List (Option PostStage) := []
  options : Options := {}
  settings : List Setting := []
  custom : Option DecodeStage := none

def sortedKeys (entries : List (String × Value)) : List String :=
  (entries.map (·.1)).mergeSort fun a b => decide (a ≤ b)

/-- Sets entries of a table's entries, replacing those of the same keys. -/
def setEntries (entries updates : List (String × Value)) : List (String × Value) :=
  updates.foldl (fun es (k, v) =>
    if es.any (·.1 == k) then es.map fun (k', v') => if k' == k then (k', v) else (k', v')
    else es ++ [(k, v)]) entries

def stageFault (stage : String) (ctx : Context) (message : String) : Fault :=
  .text ("hydrate: " ++ stage ++ " for " ++ Text.quoted ctx.name ++ " failed: " ++ message)

/-- What a sample pre-hook does. It records the sorted keys of the working table with
`observe`, then sets entries of the working table and hands it on, hands on a new table, keeps
the working table, or fails. -/
def PreHook.stage (observe : Context → List String → Run Unit) : PreHook → PreStage
  | h, ctx, current => do
    let entries ← match current with
      | .table id => Run.tableEntries id
      | _ => pure []
    observe ctx (sortedKeys entries)
    match h with
    | .mutate updates =>
      match current with
      | .table id => Run.setTable id (setEntries entries updates)
      | _ => pure ()
      pure (.ok (some current))
    | .replace fresh => pure (.ok (some (← Run.newTable fresh)))
    | .keep => pure (.ok none)
    | .fail m => pure (.error m)

def PostHook.stage : PostHook → PostStage
  | .adjust suffix add, _, s => pure (.ok { s with name := s.name ++ suffix, count := s.count + add })
  | .fail m, _, _ => pure (.error m)

/-- What a sample custom decoder does: it names the record and counts the working table's keys. -/
def CustomDecoder.stage : CustomDecoder → DecodeStage
  | .count name, _, current => do
    let n ← match current with
      | .table cid => do pure (← Run.tableEntries cid).length
      | _ => pure 0
    pure (.ok { name, count := n })
  | .fail m, _, _ => pure (.error m)

/-- Runs the pre-hooks in order on the working table: the table to decode, or the failure. -/
def runPreHooks (ctx : Context) : List (Option PreStage) → Value → Run (Except Fault Value)
  | [], current => pure (.ok current)
  | none :: rest, current => runPreHooks ctx rest current
  | some h :: rest, current => do
    match ← h ctx current with
    | .error m => pure (.error (stageFault "pre-hook" ctx m))
    | .ok next => runPreHooks ctx rest (next.getD current)

def runPostHooks (ctx : Context) : List (Option PostStage) → Sample → Run (Except Fault Sample)
  | [], s => pure (.ok s)
  | none :: rest, s => runPostHooks ctx rest s
  | some h :: rest, s => do
    match ← h ctx s with
    | .error m => pure (.error (stageFault "post-hook" ctx m))
    | .ok s => runPostHooks ctx rest s

/-- Decodes the working table into the sample record: by the custom decoder if there is one,
else by the record decoder with the configured options. -/
def Decoder.decodeTable (record : RecordDecoder) (d : Decoder) (ctx : Context) (current : Value) :
    Run (Except Fault Sample) :=
  match d.custom with
  | some custom => do
    match ← custom ctx current with
    | .error m => pure (.error (stageFault "custom decoder" ctx m))
    | .ok s => pure (.ok s)
  | none =>
    if d.settings.any (fun s => match s with | .badResult => true | _ => false) then
      pure (.error (.text ("hydrate: configure decoder for " ++ Text.quoted ctx.name ++
        ": result must be a pointer")))
    else do
      let unset := d.settings.any fun s => match s with | .errorUnset => true | _ => false
      let options := { d.options with errorUnset := d.options.errorUnset || unset }
      match ← record options sampleSchema current with
      | .ok fields => pure (.ok (Sample.ofFields fields))
      | .error p => pure (.error (.text ("hydrate: decode " ++ Text.quoted ctx.name ++ ": " ++
          p.text)))

def Decoder.decode (record : RecordDecoder) (d : Decoder) (ctx : Context) (payload : Value) :
    Run (Except Fault Sample) := do
  let .table id := payload
    | pure (.error (.text ("hydrate: payload is nil for " ++ Text.quoted ctx.name)))
  let copy ← Run.newTable (← Run.tableEntries id)
  match ← runPreHooks ctx d.pre copy with
  | .error e => pure (.error e)
  | .ok current =>
    match ← d.decodeTable record ctx current with
    | .error e => pure (.error e)
    | .ok s => runPostHooks ctx d.post s

end Bindery.Record
