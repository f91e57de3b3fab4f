import Bindery.Yaml.Parse
import Bindery.Json.Basic
import Bindery.Text.Quoted
import Bindery.Text.Base64
import Bindery.Decimal.Layout
import Bindery.Decimal.Truncate

/-!
# Decoding YAML nodes

A document decodes into a target shape: data of any shape, texts, integers, tables keyed by text,
or records with named fields. Where a node does not fit its target the decoder records a problem
naming the node's line and goes on, so that every problem of a document is reported together, in
document order. Some faults stop decoding at once instead: a scalar whose explicit tag does not
fit its text, a cycle of aliases, a collection used as a key of untyped data, and a malformed
merge.

A mapping whose keys repeat is refused as a whole: each later key written like an earlier one is a
problem, and none of the mapping's entries is decoded. Keys are compared by their kind and their
text as written, so `1` and `"1"` are the same key.

A key `<<` merges the entries of the mapping (or mappings) it names into the mapping that holds
it, after the mapping's own entries; a merged entry never replaces one already there.

Data of any shape decodes scalars by their resolved meaning (a timestamp as the moment it names),
sequences into lists and mappings into tables keyed by the printed form of their keys. A text
target takes a scalar's text as written. An integer target takes integers, and floats up to the
largest integer, truncated.
Null leaves texts, integers and records as they were and makes data and tables empty.
-/

namespace Bindery.Yaml

inductive Shape where
  | any
  | text
  | int
  | table (value : Shape)
  | record (typeName : String) (fields : List (String × Shape)) (strict : Bool)
deriving Inhabited

def Shape.typeName : Shape → String
  | .any => "interface {}"
  | .text => "string"
  | .int => "int"
  | .table v => "map[string]" ++ v.typeName
  | .record name _ _ => name

/-- Decoded data: scalars by their meaning, with timestamps as the moments they name, sequences
as lists, and mappings as tables keyed by the printed form of their keys, in document order. -/
inductive Data where
  | null
  | bool (b : Bool)
  | int (i : Int)
  | float (f : Float)
  | str (s : String)
  | time (t : Time.Instant)
  | list (items : List Data)
  | table (entries : List (String × Data))
deriving Inhabited

mutual

/-- Data as a JSON document; a moment becomes its usual text. -/
def Data.json : Data → Json
  | .null => .null
  | .bool b => .bool b
  | .int i => .int i
  | .float f => .float f
  | .str s => .str s
  | .time t => .str t.text
  | .list items => .arr (Data.jsonItems items)
  | .table entries => .obj (Data.jsonEntries entries)

def Data.jsonItems : List Data → List Json
  | [] => []
  | x :: xs => x.json :: Data.jsonItems xs

def Data.jsonEntries : List (String × Data) → List (String × Json)
  | [] => []
  | (k, v) :: rest => (k, v.json) :: Data.jsonEntries rest

end

/-- The value part of a message about a scalar: its text, cut to seven bytes when longer than
ten. -/
def shownValue (text : String) : String :=
  let bytes := text.toUTF8.toList.map (·.toNat)
  if bytes.length > 10 then " `" ++ Text.ofUtf8Lossy (bytes.take 7) ++ "...`"
  else " `" ++ text ++ "`"

def unmarshalMessage (n : Node) (typeName : String) : String :=
  let tag := n.shortTag
  let value := match n with
    | .scalar text _ _ => text
    | _ => ""
  let shown := if tag == "!!seq" || tag == "!!map" then "" else shownValue value
  "line " ++ Decimal.natText n.line ++ ": cannot unmarshal " ++ tag ++ shown ++ " into " ++
    typeName

/-- The form a key is compared by: its kind and its text; collections have no text, and an
alias is compared by its name. -/
def Node.keyForm : Node → Nat × String
  | .scalar text _ _ => (0, text)
  | .seq _ _ _ => (1, "")
  | .map _ _ _ => (2, "")
  | .alias name _ _ | .cycle name _ _ => (3, name)

/-- The problems of the repeated keys of a mapping: one for each pair of a key and a later key of
the same form, by the earlier key first. -/
def repeatedKeys : List (Node × Node) → List String
  | [] => []
  | (k, _) :: rest =>
    ((rest.filter fun e => e.1.keyForm == k.keyForm).map fun e =>
      "line " ++ Decimal.natText e.1.line ++ ": mapping key " ++ Text.quoted e.1.keyForm.2 ++
        " already defined at line " ++ Decimal.natText k.line) ++ repeatedKeys rest

def Scalar.data : Scalar → Data
  | .null => .null
  | .bool b => .bool b
  | .int i => .int i
  | .uint n => .int n
  | .float f => .float f
  | .str s => .str s
  | .timestamp _ t => .time t

def keyText : Data → String
  | .null => "<nil>"
  | .bool b => if b then "true" else "false"
  | .int i => Decimal.intText i
  | .float f => Decimal.Layout.plainText.float f
  | .str s => s
  | .time t => t.text
  | _ => ""

/-- What a decoded key is compared by when merging: whether it is a text, and its printed
form. -/
def keyId (k : Data) : Bool × String :=
  match k with
  | .str s => (true, s)
  | other => (false, keyText other)

/-- Decoded data written as source code of the host language, as messages show it. -/
def goSyntax : Nat → Data → String
  | 0, _ => ""
  | _ + 1, .null => "interface {}(nil)"
  | _ + 1, .bool b => if b then "true" else "false"
  | _ + 1, .int i => Decimal.intText i
  | _ + 1, .float f => Decimal.Layout.plainText.float f
  | _ + 1, .str s => Text.quoted s
  | _ + 1, .time t => t.text
  | fuel + 1, .list items =>
    "[]interface {}\x7b" ++ ", ".intercalate (items.map (goSyntax fuel)) ++ "\x7d"
  | fuel + 1, .table fields =>
    let sorted := fields.mergeSort fun a b => decide (a.1 ≤ b.1)
    "map[string]interface {}\x7b" ++
      ", ".intercalate (sorted.map fun (k, v) => Text.quoted k ++ ":" ++ goSyntax fuel v) ++ "\x7d"

def isMergeKey : Node → Bool
  | .scalar "<<" tag _ => tag == "!!merge"
  | _ => false

/-- Whether every key of a mapping is a text, so that untyped data keys it by text. -/
def keysAreTexts (entries : List (Node × Node)) : Bool :=
  entries.all fun e => e.1.shortTag == "!!str" || e.1.shortTag == "!!merge"

def Shape.zero : Shape → Data
  | .any => .null
  | .text => .str ""
  | .int => .int 0
  | .table _ | .record _ _ _ => .table []

/-- Puts an entry into a table, replacing an entry of the same key in place. -/
def setEntry (entries : List (String × Data)) (k : String) (v : Data) : List (String × Data) :=
  if entries.any (·.1 == k) then entries.map fun e => if e.1 == k then (k, v) else e
  else entries ++ [(k, v)]

def mergeNeedsMap : String := "map merge requires map or sequence of maps as the value"

/-- The state of decoding the entries of mappings into one table or record. -/
structure TableState where
  entries : List (String × Data) := []
  problems : List String := []
  merged : Option (List (Bool × String)) := none
  done : List String := []

def decodeScalar (shape : Shape) (n : Node) (text tag : String) :
    Except String (Option Data × List String) := do
  let (rtag, value) ← resolve tag text
  let value ← if rtag == "!!binary" then
      match Text.base64Decode text with
      | .ok bytes => pure (Scalar.str (Text.ofUtf8Lossy bytes))
      | .error _ => throw "!!binary value contains invalid base64 data"
    else pure value
  let bad := (none, [unmarshalMessage n shape.typeName])
  match value with
  | .null =>
    match shape with
    | .any => pure (some .null, [])
    | .table _ => pure (some (.table []), [])
    | _ => pure (none, [])
  | _ =>
    match shape with
    | .any => pure (some value.data, [])
    | .text =>
      match value with
      | .str s => pure (some (.str (if rtag == "!!binary" then s else text)), [])
      | _ => pure (some (.str text), [])
    | .int =>
      match value with
      | .int i => pure (some (.int i), [])
      | .uint u => pure (if u < Nat.pow 2 63 then (some (.int u), []) else bad)
      | .float f =>
        if f ≤ 9223372036854775807.0 then pure (some (.int (Decimal.truncate f)), [])
        else pure bad
      | _ => pure bad
    | _ => pure bad

mutual

/-- Decodes a node into a target, at most `fuel` levels deep: the value when the target took one,
and the problems found; or the failure that stops decoding. -/
def decodeNode : Nat → Shape → Node → Except String (Option Data × List String)
  | 0, _, _ => .ok (none, [])
  | fuel + 1, shape, .alias _ target _ => decodeNode fuel shape target
  | _ + 1, shape, .cycle name inner _ =>
    match shape, inner with
    | .any, _ | .table _, .map _ _ _ | .record _ _ _, .map _ _ _ =>
      .error ("anchor '" ++ name ++ "' value contains itself")
    | _, _ => .ok (none, [unmarshalMessage inner shape.typeName])
  | _ + 1, shape, n@(.scalar text tag _) => decodeScalar shape n text tag
  | fuel + 1, shape, n@(.seq items _ _) =>
    match shape with
    | .any => do
      let mut values : Array Data := #[]
      let mut problems : List String := []
      for item in items do
        let (v, ps) ← decodeNode fuel .any item
        problems := problems ++ ps
        if let some j := v then values := values.push j
      pure (some (.list values.toList), problems)
    | _ => .ok (none, [unmarshalMessage n shape.typeName])
  | fuel + 1, shape, n@(.map entries _ _) =>
    let repeated := repeatedKeys entries
    if !repeated.isEmpty then .ok (none, repeated) else
    match shape with
    | .any => do
      let keys := if keysAreTexts entries then Shape.text else Shape.any
      let st ← decodeEntries fuel keys .any true entries {}
      pure (some (.table st.entries), st.problems)
    | .table value => do
      let st ← decodeEntries fuel .text value true entries {}
      pure (some (.table st.entries), st.problems)
    | .record name fields strict => do
      let st ← decodeFields fuel name fields strict entries {}
      pure (some (.table st.entries), st.problems)
    | _ => .ok (none, [unmarshalMessage n shape.typeName])

/-- Decodes the entries of a mapping into a table whose keys decode as `keys`, its values as
`value`; `fresh` tells whether the table is new rather than being merged into. -/
def decodeEntries : Nat → Shape → Shape → Bool → List (Node × Node) → TableState →
    Except String TableState
  | 0, _, _, _, _, st => .ok st
  | fuel + 1, keys, value, fresh, entries, st0 => do
    let mut st := { st0 with merged := none }
    let mut merged := st0.merged
    let mut mergeNode : Option Node := none
    for (k, v) in entries do
      if isMergeKey k then
        mergeNode := some v
        continue
      let (kv, kps) ← decodeNode fuel keys k
      st := { st with problems := st.problems ++ kps }
      let some kj := kv | continue
      if let some m := merged then
        if m.contains (keyId kj) then continue
        merged := some (keyId kj :: m)
      match kj with
      | .list _ | .table _ => throw ("invalid map key: " ++ goSyntax (fuel + 1) kj)
      | _ => pure ()
      let (vv, vps) ← decodeNode fuel value v
      st := { st with problems := st.problems ++ vps }
      let keyName := keyText kj
      match vv with
      | some j => st := { st with entries := setEntry st.entries keyName j }
      | none =>
        if v.shortTag == "!!null" && (fresh || !st.entries.any (·.1 == keyName)) then
          st := { st with entries := setEntry st.entries keyName value.zero }
    st := { st with merged }
    match mergeNode with
    | none => pure st
    | some m => mergeInto fuel (fun st n => decodeEntries fuel keys value false n st) entries m st

def decodeFields : Nat → String → List (String × Shape) → Bool → List (Node × Node) →
    TableState → Except String TableState
  | 0, _, _, _, _, st => .ok st
  | fuel + 1, name, fields, strict, entries, st0 => do
    let mut st := { st0 with merged := none, done := [] }
    let mut merged := st0.merged
    let mut mergeNode : Option Node := none
    for (k, v) in entries do
      if isMergeKey k then
        mergeNode := some v
        continue
      let (kv, kps) ← decodeNode fuel .text k
      st := { st with problems := st.problems ++ kps }
      let some (.str field) := kv | continue
      if let some m := merged then
        if m.contains (true, field) then continue
        merged := some ((true, field) :: m)
      match fields.lookup field with
      | some shape =>
        if st.done.contains field then
          st := { st with problems := st.problems ++ ["line " ++ Decimal.natText k.line ++
            ": field " ++ field ++ " already set in type " ++ name] }
        else
          st := { st with done := st.done ++ [field] }
          let (vv, vps) ← decodeNode fuel shape v
          st := { st with problems := st.problems ++ vps }
          if let some j := vv then st := { st with entries := setEntry st.entries field j }
      | none =>
        if strict then
          st := { st with problems := st.problems ++ ["line " ++ Decimal.natText k.line ++
            ": field " ++ field ++ " not found in type " ++ name] }
    st := { st with merged }
    match mergeNode with
    | none => pure st
    | some m =>
      mergeInto fuel (fun st n => decodeFields fuel name fields strict n st) entries m st

/-- Merges the mappings a merge key names into a table, with `into` decoding one mapping's
entries; the keys of the mapping holding the merge key stay. -/
def mergeInto : Nat → (TableState → List (Node × Node) → Except String TableState) →
    List (Node × Node) → Node → TableState → Except String TableState
  | 0, _, _, _, st => .ok st
  | fuel + 1, into, parentEntries, source, st0 => do
    let outer := st0.merged
    let mut st := st0
    if st.merged.isNone then
      let mut present : List (Bool × String) := []
      for (k, _) in parentEntries do
        let (kv, kps) ← decodeNode fuel .any k
        st := { st with problems := st.problems ++ kps }
        if let some kj := kv then present := keyId kj :: present
      st := { st with merged := some present }
    let one (st : TableState) (n : Node) : Except String TableState := do
      let repeated := match n.target with
        | .map entries _ _ => repeatedKeys entries
        | _ => []
      if !repeated.isEmpty then return { st with problems := st.problems ++ repeated }
      match n with
      | .cycle name _ _ => throw ("anchor '" ++ name ++ "' value contains itself")
      | _ =>
        match n.target with
        | .map entries _ _ => into st entries
        | _ => pure st
    let isMap (n : Node) : Bool :=
      match n.target with
      | .map _ _ _ => true
      | .cycle _ (.map _ _ _) _ => true
      | _ => false
    match source with
    | .map _ _ _ => st ← one st source
    | .alias _ (.map _ _ _) _ | .cycle _ (.map _ _ _) _ => st ← one st source
    | .seq items _ _ =>
      for item in items do
        match item with
        | .alias _ _ _ | .cycle _ _ _ =>
          if !isMap item then throw mergeNeedsMap
        | .map _ _ _ => pure ()
        | _ => throw mergeNeedsMap
        st ← one st item
    | _ => throw mergeNeedsMap
    pure { st with merged := outer }

end

def unmarshalErrors (problems : List String) : String :=
  "yaml: unmarshal errors:\n  " ++ "\n  ".intercalate problems

/-- Reads the first document of a text into a target: the decoded value (none when the document
is empty or the target took nothing), or the message of the first problem. -/
def readInto (shape : Shape) (source : String) : Except String (Option Data) :=
  match readDocument source with
  | .error p => .error p.text
  | .ok none => .ok none
  | .ok (some root) =>
    match decodeNode (source.length + 2) shape root with
    | .error m => .error ("yaml: " ++ m)
    | .ok (value, problems) =>
      if problems.isEmpty then .ok value else .error (unmarshalErrors problems)

/-- Reads a document of any shape; an empty document is null. -/
def readData (source : String) : Except String Data :=
  (readInto .any source).map (·.getD .null)

end Bindery.Yaml
