import Bindery.Value.Encode
import Bindery.Decimal.Read
import Bindery.Decimal.Truncate
import Bindery.Text.Case

/-!
# Decoding tables into records

A record schema is a list of named, typed fields. `decodeRecord` fills a record from a table: each
field takes the entry of its own name, or else an entry whose name equals it up to case; absent
and nil entries leave the field at its zero value. A value must have the field's type, except that
a float fills an integer field by truncation and, with weak typing, texts, booleans and numbers
convert into each other and a single value fills a list. Decode hooks transform every value before
it is decoded, the table itself and the keys of table fields included. The problems of all fields are collected; entries no
field used, and fields no entry filled, are problems when the options say so.
-/

namespace Bindery.Record

inductive FieldType where
  | string
  | int
  | bool
  | float
  | strings
  | table
  | compile
  | any
deriving BEq, Repr, Inhabited

def FieldType.text : FieldType → String
  | .string => "string"
  | .int => "int"
  | .bool => "bool"
  | .float => "float64"
  | .strings => "[]string"
  | .table => "map[string]interface {}"
  | .compile => "compile.CompileFunc"
  | .any => "interface {}"

structure Field where
  name : String
  type : FieldType
deriving Inhabited

/-- Where a decode hook is applied: to the whole record or to a value of a field type. -/
inductive Target where
  | record
  | field (t : FieldType)
deriving BEq, Inhabited

inductive Hook where
  | upper
  | trim
  | fail
  | compileStep
deriving BEq, Inhabited

structure Options where
  weak : Bool := false
  errorUnused : Bool := false
  errorUnset : Bool := false
  hooks : List Hook := []
deriving Inhabited

/-- A problem found while decoding: one message, or a collection from a nested decode. -/
inductive Problem where
  | one (message : String)
  | many (messages : List String)
deriving Inhabited

/-- The messages of a problem, to be added to a collection. -/
def Problem.messages : Problem → List String
  | .one m => [m]
  | .many ms => ms

/-- The text of a problem: a collection is counted and listed in sorted order. -/
def Problem.text : Problem → String
  | .one m => m
  | .many ms =>
    let points := (ms.map ("* " ++ ·)).mergeSort (fun a b => decide (a ≤ b))
    Decimal.natText ms.length ++ " error(s) decoding:\n\n" ++ "\n".intercalate points

def Hook.apply (h : Hook) (target : Target) (v : Value) : Except String Value :=
  match h, v with
  | .upper, .str s => .ok (.str (Text.upper s))
  | .trim, .str s => .ok (.str (Text.trim s))
  | .fail, _ => .error "decode hook failed"
  | .compileStep, .func (.recorder shape label failure) =>
    if target == .field .compile then .ok (.func (.recorder shape label failure)) else .ok v
  | _, _ => .ok v

def applyHooks (hooks : List Hook) (target : Target) (v : Value) : Except String Value :=
  hooks.foldlM (fun v h => h.apply target v) v

/-- The kind of a value, as messages about shapes name it. -/
def kindName : Value → String
  | .bool _ => "bool"
  | .int _ => "int"
  | .uint _ => "uint64"
  | .float _ => "float64"
  | .str _ => "string"
  | .list .. | .strings _ | .bytes _ | .descriptors _ => "slice"
  | .table _ => "map"
  | .func _ | .providerFunc _ => "func"
  | .invocable .. | .ctor _ | .definition _ false => "struct"
  | _ => "ptr"

def unconvertible (name : String) (t : FieldType) (v : Value) : Run Problem := do
  let shown := (← encode v).plainText
  pure (.one ("'" ++ name ++ "' expected type '" ++ t.text ++ "', got unconvertible type '" ++
    v.typeName ++ "', value: '" ++ shown ++ "'"))

/-- The text of a float in fixed notation, as weak typing writes it into a text field. -/
def fixedText (f : Float) : String :=
  let l : Decimal.Layout := { Decimal.Layout.plainText with leastPlain := -100000, firstExponent := 100000 }
  l.float f

def decodeScalar (o : Options) (name : String) (t : FieldType) (v : Value) :
    Run (Except Problem Value) := do
  let bad : Run (Except Problem Value) := do pure (.error (← unconvertible name t v))
  match t, v with
  | .string, .str s => pure (.ok (.str s))
  | .string, .bool b => if o.weak then pure (.ok (.str (if b then "1" else "0"))) else bad
  | .string, .int i => if o.weak then pure (.ok (.str (Decimal.intText i))) else bad
  | .string, .float f => if o.weak then pure (.ok (.str (fixedText f))) else bad
  | .int, .int i => pure (.ok (.int i))
  | .int, .float f => pure (.ok (.int (Decimal.truncate f)))
  | .int, .bool b => if o.weak then pure (.ok (.int (if b then 1 else 0))) else bad
  | .int, .str s =>
    if !o.weak then bad else
    match Decimal.readInt (if s.isEmpty then "0" else s) with
    | .ok i => pure (.ok (.int i))
    | .error e => pure (.error (.one ("cannot parse '" ++ name ++ "' as int: " ++
        e.message "ParseInt" s)))
  | .bool, .bool b => pure (.ok (.bool b))
  | .bool, .int i => if o.weak then pure (.ok (.bool (i != 0))) else bad
  | .bool, .float f => if o.weak then pure (.ok (.bool (f != 0))) else bad
  | .bool, .str s =>
    if !o.weak then bad else
    match Decimal.readBool s with
    | .ok b => pure (.ok (.bool b))
    | .error e =>
      if s.isEmpty then pure (.ok (.bool false))
      else pure (.error (.one ("cannot parse '" ++ name ++ "' as bool: " ++ e.message "ParseBool" s)))
  | .float, .int i => pure (.ok (.float (Float.ofInt i)))
  | .float, .float f => pure (.ok (.float f))
  | .float, .bool b => if o.weak then pure (.ok (.float (if b then 1 else 0))) else bad
  | .float, .str s =>
    if !o.weak then bad else
    match Decimal.readFloat (if s.isEmpty then "0" else s) with
    | .ok f => pure (.ok (.float f))
    | .error e => pure (.error (.one ("cannot parse '" ++ name ++ "' as float: " ++
        e.message "ParseFloat" s)))
  | .compile, .func (.recorder ..) => pure (.ok v)
  | .compile, .func (.reporter _) => pure (.ok v)
  | .any, _ => pure (.ok v)
  | _, _ => bad

/-- Decodes a value into a field type, after the hooks; nil leaves the field unset. -/
def decodeField (o : Options) (name : String) (t : FieldType) (v : Value) :
    Run (Except Problem (Option Value)) := do
  match v with
  | .nil => pure (.ok none)
  | _ =>
  match applyHooks o.hooks (.field t) v with
  | .error m => pure (.error (.one ("error decoding '" ++ name ++ "': " ++ m)))
  | .ok .nil => pure (.ok none)
  | .ok v =>
    match t, v with
    | .strings, .list _ items => do
      let mut out : List Value := []
      let mut problems : List String := []
      for (item, i) in items.zipIdx do
        let itemName := name ++ "[" ++ Decimal.natText i ++ "]"
        match item with
        | .nil => out := out ++ [.str ""]
        | _ =>
          match applyHooks o.hooks (.field .string) item with
          | .error m => problems := problems ++ ["error decoding '" ++ itemName ++ "': " ++ m]
          | .ok item =>
            match ← decodeScalar o itemName .string item with
            | .ok x => out := out ++ [x]
            | .error p => problems := problems ++ p.messages
      if problems.isEmpty then pure (.ok (some (← Run.newList out)))
      else pure (.error (.many problems))
    | .strings, .table id => do
      if !o.weak then
        pure (.error (.one ("'" ++ name ++ "': source data must be an array or slice, got map")))
      else if (← Run.tableEntries id).isEmpty then pure (.ok (some (← Run.newList [])))
      else
        match ← decodeScalar o (name ++ "[0]") .string v with
        | .ok x => pure (.ok (some (← Run.newList [x])))
        | .error p => pure (.error (.many p.messages))
    | .strings, other =>
      if !o.weak then
        pure (.error (.one ("'" ++ name ++ "': source data must be an array or slice, got " ++
          kindName other)))
      else
        match ← decodeScalar o (name ++ "[0]") .string other with
        | .ok x => pure (.ok (some (← Run.newList [x])))
        | .error p => pure (.error (.many p.messages))
    | .table, .table id => do
      let entries ← Run.tableEntries id
      let mut out : List (String × Value) := []
      let mut problems : List String := []
      for (key, x) in entries do
        let entryName := name ++ "[" ++ key ++ "]"
        match applyHooks o.hooks (.field .string) (.str key) with
        | .error m => problems := problems ++ ["error decoding '" ++ entryName ++ "': " ++ m]
        | .ok k =>
          let key := match k with
            | .str k => k
            | _ => key
          match x with
          | .nil => out := out ++ [(key, .nil)]
          | _ =>
            match applyHooks o.hooks (.field .any) x with
            | .error m => problems := problems ++ ["error decoding '" ++ entryName ++ "': " ++ m]
            | .ok x => out := out ++ [(key, x)]
      if problems.isEmpty then pure (.ok (some (← Run.newTable out)))
      else pure (.error (.many problems))
    | .table, other =>
      pure (.error (.one ("'" ++ name ++ "' expected a map, got '" ++ kindName other ++ "'")))
    | _, _ => do
      match ← decodeScalar o name t v with
      | .ok x => pure (.ok (some x))
      | .error p => pure (.error p)

/-- What decoding gathers while it goes through the fields of a schema: the fields filled, the
table's keys they used, the fields no entry filled, and the problems found. -/
structure Scan where
  filled : List (String × Value) := []
  used : List String := []
  unset : List String := []
  problems : List String := []

/-- The entry a field takes: the entry of its own name, or else one whose name equals it up to
case. -/
def entryFor (entries : List (String × Value)) (f : Field) : Option (String × Value) :=
  match entries.find? (·.1 == f.name) with
  | some e => some e
  | none => entries.find? fun e => Text.equalFold e.1 f.name

def scanField (o : Options) (entries : List (String × Value)) (s : Scan) (f : Field) : Run Scan := do
  match entryFor entries f with
  | none => pure { s with unset := s.unset ++ [f.name] }
  | some (key, v) =>
    let s := { s with used := s.used ++ [key] }
    match ← decodeField o f.name f.type v with
    | .ok (some x) => pure { s with filled := s.filled ++ [(f.name, x)] }
    | .ok none => pure s
    | .error p => pure { s with problems := s.problems ++ p.messages }

/-- A record decoder: what a value decodes to under options, as the value of each field of a
schema that was filled, or the problem. Hydrating and describing directives are written against
any record decoder; the library runs `decodeRecord`. -/
abbrev RecordDecoder := Options → List Field → Value → Run (Except Problem (List (String × Value)))

/-- Decodes a table into a record of a schema: the value of each field that was filled, or the
problem. -/
def decodeRecord (o : Options) (schema : List Field) (payload : Value) :
    Run (Except Problem (List (String × Value))) := do
  match applyHooks o.hooks .record payload with
  | .error m => pure (.error (.one ("error decoding '': " ++ m)))
  | .ok (.table id) => do
    let entries ← Run.tableEntries id
    let s ← schema.foldlM (scanField o entries) {}
    let sorted (xs : List String) := xs.mergeSort (fun a b => decide (a ≤ b))
    let unused := sorted ((entries.map (·.1)).filter fun k => !s.used.contains k)
    let problems := s.problems ++
      (if o.errorUnused && !unused.isEmpty then
        ["'' has invalid keys: " ++ ", ".intercalate unused] else []) ++
      (if o.errorUnset && !s.unset.isEmpty then
        ["'' has unset fields: " ++ ", ".intercalate (sorted s.unset)] else [])
    if problems.isEmpty then pure (.ok s.filled) else pure (.error (.many problems))
  | .ok other => pure (.error (.one ("'' expected a map, got '" ++ kindName other ++ "'")))

end Bindery.Record
