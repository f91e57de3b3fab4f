import Bindery.Yaml.Event
import Bindery.Yaml.Node

/-!
# Reading YAML documents

A document is built from the events of the first document of a text; whatever follows it is
not read, except for the tokens the scanner reads ahead. A text with no document at all has no
root.

Scalars get their tags here: an explicit tag in short form, or the tag that follows from how the
scalar is written. An anchor names the node it is attached to from that point on, so a later
anchor of the same name replaces it. A collection's anchor names it while its own entries are
read, so an alias among them makes a cycle. An alias to a name that no anchor gave is an error.

The text may hold no control characters other than tab and line breaks.
-/

namespace Bindery.Yaml

/-- What an anchor names: a collection still being read, by a number telling it apart and its
kind, tag and line, or a finished node. -/
inductive Anchored where
  | building (id : Nat) (shape : Node)
  | done (node : Node)
deriving Inhabited

structure Composer where
  parser : Parser
  pending : Option Event := none
  anchors : List (String × Anchored) := []
  fresh : Nat := 0
deriving Inhabited

abbrev ComposeM := StateT Composer (Except ReadError)

namespace Composer

def parse (act : ParseM α) : ComposeM α := do
  let c ← get
  match act.run c.parser with
  | .ok (a, p) =>
    set { c with parser := p }
    pure a
  | .error e => throw e

def fail (message : String) : ComposeM α := throw { scanning := false, problem := message }

def peek : ComposeM (Option Event) := do
  match (← get).pending with
  | some e => pure (some e)
  | none =>
    let e ← parse Parser.next
    modify fun c => { c with pending := e }
    pure e

/-- Takes the next event; the end of the stream cannot be taken. -/
def take : ComposeM Event := do
  match ← peek with
  | some e =>
    if e.kind == .streamEnd then fail "attempted to go past the end of stream; corrupted value?"
    modify fun c => { c with pending := none }
    pure e
  | none => fail "attempted to go past the end of stream; corrupted value?"

def steps : ComposeM Nat := do pure (2 * (← get).parser.scanner.text.size + 8)

def setAnchor (name : String) (a : Anchored) : ComposeM Unit :=
  modify fun c => { c with anchors := (name, a) :: c.anchors.filter (·.1 != name) }

/-- Names a collection being read by an anchor, returning the number telling it apart. -/
def openAnchor (name : String) (shape : Node) : ComposeM Nat := do
  let id := (← get).fresh
  modify fun c => { c with fresh := id + 1 }
  setAnchor name (.building id shape)
  pure id

/-- Names a finished collection by its anchor, unless the name was given to another node
meanwhile. -/
def closeAnchor (name : String) (id : Nat) (n : Node) : ComposeM Unit := do
  match (← get).anchors.lookup name with
  | some (.building other _) => if other == id then setAnchor name (.done n)
  | _ => pure ()

/-- The tag of a collection: its explicit tag in short form, or the standard one. -/
def collectionTag (tag standard : String) : String :=
  if tag != "" && tag != "!" then shortTag tag else standard

/-- Builds the node whose events come next, at most `fuel` levels deep. -/
def node : Nat → ComposeM Node
  | 0 => fail "exceeded max depth"
  | fuel + 1 => do
    let some e ← peek | fail "attempted to go past the end of stream; corrupted value?"
    let line := e.start.line + 1
    match e.kind with
    | .scalar anchor tag text style =>
      let _ ← take
      let t := if tag != "" && tag != "!" then shortTag tag else defaultScalarTag text style
      let n := Node.scalar text t line
      if !anchor.isEmpty then setAnchor anchor (.done n)
      pure n
    | .alias name =>
      match (← get).anchors.lookup name with
      | none => fail ("unknown anchor '" ++ name ++ "' referenced")
      | some a =>
        let _ ← take
        match a with
        | .done target => pure (.alias name target line)
        | .building _ shape => pure (.cycle name shape line)
    | .sequenceStart anchor tag _ =>
      let t := collectionTag tag "!!seq"
      let id ← if anchor.isEmpty then pure 0 else openAnchor anchor (.seq [] t line)
      let _ ← take
      let mut items : Array Node := #[]
      for _ in [0:← steps] do
        match ← peek with
        | some { kind := .sequenceEnd, .. } => break
        | _ => items := items.push (← node fuel)
      let _ ← take
      let n := Node.seq items.toList t line
      if !anchor.isEmpty then closeAnchor anchor id n
      pure n
    | .mappingStart anchor tag _ =>
      let t := collectionTag tag "!!map"
      let id ← if anchor.isEmpty then pure 0 else openAnchor anchor (.map [] t line)
      let _ ← take
      let mut entries : Array (Node × Node) := #[]
      for _ in [0:← steps] do
        match ← peek with
        | some { kind := .mappingEnd, .. } => break
        | _ =>
          let k ← node fuel
          let v ← node fuel
          entries := entries.push (k, v)
      let _ ← take
      let n := Node.map entries.toList t line
      if !anchor.isEmpty then closeAnchor anchor id n
      pure n
    | _ => fail "attempted to parse an event that starts no node"

/-- Builds the root of the first document; none when the stream has no document. -/
def document : ComposeM (Option Node) := do
  let _ ← take
  match ← peek with
  | some { kind := .documentStart _, .. } =>
    let _ ← take
    let root ← node ((← get).parser.scanner.text.size + 2)
    let e ← take
    match e.kind with
    | .documentEnd _ => pure (some root)
    | _ => fail "expected DOCUMENT-END event"
  | _ => pure none

end Composer

/-- Reads the first document of a text: its root, none for a text with no document, or the
first problem. -/
def readDocument (source : String) : Except Problem (Option Node) :=
  if source.toList.any (fun c => !isPrintable c) then
    .error ⟨none, "control characters are not allowed"⟩
  else
    match Composer.document.run' { parser := Parser.ofText source } with
    | .ok root => .ok root
    | .error e => .error ⟨e.shownLine, e.problem⟩

end Bindery.Yaml
