import Bindery.Yaml.Scan

/-!
# YAML events

The tokens of a stream are read as a sequence of events: the stream and each document start
and end, and inside a document the scalars, aliases, and the starts and ends of sequences and
mappings, in document order. Anchors and tags are attached to the node they precede, tags
expanded by the `%TAG` directives of the document and the two standard handles `!` and `!!`.

The reader is a state machine with a stack of states to return to after a nested node, and a
stack of the marks where the open collections started; errors about a collection name the mark
where it started as their context. An entry, key or value written with nothing after it is an
empty plain scalar.
-/

namespace Bindery.Yaml

/-- The kinds of events, with what they hold. Empty anchors and tags mean none. -/
inductive EventKind where
  | streamStart
  | streamEnd
  | documentStart (implicit : Bool)
  | documentEnd (implicit : Bool)
  | alias (name : String)
  | scalar (anchor tag text : String) (style : ScalarStyle)
  | sequenceStart (anchor tag : String) (flow : Bool)
  | sequenceEnd
  | mappingStart (anchor tag : String) (flow : Bool)
  | mappingEnd
deriving Inhabited, BEq, Repr

structure Event where
  kind : EventKind
  start : Mark
  stop : Mark
deriving Inhabited, Repr

inductive ParseState where
  | streamStart
  | implicitDocumentStart
  | documentStart
  | documentContent
  | documentEnd
  | blockNode
  | blockNodeOrIndentlessSequence
  | flowNode
  | blockSequenceFirstEntry
  | blockSequenceEntry
  | indentlessSequenceEntry
  | blockMappingFirstKey
  | blockMappingKey
  | blockMappingValue
  | flowSequenceFirstEntry
  | flowSequenceEntry
  | flowSequenceEntryMappingKey
  | flowSequenceEntryMappingValue
  | flowSequenceEntryMappingEnd
  | flowMappingFirstKey
  | flowMappingKey
  | flowMappingValue
  | flowMappingEmptyValue
  | finished
deriving Inhabited, BEq, Repr

structure Parser where
  scanner : Scanner
  state : ParseState := .streamStart
  states : List ParseState := []
  marks : List Mark := []
  tagDirectives : List (String × String) := []
  ended : Bool := false
deriving Inhabited

abbrev ParseM := StateT Parser (Except ReadError)

namespace Parser

def scan (act : ScanM α) : ParseM α := do
  let p ← get
  match act.run p.scanner with
  | .ok (a, s) =>
    set { p with scanner := s }
    pure a
  | .error e => throw e

def peek : ParseM Token := scan Scanner.peekToken

def skip : ParseM Unit := do
  let t ← peek
  scan Scanner.skipToken
  modify fun p => { p with ended := t.kind == .streamEnd }

def steps : ParseM Nat := do pure (2 * (← get).scanner.text.size + 8)

def fail (problem : String) (problemMark : Mark) : ParseM α :=
  throw { scanning := false, problemMark, problem }

/-- Fails at a mark, within a construct starting at `contextMark`. -/
def failIn (context : String) (contextMark : Mark) (problem : String) (problemMark : Mark) :
    ParseM α :=
  throw { scanning := false, context, contextMark, problemMark, problem }

def goTo (s : ParseState) : ParseM Unit := modify fun p => { p with state := s }

def pushState (s : ParseState) : ParseM Unit := modify fun p => { p with states := s :: p.states }

def popState : ParseM Unit :=
  modify fun p => match p.states with
    | s :: rest => { p with state := s, states := rest }
    | [] => { p with state := .finished }

def pushMark (m : Mark) : ParseM Unit := modify fun p => { p with marks := m :: p.marks }

/-- Forgets where the innermost collection starts, returning it. -/
def popMark : ParseM Mark := do
  let p ← get
  match p.marks with
  | m :: rest =>
    set { p with marks := rest }
    pure m
  | [] => pure {}

def defaultTagDirectives : List (String × String) :=
  [("!", "!"), ("!!", "tag:yaml.org,2002:")]

/-- Adds a tag handle to the document's; a handle given twice is an error unless duplicates are
allowed, in which case the first stays. -/
def appendTagDirective (handle expansion : String) (allowDuplicates : Bool) (m : Mark) :
    ParseM Unit := do
  if ((← get).tagDirectives.lookup handle).isSome then
    if allowDuplicates then return
    fail "found duplicate %TAG directive" m
  modify fun p => { p with tagDirectives := p.tagDirectives ++ [(handle, expansion)] }

/-- Takes the directives before a document, then adds the standard tag handles. Only version 1.1
of the language is accepted. -/
def processDirectives : ParseM Unit := do
  let mut seenVersion := false
  for _ in [0:← steps] do
    let t ← peek
    match t.kind with
    | .versionDirective major minor =>
      if seenVersion then fail "found duplicate %YAML directive" t.start
      if major != 1 || minor != 1 then fail "found incompatible YAML document" t.start
      seenVersion := true
    | .tagDirective handle expansion => appendTagDirective handle expansion false t.start
    | _ => break
    skip
  let t ← peek
  for (handle, expansion) in defaultTagDirectives do
    appendTagDirective handle expansion true t.start

def emptyScalar (m : Mark) : Event := { kind := .scalar "" "" "" .plain, start := m, stop := m }

def parseStreamStart : ParseM Event := do
  let t ← peek
  if t.kind != .streamStart then fail "did not find expected <stream-start>" t.start
  goTo .implicitDocumentStart
  skip
  return { kind := .streamStart, start := t.start, stop := t.stop }

def isDirective (t : Token) : Bool :=
  match t.kind with
  | .versionDirective _ _ | .tagDirective _ _ => true
  | _ => false

/-- The start of a document, or the end of the stream. The first document may start without
`---`; later ones need it, and `...` markers before them are skipped. -/
def parseDocumentStart (implicit : Bool) : ParseM Event := do
  let mut t ← peek
  if !implicit then
    for _ in [0:← steps] do
      if t.kind == .documentEnd then
        skip
        t ← peek
      else break
  if implicit && !(isDirective t || t.kind == .documentStart || t.kind == .streamEnd) then
    processDirectives
    pushState .documentEnd
    goTo .blockNode
    return { kind := .documentStart true, start := t.start, stop := t.stop }
  else if t.kind != .streamEnd then
    let start := t.start
    processDirectives
    t ← peek
    if t.kind != .documentStart then fail "did not find expected <document start>" t.start
    pushState .documentEnd
    goTo .documentContent
    let stop := t.stop
    skip
    return { kind := .documentStart false, start, stop }
  else
    goTo .finished
    skip
    return { kind := .streamEnd, start := t.start, stop := t.stop }

/-- The content of a document after `---`: empty when another document or the end follows. -/
def parseDocumentContent (node : Bool → Bool → ParseM Event) : ParseM Event := do
  let t ← peek
  match t.kind with
  | .versionDirective _ _ | .tagDirective _ _ | .documentStart | .documentEnd | .streamEnd =>
    popState
    return emptyScalar t.start
  | _ => node true false

def parseDocumentEnd : ParseM Event := do
  let t ← peek
  let mut stop := t.start
  let mut implicit := true
  if t.kind == .documentEnd then
    stop := t.stop
    skip
    implicit := false
  modify fun p => { p with tagDirectives := [] }
  goTo .documentStart
  return { kind := .documentEnd implicit, start := t.start, stop }

/-- A node: an alias, or a scalar or collection with an optional anchor and tag in either
order. In block context a `-` at the same indentation as a mapping key may start a sequence
without indentation. An anchor or tag alone stands for an empty scalar. -/
def parseNode (block indentless : Bool) : ParseM Event := do
  let mut t ← peek
  if let .alias name := t.kind then
    popState
    skip
    return { kind := .alias name, start := t.start, stop := t.stop }
  let mut start := t.start
  let mut stop := t.start
  let mut anchor := ""
  let mut tagged := false
  let mut handle := ""
  let mut suffix := ""
  let mut tagMark : Mark := {}
  match t.kind with
  | .anchor name =>
    anchor := name
    stop := t.stop
    skip
    t ← peek
    if let .tag h s := t.kind then
      tagged := true
      handle := h
      suffix := s
      tagMark := t.start
      stop := t.stop
      skip
      t ← peek
  | .tag h s =>
    tagged := true
    handle := h
    suffix := s
    tagMark := t.start
    stop := t.stop
    skip
    t ← peek
    if let .anchor name := t.kind then
      anchor := name
      stop := t.stop
      skip
      t ← peek
  | _ => pure ()
  let mut tag := ""
  if tagged then
    if handle.isEmpty then tag := suffix
    else
      tag := match (← get).tagDirectives.lookup handle with
        | some expansion => expansion ++ suffix
        | none => ""
      if tag.isEmpty then failIn "while parsing a node" start "found undefined tag handle" tagMark
  if indentless && t.kind == .blockEntry then
    goTo .indentlessSequenceEntry
    return { kind := .sequenceStart anchor tag false, start, stop := t.stop }
  match t.kind with
  | .scalar text style =>
    popState
    skip
    return { kind := .scalar anchor tag text style, start, stop := t.stop }
  | .flowSequenceStart =>
    goTo .flowSequenceFirstEntry
    return { kind := .sequenceStart anchor tag true, start, stop := t.stop }
  | .flowMappingStart =>
    goTo .flowMappingFirstKey
    return { kind := .mappingStart anchor tag true, start, stop := t.stop }
  | .blockSequenceStart =>
    if block then
      goTo .blockSequenceFirstEntry
      return { kind := .sequenceStart anchor tag false, start, stop := t.stop }
  | .blockMappingStart =>
    if block then
      goTo .blockMappingFirstKey
      return { kind := .mappingStart anchor tag false, start, stop := t.stop }
  | _ => pure ()
  if !anchor.isEmpty || !tag.isEmpty then
    popState
    return { kind := .scalar anchor tag "" .plain, start, stop }
  failIn (if block then "while parsing a block node" else "while parsing a flow node") start
    "did not find expected node content" t.start

def parseBlockSequenceEntry (first : Bool) : ParseM Event := do
  if first then
    pushMark (← peek).start
    skip
  let t ← peek
  match t.kind with
  | .blockEntry =>
    let m := t.stop
    skip
    let t ← peek
    if t.kind != .blockEntry && t.kind != .blockEnd then
      pushState .blockSequenceEntry
      parseNode true false
    else
      goTo .blockSequenceEntry
      return emptyScalar m
  | .blockEnd =>
    popState
    let _ ← popMark
    skip
    return { kind := .sequenceEnd, start := t.start, stop := t.stop }
  | _ =>
    let contextMark ← popMark
    failIn "while parsing a block collection" contextMark "did not find expected '-' indicator"
      t.start

/-- An entry of a sequence written at its mapping key's indentation, or its end. -/
def parseIndentlessSequenceEntry : ParseM Event := do
  let t ← peek
  if t.kind == .blockEntry then
    let m := t.stop
    skip
    let t ← peek
    if t.kind != .blockEntry && t.kind != .key && t.kind != .value && t.kind != .blockEnd then
      pushState .indentlessSequenceEntry
      parseNode true false
    else
      goTo .indentlessSequenceEntry
      return emptyScalar m
  else
    popState
    return { kind := .sequenceEnd, start := t.start, stop := t.start }

def parseBlockMappingKey (first : Bool) : ParseM Event := do
  if first then
    pushMark (← peek).start
    skip
  let t ← peek
  match t.kind with
  | .key =>
    let m := t.stop
    skip
    let t ← peek
    if t.kind != .key && t.kind != .value && t.kind != .blockEnd then
      pushState .blockMappingValue
      parseNode true true
    else
      goTo .blockMappingValue
      return emptyScalar m
  | .blockEnd =>
    popState
    let _ ← popMark
    skip
    return { kind := .mappingEnd, start := t.start, stop := t.stop }
  | _ =>
    let contextMark ← popMark
    failIn "while parsing a block mapping" contextMark "did not find expected key" t.start

/-- A value of a block mapping; empty when there is no `:`. -/
def parseBlockMappingValue : ParseM Event := do
  let t ← peek
  if t.kind == .value then
    let m := t.stop
    skip
    let t ← peek
    if t.kind != .key && t.kind != .value && t.kind != .blockEnd then
      pushState .blockMappingKey
      parseNode true true
    else
      goTo .blockMappingKey
      return emptyScalar m
  else
    goTo .blockMappingKey
    return emptyScalar t.start

/-- An entry of a flow sequence after `[` or `,`, or its end. A `?` entry is a mapping of one
pair. -/
def parseFlowSequenceEntry (first : Bool) : ParseM Event := do
  if first then
    pushMark (← peek).start
    skip
  let mut t ← peek
  if t.kind != .flowSequenceEnd then
    if !first then
      if t.kind == .flowEntry then
        skip
        t ← peek
      else
        let contextMark ← popMark
        failIn "while parsing a flow sequence" contextMark "did not find expected ',' or ']'"
          t.start
    if t.kind == .key then
      goTo .flowSequenceEntryMappingKey
      skip
      return { kind := .mappingStart "" "" true, start := t.start, stop := t.stop }
    else if t.kind != .flowSequenceEnd then
      pushState .flowSequenceEntry
      return ← parseNode false false
  popState
  let _ ← popMark
  skip
  return { kind := .sequenceEnd, start := t.start, stop := t.stop }

def parseFlowSequenceEntryMappingKey : ParseM Event := do
  let t ← peek
  if t.kind != .value && t.kind != .flowEntry && t.kind != .flowSequenceEnd then
    pushState .flowSequenceEntryMappingValue
    parseNode false false
  else
    let m := t.stop
    skip
    goTo .flowSequenceEntryMappingValue
    return emptyScalar m

def parseFlowSequenceEntryMappingValue : ParseM Event := do
  let mut t ← peek
  if t.kind == .value then
    skip
    t ← peek
    if t.kind != .flowEntry && t.kind != .flowSequenceEnd then
      pushState .flowSequenceEntryMappingEnd
      return ← parseNode false false
  goTo .flowSequenceEntryMappingEnd
  return emptyScalar t.start

def parseFlowSequenceEntryMappingEnd : ParseM Event := do
  let t ← peek
  goTo .flowSequenceEntry
  return { kind := .mappingEnd, start := t.start, stop := t.start }

/-- A key of a flow mapping after `{` or `,`, or its end. A key without `:` has an empty
value. -/
def parseFlowMappingKey (first : Bool) : ParseM Event := do
  if first then
    pushMark (← peek).start
    skip
  let mut t ← peek
  if t.kind != .flowMappingEnd then
    if !first then
      if t.kind == .flowEntry then
        skip
        t ← peek
      else
        let contextMark ← popMark
        failIn "while parsing a flow mapping" contextMark "did not find expected ',' or '\x7d'"
          t.start
    if t.kind == .key then
      skip
      t ← peek
      if t.kind != .value && t.kind != .flowEntry && t.kind != .flowMappingEnd then
        pushState .flowMappingValue
        return ← parseNode false false
      else
        goTo .flowMappingValue
        return emptyScalar t.start
    else if t.kind != .flowMappingEnd then
      pushState .flowMappingEmptyValue
      return ← parseNode false false
  popState
  let _ ← popMark
  skip
  return { kind := .mappingEnd, start := t.start, stop := t.stop }

/-- A value of a flow mapping; empty when there is no `:` or nothing after it. -/
def parseFlowMappingValue (empty : Bool) : ParseM Event := do
  let mut t ← peek
  if empty then
    goTo .flowMappingKey
    return emptyScalar t.start
  if t.kind == .value then
    skip
    t ← peek
    if t.kind != .flowEntry && t.kind != .flowMappingEnd then
      pushState .flowMappingKey
      return ← parseNode false false
  goTo .flowMappingKey
  return emptyScalar t.start

def next : ParseM (Option Event) := do
  let p ← get
  if p.ended || p.state == .finished then return none
  let e ← match p.state with
    | .streamStart => parseStreamStart
    | .implicitDocumentStart => parseDocumentStart true
    | .documentStart => parseDocumentStart false
    | .documentContent => parseDocumentContent parseNode
    | .documentEnd => parseDocumentEnd
    | .blockNode => parseNode true false
    | .blockNodeOrIndentlessSequence => parseNode true true
    | .flowNode => parseNode false false
    | .blockSequenceFirstEntry => parseBlockSequenceEntry true
    | .blockSequenceEntry => parseBlockSequenceEntry false
    | .indentlessSequenceEntry => parseIndentlessSequenceEntry
    | .blockMappingFirstKey => parseBlockMappingKey true
    | .blockMappingKey => parseBlockMappingKey false
    | .blockMappingValue => parseBlockMappingValue
    | .flowSequenceFirstEntry => parseFlowSequenceEntry true
    | .flowSequenceEntry => parseFlowSequenceEntry false
    | .flowSequenceEntryMappingKey => parseFlowSequenceEntryMappingKey
    | .flowSequenceEntryMappingValue => parseFlowSequenceEntryMappingValue
    | .flowSequenceEntryMappingEnd => parseFlowSequenceEntryMappingEnd
    | .flowMappingFirstKey => parseFlowMappingKey true
    | .flowMappingKey => parseFlowMappingKey false
    | .flowMappingValue => parseFlowMappingValue false
    | .flowMappingEmptyValue => parseFlowMappingValue true
    | .finished => parseStreamStart
  return some e

end Parser

def Parser.ofText (text : String) : Parser := { scanner := Scanner.ofText text }

end Bindery.Yaml
