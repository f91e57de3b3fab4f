import Bindery.Markup.Token
import Bindery.Markup.Tree

/-!
# Building the tree of an HTML fragment

The tree of a fragment read as the content of a `body` element is built the way HTML prescribes:
tokens are taken one at a time and handled by the rules of the current insertion mode, which
keep a stack of open elements and a list of active formatting elements. The stack starts with an
`html` element whose children are the fragment's top-level nodes; the context `body` element
itself is not on it, so elements like `body` and `frameset` that would replace it are ignored.

Among the rules: block elements close an open paragraph; list items and definition terms close
the previous one; misnested formatting elements are repaired by the adoption agency algorithm and
reopened in later blocks; table parts are opened when implied (`tbody` for a bare `tr`, `tr` for a
bare `td`), and content that does not belong in a table is put right before it; `svg` and
`math` open foreign content, where tag and attribute names take their mixed case, tags may close
themselves, and no element breaks back out to HTML. Raw text elements take the next text token
as their content; the builder switches the tokenizer off raw text where the content is not
wanted.

Elements are compared by tag name; a scope search stops at the elements that bound it, of each
namespace. Each token may be handed between modes and implied tokens a bounded number of times.
-/

namespace Bindery.Markup.Html

inductive Shape where
  | element (ns : String) (tag : String) (attrs : List (String × String))
  | text (s : String)
  | comment (s : String)
deriving Inhabited

/-- A node of the tree being built: what it holds, its parent and its children by number. -/
structure Slot where
  shape : Shape
  parent : Option Nat := none
  children : Array Nat := #[]
deriving Inhabited

/-- The insertion modes: which rules handle the next token. -/
inductive Mode where
  | inBody
  | inHead
  | text
  | inTable
  | inCaption
  | inColumnGroup
  | inTableBody
  | inRow
  | inCell
  | inSelect
  | inSelectInTable
  | inTemplate
  | ignoreRest
deriving Inhabited, BEq

/-- The scopes in which an element is looked for on the stack of open elements. -/
inductive Scope where
  | plain
  | listItem
  | button
  | table
  | tableRow
  | tableBody
  | select
deriving BEq

/-- The state of building: the nodes (the first is the `html` element that holds the fragment),
the stack of open elements (innermost last), the active formatting elements (`none` marks a
scope), the insertion mode and the one to return to after raw text, the modes of the open
templates, the open form, whether content is put before the open table, the token being
handled, whether it closed itself, and whether the tokenizer must not read the next token as raw
text. -/
structure Builder where
  slots : Array Slot := #[{ shape := .element "" "html" [] }]
  stack : Array Nat := #[0]
  formatting : Array (Option Nat) := #[]
  mode : Mode := .inBody
  savedMode : Mode := .inBody
  templates : List Mode := []
  form : Option Nat := none
  fostering : Bool := false
  tok : Token := .eof
  selfClosing : Bool := false
  rawOff : Bool := false
deriving Inhabited

abbrev BuildM := StateM Builder

def lastIndex [BEq α] (xs : Array α) (x : α) : Option Nat :=
  (List.range xs.size).foldl (fun acc i => if xs[i]? == some x then some i else acc) none

/-- An array without its first occurrence at or after the last position of a value. -/
def removeLast [BEq α] (xs : Array α) (x : α) : Array α :=
  match lastIndex xs x with
  | some i => (xs.toList.take i ++ xs.toList.drop (i + 1)).toArray
  | none => xs

/-- An array with a value put at a position, or last when the position is past the end. -/
def insertAt (xs : Array α) (i : Nat) (x : α) : Array α :=
  (xs.toList.take i ++ x :: xs.toList.drop i).toArray

/-- Elements whose start closes an open paragraph and that close only themselves at their end. -/
def blockTags : List String :=
  ["address", "article", "aside", "blockquote", "center", "details", "dialog", "dir", "div", "dl",
    "fieldset", "figcaption", "figure", "footer", "header", "hgroup", "main", "menu", "nav", "ol",
    "p", "search", "section", "summary", "ul"]

/-- Elements whose end closes them when they are in scope. -/
def blockEndTags : List String :=
  ["address", "article", "aside", "blockquote", "button", "center", "details", "dialog", "dir",
    "div", "dl", "fieldset", "figcaption", "figure", "footer", "header", "hgroup", "listing",
    "main", "menu", "nav", "ol", "pre", "search", "section", "summary", "ul"]

def headingTags : List String := ["h1", "h2", "h3", "h4", "h5", "h6"]

/-- The formatting elements, which are reopened in later blocks while they are open. -/
def formattingTags : List String :=
  ["b", "big", "code", "em", "font", "i", "s", "small", "strike", "strong", "tt", "u"]

/-- Elements that end implicitly when something else needs closing. -/
def impliedEndTags : List String :=
  ["dd", "dt", "li", "optgroup", "option", "p", "rb", "rp", "rt", "rtc"]

def tableTags : List String := ["table", "tbody", "tfoot", "thead", "tr"]

def specialTags : List String :=
  ["address", "applet", "area", "article", "aside", "base", "basefont", "bgsound", "blockquote",
    "body", "br", "button", "caption", "center", "col", "colgroup", "dd", "details", "dir", "div",
    "dl", "dt", "embed", "fieldset", "figcaption", "figure", "footer", "form", "frame", "frameset",
    "h1", "h2", "h3", "h4", "h5", "h6", "head", "header", "hgroup", "hr", "html", "iframe", "img",
    "input", "keygen", "li", "link", "listing", "main", "marquee", "menu", "meta", "nav",
    "noembed", "noframes", "noscript", "object", "ol", "p", "param", "plaintext", "pre", "script",
    "search", "section", "select", "source", "style", "summary", "table", "tbody", "td",
    "template", "textarea", "tfoot", "th", "thead", "title", "tr", "track", "ul", "wbr", "xmp"]

/-- The elements that bound the plain, list item and button scopes, by namespace. -/
def scopeBounds (ns : String) : List String :=
  if ns == "" then ["applet", "caption", "html", "table", "td", "th", "marquee", "object", "template"]
  else if ns == "math" then ["annotation-xml", "mi", "mn", "mo", "ms", "mtext"]
  else if ns == "svg" then ["desc", "foreignObject", "title"]
  else []

def svgTagName (tag : String) : String :=
  match tag with
  | "altglyph" => "altGlyph"
  | "altglyphdef" => "altGlyphDef"
  | "altglyphitem" => "altGlyphItem"
  | "animatecolor" => "animateColor"
  | "animatemotion" => "animateMotion"
  | "animatetransform" => "animateTransform"
  | "clippath" => "clipPath"
  | "feblend" => "feBlend"
  | "fecolormatrix" => "feColorMatrix"
  | "fecomponenttransfer" => "feComponentTransfer"
  | "fecomposite" => "feComposite"
  | "feconvolvematrix" => "feConvolveMatrix"
  | "fediffuselighting" => "feDiffuseLighting"
  | "fedisplacementmap" => "feDisplacementMap"
  | "fedistantlight" => "feDistantLight"
  | "feflood" => "feFlood"
  | "fefunca" => "feFuncA"
  | "fefuncb" => "feFuncB"
  | "fefuncg" => "feFuncG"
  | "fefuncr" => "feFuncR"
  | "fegaussianblur" => "feGaussianBlur"
  | "feimage" => "feImage"
  | "femerge" => "feMerge"
  | "femergenode" => "feMergeNode"
  | "femorphology" => "feMorphology"
  | "feoffset" => "feOffset"
  | "fepointlight" => "fePointLight"
  | "fespecularlighting" => "feSpecularLighting"
  | "fespotlight" => "feSpotLight"
  | "fetile" => "feTile"
  | "feturbulence" => "feTurbulence"
  | "foreignobject" => "foreignObject"
  | "glyphref" => "glyphRef"
  | "lineargradient" => "linearGradient"
  | "radialgradient" => "radialGradient"
  | "textpath" => "textPath"
  | other => other

def svgAttrName (name : String) : String :=
  match name with
  | "attributename" => "attributeName"
  | "attributetype" => "attributeType"
  | "basefrequency" => "baseFrequency"
  | "baseprofile" => "baseProfile"
  | "calcmode" => "calcMode"
  | "clippathunits" => "clipPathUnits"
  | "contentscripttype" => "contentScriptType"
  | "contentstyletype" => "contentStyleType"
  | "diffuseconstant" => "diffuseConstant"
  | "edgemode" => "edgeMode"
  | "externalresourcesrequired" => "externalResourcesRequired"
  | "filterunits" => "filterUnits"
  | "glyphref" => "glyphRef"
  | "gradienttransform" => "gradientTransform"
  | "gradientunits" => "gradientUnits"
  | "kernelmatrix" => "kernelMatrix"
  | "kernelunitlength" => "kernelUnitLength"
  | "keypoints" => "keyPoints"
  | "keysplines" => "keySplines"
  | "keytimes" => "keyTimes"
  | "lengthadjust" => "lengthAdjust"
  | "limitingconeangle" => "limitingConeAngle"
  | "markerheight" => "markerHeight"
  | "markerunits" => "markerUnits"
  | "markerwidth" => "markerWidth"
  | "maskcontentunits" => "maskContentUnits"
  | "maskunits" => "maskUnits"
  | "numoctaves" => "numOctaves"
  | "pathlength" => "pathLength"
  | "patterncontentunits" => "patternContentUnits"
  | "patterntransform" => "patternTransform"
  | "patternunits" => "patternUnits"
  | "pointsatx" => "pointsAtX"
  | "pointsaty" => "pointsAtY"
  | "pointsatz" => "pointsAtZ"
  | "preservealpha" => "preserveAlpha"
  | "preserveaspectratio" => "preserveAspectRatio"
  | "primitiveunits" => "primitiveUnits"
  | "refx" => "refX"
  | "refy" => "refY"
  | "repeatcount" => "repeatCount"
  | "repeatdur" => "repeatDur"
  | "requiredextensions" => "requiredExtensions"
  | "requiredfeatures" => "requiredFeatures"
  | "specularconstant" => "specularConstant"
  | "specularexponent" => "specularExponent"
  | "spreadmethod" => "spreadMethod"
  | "startoffset" => "startOffset"
  | "stddeviation" => "stdDeviation"
  | "stitchtiles" => "stitchTiles"
  | "surfacescale" => "surfaceScale"
  | "systemlanguage" => "systemLanguage"
  | "tablevalues" => "tableValues"
  | "targetx" => "targetX"
  | "targety" => "targetY"
  | "textlength" => "textLength"
  | "viewbox" => "viewBox"
  | "viewtarget" => "viewTarget"
  | "xchannelselector" => "xChannelSelector"
  | "ychannelselector" => "yChannelSelector"
  | "zoomandpan" => "zoomAndPan"
  | other => other

def adjustAttrs (ns : String) (attrs : List (String × String)) : List (String × String) :=
  if ns == "svg" then attrs.map fun (k, v) => (svgAttrName k, v)
  else if ns == "math" then attrs.map fun (k, v) => (if k == "definitionurl" then "definitionURL" else k, v)
  else attrs

def isBlankText (s : String) : Bool := s.toList.all isTagSpace

def dropNul (s : String) : String := String.ofList (s.toList.filter (· != '\x00'))

namespace Builder

def slot (b : Builder) (i : Nat) : Slot := b.slots.getD i default

def tag (b : Builder) (i : Nat) : String :=
  match (b.slot i).shape with
  | .element _ t _ => t
  | _ => ""

def ns (b : Builder) (i : Nat) : String :=
  match (b.slot i).shape with
  | .element n _ _ => n
  | _ => ""

def attrs (b : Builder) (i : Nat) : List (String × String) :=
  match (b.slot i).shape with
  | .element _ _ a => a
  | _ => []

def isElement (b : Builder) (i : Nat) : Bool :=
  match (b.slot i).shape with
  | .element _ _ _ => true
  | _ => false

def top (b : Builder) : Nat := b.stack.back?.getD 0

def topTag (b : Builder) : String := b.tag b.top

def at' (b : Builder) (i : Nat) : Nat := b.stack.getD i 0

def hasOpen (b : Builder) (t : String) : Bool := b.stack.any fun n => b.tag n == t

def isSpecial (b : Builder) (i : Nat) : Bool :=
  let t := b.tag i
  match b.ns i with
  | "" | "html" => specialTags.contains t
  | "math" => ["mi", "mo", "mn", "ms", "mtext", "annotation-xml"].contains t
  | "svg" => ["foreignObject", "desc", "title"].contains t
  | _ => false

def fresh (b : Builder) (shape : Shape) : Builder × Nat :=
  ({ b with slots := b.slots.push { shape } }, b.slots.size)

def change (b : Builder) (i : Nat) (f : Slot → Slot) : Builder :=
  { b with slots := b.slots.modify i f }

def detach (b : Builder) (c : Nat) : Builder :=
  match (b.slot c).parent with
  | none => b
  | some p =>
    (b.change p fun s => { s with children := s.children.filter (· != c) }).change c
      fun s => { s with parent := none }

/-- Puts a node among the children of `p` right before `ref`, or last when `ref` is none or not
a child of `p`. -/
def insertBefore (b : Builder) (p c : Nat) (ref : Option Nat) : Builder :=
  let b := b.detach c
  let kids := (b.slot p).children
  let kids := match ref.bind fun r => lastIndex kids r with
    | some i => insertAt kids i c
    | none => kids.push c
  (b.change p fun s => { s with children := kids }).change c fun s => { s with parent := some p }

def appendTo (b : Builder) (p c : Nat) : Builder := b.insertBefore p c none

def moveChildren (b : Builder) (dst src : Nat) : Builder :=
  (b.slot src).children.foldl (fun b c => b.appendTo dst c) b

def previous (b : Builder) (c : Nat) : Option Nat := do
  let p ← (b.slot c).parent
  let kids := (b.slot p).children
  let i ← lastIndex kids c
  if i == 0 then none else kids[i - 1]?

def shouldFoster (b : Builder) : Bool := b.fostering && tableTags.contains b.topTag

/-- Puts a node right before the table at a stack position, or last in the `html` element when
there is no open table; text right after text joins it. -/
def fosterBeforeTable (b : Builder) (n : Nat) (table : Option Nat) : Builder :=
  let tableNode := table.map b.at'
  let parent := match tableNode with
    | none => b.at' 0
    | some t =>
      match (b.slot t).parent with
      | some p => p
      | none => b.at' ((table.getD 1) - 1)
  let prev := match tableNode with
    | some t => b.previous t
    | none => (b.slot parent).children.back?
  match prev.map (fun p => (b.slot p).shape), (b.slot n).shape with
  | some (.text before), .text s =>
    b.change (prev.getD 0) fun sl => { sl with shape := .text (before ++ s) }
  | _, _ =>
    let ref := tableNode.filter fun t => (b.slot t).parent == some parent
    b.insertBefore parent n ref

/-- Puts a node before the innermost open table, or into the innermost open template when that
is nearer. -/
def fosterParent (b : Builder) (n : Nat) : Builder :=
  let table := (List.range b.stack.size).reverse.find? fun i => b.tag (b.at' i) == "table"
  let template := (List.range b.stack.size).reverse.find? fun i => b.tag (b.at' i) == "template"
  match template, table with
  | some j, some i => if j > i then b.appendTo (b.at' j) n else b.fosterBeforeTable n table
  | some j, none => b.appendTo (b.at' j) n
  | none, _ => b.fosterBeforeTable n table

/-- Adds a node to the innermost open element (or before the table), opening it when it is an
element. -/
def addChild (b : Builder) (n : Nat) : Builder :=
  let b := if b.shouldFoster then b.fosterParent n else b.appendTo b.top n
  if b.isElement n then { b with stack := b.stack.push n } else b

def addText (b : Builder) (s : String) : Builder :=
  if s.isEmpty then b
  else if b.shouldFoster then
    let (b, n) := b.fresh (.text s)
    b.fosterParent n
  else
    let t := b.top
    match (b.slot t).children.back? with
    | some last =>
      match (b.slot last).shape with
      | .text prev => b.change last fun sl => { sl with shape := .text (prev ++ s) }
      | _ =>
        let (b, n) := b.fresh (.text s)
        b.addChild n
    | none =>
      let (b, n) := b.fresh (.text s)
      b.addChild n

def addElementOf (b : Builder) (ns tag : String) (attrs : List (String × String)) : Builder :=
  let (b, n) := b.fresh (.element ns tag attrs)
  b.addChild n

def addComment (b : Builder) (s : String) : Builder :=
  let (b, n) := b.fresh (.comment s)
  b.addChild n

/-- The tag and attributes of the token when it is a start tag. -/
def startOf (b : Builder) : String × List (String × String) :=
  match b.tok with
  | .startTag name attrs _ => (name, attrs)
  | .endTag name => (name, [])
  | _ => ("", [])

def addElement (b : Builder) : Builder :=
  let (name, attrs) := b.startOf
  b.addElementOf "" name attrs

def pop (b : Builder) : Builder := { b with stack := b.stack.pop }

def keep (b : Builder) (n : Nat) : Builder := { b with stack := b.stack.extract 0 n }

/-- Where the innermost open element of one of the tags is within a scope: looking from the
innermost element out, an HTML element of one of the tags is found, an element that bounds the
scope stops the search, and any other is passed. -/
def indexInScope (b : Builder) (s : Scope) (tags : List String) : Option Nat :=
  let rec go : Nat → Option Nat
    | 0 => none
    | k + 1 =>
      let n := b.at' k
      let t := b.tag n
      let ns := b.ns n
      let bounds := match s with
        | .listItem => t == "ol" || t == "ul"
        | .button => t == "button"
        | .table => t == "html" || t == "table" || t == "template"
        | .select => t != "optgroup" && t != "option"
        | _ => false
      if ns == "" && tags.contains t then some k
      else if ns == "" && bounds then none
      else if (s == .plain || s == .listItem || s == .button) && (scopeBounds ns).contains t then none
      else go k
  go b.stack.size

def inScope (b : Builder) (s : Scope) (tags : List String) : Bool := (b.indexInScope s tags).isSome

/-- Closes elements up to and including the innermost one of the tags in scope, if there is
one; tells whether there was. -/
def popUntil (b : Builder) (s : Scope) (tags : List String) : Builder × Bool :=
  match b.indexInScope s tags with
  | some i => (b.keep i, true)
  | none => (b, false)

def clearToContext (b : Builder) (s : Scope) : Builder :=
  let stops := match s with
    | .table => ["html", "table", "template"]
    | .tableRow => ["html", "tr", "template"]
    | _ => ["html", "tbody", "tfoot", "thead", "template"]
  match (List.range b.stack.size).reverse.find? fun i => stops.contains (b.tag (b.at' i)) with
  | some i => b.keep (i + 1)
  | none => b

/-- Closes the elements that end implicitly, except those of the given tags. -/
def closeImplied (b : Builder) (except : List String) : Builder :=
  let rec go : Nat → Builder → Builder
    | 0, b => b
    | fuel + 1, b =>
      let t := b.topTag
      if b.stack.size > 0 && impliedEndTags.contains t && !except.contains t then go fuel b.pop
      else b
  go b.stack.size b

/-- Drops active formatting elements up to and including the last scope marker. -/
def clearFormatting (b : Builder) : Builder :=
  let rec go : Nat → Builder → Builder
    | 0, b => b
    | fuel + 1, b =>
      match b.formatting.back? with
      | none => b
      | some entry =>
        let b := { b with formatting := b.formatting.pop }
        if entry.isNone || b.formatting.isEmpty then b else go fuel b
  go b.formatting.size b

/-- A copy of an element with the same tag and attributes, in no namespace and with no
children. -/
def cloneOf (b : Builder) (n : Nat) : Builder × Nat := b.fresh (.element "" (b.tag n) (b.attrs n))

/-- Reopens the active formatting elements that were closed since the last scope marker, as
copies added in order. -/
def reconstruct (b : Builder) : Builder :=
  match b.formatting.back? with
  | none => b
  | some none => b
  | some (some last) =>
    if (lastIndex b.stack last).isSome then b else
    -- the first entry after the last marker or open element
    let rec back : Nat → Nat → Nat
      | 0, i => i
      | fuel + 1, i =>
        if i == 0 then 0
        else match b.formatting[i - 1]? with
          | some (some n) => if (lastIndex b.stack n).isSome then i else back fuel (i - 1)
          | _ => i
    let first := back b.formatting.size (b.formatting.size - 1)
    (List.range (b.formatting.size - first)).foldl (fun b k =>
      let i := first + k
      match b.formatting[i]? with
      | some (some n) =>
        let (b, copy) := b.cloneOf n
        let b := b.addChild copy
        { b with formatting := b.formatting.setIfInBounds i (some copy) }
      | _ => b) b

/-- The formatting entries equal to the element being added, from the last back to the marker. -/
def equalFormatting (b : Builder) (name : String) (attrs : List (String × String)) : List Nat :=
  let sameAttrs (other : List (String × String)) : Bool :=
    other.length == attrs.length && other.all fun a => attrs.contains a
  let rec go : Nat → List Nat
    | 0 => []
    | i + 1 =>
      match b.formatting[i]? with
      | some none | none => []
      | some (some n) =>
        if b.ns n == "" && b.tag n == name && sameAttrs (b.attrs n) then n :: go i else go i
  go b.formatting.size

/-- Adds the element of the current start tag as a formatting element; of the equal ones since
the last marker, all from the third on (counting back from the last) are pushed out. -/
def addFormattingElement (b : Builder) : Builder :=
  let (name, attrs) := b.startOf
  let b := b.addElement
  let equal := b.equalFormatting name attrs
  let b := (equal.drop 2).foldl (fun b n => { b with formatting := removeLast b.formatting (some n) }) b
  { b with formatting := b.formatting.push (some b.top) }

/-- Closes the innermost open list item (or definition term) of the tags, looking past
`address`, `div`, `p` and elements without special rules. -/
def closeItems (b : Builder) (tags : List String) : Builder :=
  let rec go : Nat → Builder
    | 0 => b
    | k + 1 =>
      let n := b.at' k
      let t := b.tag n
      if tags.contains t then b.keep k
      else if t == "address" || t == "div" || t == "p" then go k
      else if b.isSpecial n then b
      else go k
  go b.stack.size

/-- Closes open elements from the innermost out to the first of the tag, stopping at a special
element. -/
def endTagOther (b : Builder) (name : String) : Builder :=
  let rec go : Nat → Builder
    | 0 => b
    | k + 1 =>
      let n := b.at' k
      if b.tag n == name then b.keep k
      else if b.isSpecial n then b
      else go k
  go b.stack.size

/-- One round of the adoption agency algorithm for the end tag `name`: either the tag is done
with (`none`) or another round follows. -/
def adoptRound (b : Builder) (name : String) : Builder × Bool :=
  -- the last formatting element of the tag since the last marker
  let rec findFormatting : Nat → Option Nat
    | 0 => none
    | j + 1 =>
      match b.formatting[j]? with
      | some none | none => none
      | some (some n) => if b.tag n == name then some n else findFormatting j
  match findFormatting b.formatting.size with
  | none => (b.endTagOther name, false)
  | some fe =>
    match lastIndex b.stack fe with
    | none => ({ b with formatting := removeLast b.formatting (some fe) }, false)
    | some feIndex =>
      if !b.inScope .plain [name] then (b, false) else
      let furthest := ((b.stack.toList.drop feIndex).find? fun e => b.isSpecial e)
      match furthest with
      | none =>
        ({ (b.keep feIndex) with formatting := removeLast b.formatting (some fe) }, false)
      | some fb =>
        let common := b.at' (feIndex - 1)
        let bookmark := (lastIndex b.formatting (some fe)).getD 0
        -- the inner loop
        let rec inner : Nat → Builder → Nat → Nat → Nat → Nat → Builder × Nat × Nat
          | 0, b, lastNode, _, bookmark, _ => (b, lastNode, bookmark)
          | fuel + 1, b, lastNode, x, bookmark, j =>
            let j := j + 1
            let x := x - 1
            let node := b.at' x
            if node == fe then (b, lastNode, bookmark)
            else
              match lastIndex b.formatting (some node) with
              | some ni =>
                if j > 3 then
                  let b := { b with formatting := removeLast b.formatting (some node) }
                  inner fuel b lastNode x (if ni ≤ bookmark then bookmark - 1 else bookmark) j
                else
                  let (b, copy) := b.cloneOf node
                  let b := { b with formatting := b.formatting.setIfInBounds ni (some copy) }
                  let b := match lastIndex b.stack node with
                    | some si => { b with stack := b.stack.setIfInBounds si copy }
                    | none => b
                  let bookmark := if lastNode == fb then ni + 1 else bookmark
                  let b := b.appendTo copy lastNode
                  inner fuel b copy x bookmark j
              | none =>
                let b := { b with stack := removeLast b.stack node }
                inner fuel b lastNode x bookmark j
        let start := (lastIndex b.stack fb).getD 0
        let (b, lastNode, bookmark) := inner (b.stack.size + 1) b fb start bookmark 0
        let b := b.detach lastNode
        let b := if tableTags.contains (b.tag common) then b.fosterParent lastNode
          else b.appendTo common lastNode
        let (b, copy) := b.cloneOf fe
        let b := b.moveChildren copy fb
        let b := b.appendTo fb copy
        let bookmark := match lastIndex b.formatting (some fe) with
          | some old => if old < bookmark then bookmark - 1 else bookmark
          | none => bookmark
        let b := { b with formatting := insertAt (removeLast b.formatting (some fe)) bookmark (some copy) }
        let b := { b with stack := removeLast b.stack fe }
        let b := match lastIndex b.stack fb with
          | some i => { b with stack := insertAt b.stack (i + 1) copy }
          | none => b
        (b, true)

def adopt (b : Builder) (name : String) : Builder :=
  let top := b.top
  if b.tag top == name && (lastIndex b.formatting (some top)).isNone then b.pop
  else
    let rec rounds : Nat → Builder → Builder
      | 0, b => b
      | k + 1, b =>
        let (b, again) := b.adoptRound name
        if again then rounds k b else b
    rounds 8 b

/-- Sets the insertion mode from the open elements, the context `body` standing for the `html`
element at the bottom. -/
def resetMode (b : Builder) : Builder :=
  let rec go : Nat → Builder
    | 0 => { b with mode := .inBody }
    | k + 1 =>
      let n := b.at' k
      let last := k == 0
      let t := if last then "body" else b.tag n
      let setMode (m : Mode) : Builder := { b with mode := m }
      match t with
      | "select" =>
        if last then setMode .inSelect
        else
          let below := (List.range k).reverse.find? fun i =>
            let a := b.tag (b.at' i)
            a == "template" || a == "table"
          match below.map fun i => b.tag (b.at' i) with
          | some "table" => setMode .inSelectInTable
          | _ => setMode .inSelect
      | "td" | "th" => setMode .inCell
      | "tr" => setMode .inRow
      | "tbody" | "thead" | "tfoot" => setMode .inTableBody
      | "caption" => setMode .inCaption
      | "colgroup" => setMode .inColumnGroup
      | "table" => setMode .inTable
      | "template" =>
        if b.ns n != "" then go k else setMode (b.templates.head?.getD .inBody)
      | "head" => setMode .inHead
      | "body" => setMode .inBody
      | _ => if last then setMode .inBody else go k
  go b.stack.size

/-- Opens a raw text element: its content is the next text token. -/
def rawTextElement (b : Builder) : Builder :=
  { b.addElement with savedMode := b.mode, mode := .text }

def mathTextPoint (b : Builder) (n : Nat) : Bool :=
  b.ns n == "math" && ["mi", "mo", "mn", "ms", "mtext"].contains (b.tag n)

def htmlPoint (b : Builder) (n : Nat) : Bool :=
  match b.ns n with
  | "math" =>
    b.tag n == "annotation-xml" && (b.attrs n).any fun (k, v) =>
      k == "encoding" &&
        (let lv := String.ofList (v.toList.map lowerAscii)
         lv == "text/html" || lv == "application/xhtml+xml")
  | "svg" => ["desc", "foreignObject", "title"].contains (b.tag n)
  | _ => false

def inForeign (b : Builder) : Bool :=
  let n := b.top
  if b.ns n == "" then false
  else
    let isStart := match b.tok with
      | .startTag _ _ _ => true
      | _ => false
    let isText := match b.tok with
      | .text _ => true
      | _ => false
    let startName := (b.startOf).1
    if b.mathTextPoint n && isStart && startName != "mglyph" && startName != "malignmark" then false
    else if b.mathTextPoint n && isText then false
    else if b.ns n == "math" && b.tag n == "annotation-xml" && isStart && startName == "svg" then false
    else if b.htmlPoint n && (isStart || isText) then false
    else if b.tok == .eof then false
    else true

end Builder

/-- What the rules of one mode may call: the rules of another mode for the current token, and
the handling of an implied token. -/
structure Calls where
  rules : Mode → BuildM Bool
  implied : Token → BuildM Unit

def update (f : Builder → Builder) : BuildM Unit := modify f

/-- Closes elements up to the innermost of the tags in scope; tells whether there was one. -/
def popUntilM (s : Scope) (tags : List String) : BuildM Bool := do
  let (b, found) := (← get).popUntil s tags
  set b
  pure found

def inHeadRules (c : Calls) : BuildM Bool := do
  let b ← get
  match b.tok with
  | .startTag name _ _ =>
    match name with
    | "html" => c.rules .inBody
    | "base" | "basefont" | "bgsound" | "command" | "link" | "meta" =>
      update fun b => b.addElement.pop
      pure true
    | "noscript" | "noframes" | "style" | "script" | "title" =>
      update Builder.rawTextElement
      pure true
    | "template" =>
      if b.stack.any fun n => b.ns n != "" then
        update fun b => { b with mode := .ignoreRest }
      else
        update fun b =>
          let b := b.addElement
          { b with formatting := b.formatting.push none, mode := .inTemplate,
                   templates := .inTemplate :: b.templates }
      pure true
    | _ => pure true
  | .endTag "template" =>
    if !b.hasOpen "template" then return true
    update fun b =>
      let b := b.closeImplied []
      let b := match (List.range b.stack.size).reverse.find? fun i =>
          b.ns (b.at' i) == "" && b.tag (b.at' i) == "template" with
        | some i => b.keep i
        | none => b
      let b := b.clearFormatting
      { b with templates := b.templates.drop 1 }.resetMode
    pure true
  | _ => pure true

def inBodyRules (c : Calls) : BuildM Bool := do
  let b ← get
  match b.tok with
  | .text d =>
    let top := b.top
    let d := if (b.tag top == "pre" || b.tag top == "listing") && (b.slot top).children.isEmpty then
        (if d.startsWith "\n" then (d.drop 1).toString else d)
      else d
    let d := dropNul d
    if d.isEmpty then return true
    update fun b => b.reconstruct.addText d
    pure true
  | .comment s =>
    update (·.addComment s)
    pure true
  | .doctype => pure true
  | .eof =>
    if !b.templates.isEmpty then
      update fun b => { b with mode := .inTemplate }
      pure false
    else pure true
  | .startTag name attrs _ =>
    match name with
    | "html" | "body" | "frameset" => pure true
    | "base" | "basefont" | "bgsound" | "command" | "link" | "meta" | "noframes" | "script"
    | "style" | "template" | "title" => c.rules .inHead
    | "pre" | "listing" | "plaintext" =>
      let _ ← popUntilM .button ["p"]
      update Builder.addElement
      pure true
    | "form" =>
      if b.form.isSome && !b.hasOpen "template" then return true
      let _ ← popUntilM .button ["p"]
      update fun b =>
        let b := b.addElement
        if b.hasOpen "template" then b else { b with form := some b.top }
      pure true
    | "li" | "dd" | "dt" =>
      let closes := if name == "li" then ["li"] else ["dd", "dt"]
      update (·.closeItems closes)
      let _ ← popUntilM .button ["p"]
      update Builder.addElement
      pure true
    | "button" =>
      let _ ← popUntilM .plain ["button"]
      update fun b => b.reconstruct.addElement
      pure true
    | "a" =>
      let rec findA : Nat → Option Nat
        | 0 => none
        | j + 1 =>
          match b.formatting[j]? with
          | some none | none => none
          | some (some n) => if b.tag n == "a" then some n else findA j
      match findA b.formatting.size with
      | some n =>
        update fun b =>
          let b := b.adopt "a"
          { b with stack := removeLast b.stack n, formatting := removeLast b.formatting (some n) }
      | none => pure ()
      update fun b => b.reconstruct.addFormattingElement
      pure true
    | "nobr" =>
      update Builder.reconstruct
      if (← get).inScope .plain ["nobr"] then
        update fun b => (b.adopt "nobr").reconstruct
      update Builder.addFormattingElement
      pure true
    | "applet" | "marquee" | "object" =>
      update fun b =>
        let b := b.reconstruct.addElement
        { b with formatting := b.formatting.push none }
      pure true
    | "table" =>
      let _ ← popUntilM .button ["p"]
      update fun b => { b.addElement with mode := .inTable }
      pure true
    | "area" | "br" | "embed" | "img" | "input" | "keygen" | "wbr" =>
      update fun b => b.reconstruct.addElement.pop
      pure true
    | "param" | "source" | "track" =>
      update fun b => b.addElement.pop
      pure true
    | "hr" =>
      let _ ← popUntilM .button ["p"]
      update fun b => b.addElement.pop
      pure true
    | "image" =>
      update fun b => { b with tok := .startTag "img" attrs false }
      pure false
    | "textarea" =>
      update Builder.rawTextElement
      pure true
    | "xmp" =>
      let _ ← popUntilM .button ["p"]
      update fun b => b.reconstruct.rawTextElement
      pure true
    | "iframe" | "noembed" | "noscript" =>
      update Builder.rawTextElement
      pure true
    | "select" =>
      update fun b => { b.reconstruct.addElement with mode := .inSelect }
      pure true
    | "optgroup" | "option" =>
      update fun b =>
        let b := if b.topTag == "option" then b.pop else b
        b.reconstruct.addElement
      pure true
    | "rb" | "rtc" =>
      update fun b =>
        let b := if b.inScope .plain ["ruby"] then b.closeImplied [] else b
        b.addElement
      pure true
    | "rp" | "rt" =>
      update fun b =>
        let b := if b.inScope .plain ["ruby"] then b.closeImplied ["rtc"] else b
        b.addElement
      pure true
    | "math" | "svg" =>
      update fun b =>
        let b := b.reconstruct
        let b := b.addElementOf name name (adjustAttrs name attrs)
        if b.selfClosing then b.pop else b
      pure true
    | "caption" | "col" | "colgroup" | "frame" | "head" | "tbody" | "td" | "tfoot" | "th"
    | "thead" | "tr" => pure true
    | _ =>
      if blockTags.contains name then
        let _ ← popUntilM .button ["p"]
        update Builder.addElement
        pure true
      else if headingTags.contains name then
        let _ ← popUntilM .button ["p"]
        update fun b =>
          let b := if headingTags.contains b.topTag then b.pop else b
          b.addElement
        pure true
      else if formattingTags.contains name then
        update fun b => b.reconstruct.addFormattingElement
        pure true
      else
        update fun b => b.reconstruct.addElement
        pure true
  | .endTag name =>
    match name with
    | "body" | "html" => pure true
    | "form" =>
      if b.hasOpen "template" then
        match b.indexInScope .plain ["form"] with
        | none => pure true
        | some i =>
          update fun b => b.closeImplied []
          if (← get).tag ((← get).at' i) != "form" then return true
          let _ ← popUntilM .plain ["form"]
          pure true
      else
        let node := b.form
        update fun b => { b with form := none }
        let b ← get
        match node, b.indexInScope .plain ["form"] with
        | some f, some i =>
          if b.at' i != f then return true
          update fun b =>
            let b := b.closeImplied []
            { b with stack := removeLast b.stack f }
          pure true
        | _, _ => pure true
    | "p" =>
      if !b.inScope .button ["p"] then c.implied (.startTag "p" [] false)
      let _ ← popUntilM .button ["p"]
      pure true
    | "li" =>
      let _ ← popUntilM .listItem ["li"]
      pure true
    | "dd" | "dt" =>
      let _ ← popUntilM .plain [name]
      pure true
    | "a" | "nobr" =>
      update (·.adopt name)
      pure true
    | "applet" | "marquee" | "object" =>
      if ← popUntilM .plain [name] then update Builder.clearFormatting
      pure true
    | "br" =>
      update fun b => { b with tok := .startTag "br" [] false }
      pure false
    | "template" => c.rules .inHead
    | _ =>
      if blockEndTags.contains name then
        let _ ← popUntilM .plain [name]
        pure true
      else if headingTags.contains name then
        let _ ← popUntilM .plain headingTags
        pure true
      else if formattingTags.contains name then
        update (·.adopt name)
        pure true
      else
        update (·.endTagOther name)
        pure true

/-- The rules of the `text` mode, for the content of a raw text element. -/
def textRules : BuildM Bool := do
  let b ← get
  match b.tok with
  | .text d =>
    let top := b.top
    let d := if b.tag top == "textarea" && (b.slot top).children.isEmpty && d.startsWith "\n" then
        (d.drop 1).toString
      else d
    if d.isEmpty then return true
    update (·.addText d)
    pure true
  | .eof =>
    update fun b => { b.pop with mode := b.savedMode }
    pure false
  | .endTag _ =>
    update fun b => { b.pop with mode := b.savedMode }
    pure true
  | _ =>
    update fun b => { b with mode := b.savedMode }
    pure false

def fosterRules (c : Calls) : BuildM Bool := do
  update fun b => { b with fostering := true }
  let r ← c.rules .inBody
  update fun b => { b with fostering := false }
  pure r

def inTableRules (c : Calls) : BuildM Bool := do
  let b ← get
  match b.tok with
  | .text d =>
    let d := dropNul d
    update fun b => { b with tok := .text d }
    if tableTags.contains b.topTag && isBlankText d then
      update (·.addText d)
      pure true
    else fosterRules c
  | .startTag name attrs _ =>
    match name with
    | "caption" =>
      update fun b =>
        let b := b.clearToContext .table
        let b := { b with formatting := b.formatting.push none }
        { b.addElement with mode := .inCaption }
      pure true
    | "colgroup" =>
      update fun b => { (b.clearToContext .table).addElement with mode := .inColumnGroup }
      pure true
    | "col" =>
      c.implied (.startTag "colgroup" [] false)
      pure false
    | "tbody" | "tfoot" | "thead" =>
      update fun b => { (b.clearToContext .table).addElement with mode := .inTableBody }
      pure true
    | "td" | "th" | "tr" =>
      c.implied (.startTag "tbody" [] false)
      pure false
    | "table" =>
      if ← popUntilM .table ["table"] then
        update Builder.resetMode
        pure false
      else pure true
    | "style" | "script" | "template" => c.rules .inHead
    | "input" =>
      let hidden := attrs.any fun (k, v) =>
        k == "type" && String.ofList (v.toList.map lowerAscii) == "hidden"
      if hidden then
        update fun b => b.addElement.pop
        pure true
      else fosterRules c
    | "form" =>
      if b.hasOpen "template" || b.form.isSome then return true
      update fun b =>
        let b := b.addElement
        { b.pop with form := some b.top }
      pure true
    | "select" =>
      update fun b =>
        let b := b.reconstruct
        let b := if tableTags.contains b.topTag then { b with fostering := true } else b
        let b := b.addElement
        { b with fostering := false, mode := .inSelectInTable }
      pure true
    | _ => fosterRules c
  | .endTag name =>
    match name with
    | "table" =>
      if ← popUntilM .table ["table"] then update Builder.resetMode
      pure true
    | "body" | "caption" | "col" | "colgroup" | "html" | "tbody" | "td" | "tfoot" | "th"
    | "thead" | "tr" => pure true
    | "template" => c.rules .inHead
    | _ => fosterRules c
  | .comment s =>
    update (·.addComment s)
    pure true
  | .doctype => pure true
  | .eof => c.rules .inBody

def inCaptionRules (c : Calls) : BuildM Bool := do
  let b ← get
  match b.tok with
  | .startTag name _ _ =>
    if ["caption", "col", "colgroup", "tbody", "td", "tfoot", "th", "thead", "tr"].contains name then
      if !(← popUntilM .table ["caption"]) then return true
      update fun b => { b.clearFormatting with mode := .inTable }
      pure false
    else if name == "select" then
      update fun b => { b.reconstruct.addElement with mode := .inSelectInTable }
      pure true
    else c.rules .inBody
  | .endTag name =>
    match name with
    | "caption" =>
      if ← popUntilM .table ["caption"] then
        update fun b => { b.clearFormatting with mode := .inTable }
      pure true
    | "table" =>
      if !(← popUntilM .table ["caption"]) then return true
      update fun b => { b.clearFormatting with mode := .inTable }
      pure false
    | "body" | "col" | "colgroup" | "html" | "tbody" | "td" | "tfoot" | "th" | "thead" | "tr" =>
      pure true
    | _ => c.rules .inBody
  | _ => c.rules .inBody

def inColumnGroupRules (c : Calls) : BuildM Bool := do
  let b ← get
  let leave : BuildM Bool := do
    if (← get).topTag != "colgroup" then return true
    update fun b => { b.pop with mode := .inTable }
    pure false
  match b.tok with
  | .text d =>
    let rest := String.ofList (d.toList.dropWhile isTagSpace)
    if rest.length < d.length then
      update (·.addText (String.ofList (d.toList.takeWhile isTagSpace)))
      if rest.isEmpty then return true
      update fun b => { b with tok := .text rest }
    leave
  | .comment s =>
    update (·.addComment s)
    pure true
  | .doctype => pure true
  | .startTag name _ _ =>
    match name with
    | "html" => c.rules .inBody
    | "col" =>
      update fun b => b.addElement.pop
      pure true
    | "template" => c.rules .inHead
    | _ => leave
  | .endTag name =>
    match name with
    | "colgroup" =>
      if b.topTag == "colgroup" then update fun b => { b.pop with mode := .inTable }
      pure true
    | "col" => pure true
    | "template" => c.rules .inHead
    | _ => leave
  | .eof => c.rules .inBody

def inTableBodyRules (c : Calls) : BuildM Bool := do
  let b ← get
  match b.tok with
  | .startTag name _ _ =>
    match name with
    | "tr" =>
      update fun b => { (b.clearToContext .tableBody).addElement with mode := .inRow }
      pure true
    | "td" | "th" =>
      c.implied (.startTag "tr" [] false)
      pure false
    | "caption" | "col" | "colgroup" | "tbody" | "tfoot" | "thead" =>
      if ← popUntilM .table ["tbody", "thead", "tfoot"] then
        update fun b => { b with mode := .inTable }
        pure false
      else pure true
    | _ => c.rules .inTable
  | .endTag name =>
    match name with
    | "tbody" | "tfoot" | "thead" =>
      if b.inScope .table [name] then
        update fun b => { (b.clearToContext .tableBody).pop with mode := .inTable }
      pure true
    | "table" =>
      if ← popUntilM .table ["tbody", "thead", "tfoot"] then
        update fun b => { b with mode := .inTable }
        pure false
      else pure true
    | "body" | "caption" | "col" | "colgroup" | "html" | "td" | "th" | "tr" => pure true
    | _ => c.rules .inTable
  | .comment s =>
    update (·.addComment s)
    pure true
  | _ => c.rules .inTable

def inRowRules (c : Calls) : BuildM Bool := do
  let b ← get
  match b.tok with
  | .startTag name _ _ =>
    match name with
    | "td" | "th" =>
      update fun b =>
        let b := (b.clearToContext .tableRow).addElement
        { b with formatting := b.formatting.push none, mode := .inCell }
      pure true
    | "caption" | "col" | "colgroup" | "tbody" | "tfoot" | "thead" | "tr" =>
      if ← popUntilM .table ["tr"] then
        update fun b => { b with mode := .inTableBody }
        pure false
      else pure true
    | _ => c.rules .inTable
  | .endTag name =>
    match name with
    | "tr" =>
      if ← popUntilM .table ["tr"] then update fun b => { b with mode := .inTableBody }
      pure true
    | "table" =>
      if ← popUntilM .table ["tr"] then
        update fun b => { b with mode := .inTableBody }
        pure false
      else pure true
    | "tbody" | "tfoot" | "thead" =>
      if b.inScope .table [name] then
        c.implied (.endTag "tr")
        pure false
      else pure true
    | "body" | "caption" | "col" | "colgroup" | "html" | "td" | "th" => pure true
    | _ => c.rules .inTable
  | _ => c.rules .inTable

def inCellRules (c : Calls) : BuildM Bool := do
  let b ← get
  match b.tok with
  | .startTag name _ _ =>
    if ["caption", "col", "colgroup", "tbody", "td", "tfoot", "th", "thead", "tr"].contains name then
      if ← popUntilM .table ["td", "th"] then
        update fun b => { b.clearFormatting with mode := .inRow }
        pure false
      else pure true
    else if name == "select" then
      update fun b => { b.reconstruct.addElement with mode := .inSelectInTable }
      pure true
    else c.rules .inBody
  | .endTag name =>
    match name with
    | "td" | "th" =>
      if !(← popUntilM .table [name]) then return true
      update fun b => { b.clearFormatting with mode := .inRow }
      pure true
    | "body" | "caption" | "col" | "colgroup" | "html" => pure true
    | "table" | "tbody" | "tfoot" | "thead" | "tr" =>
      if !b.inScope .table [name] then return true
      if ← popUntilM .table ["td", "th"] then update Builder.clearFormatting
      update fun b => { b with mode := .inRow }
      pure false
    | _ => c.rules .inBody
  | _ => c.rules .inBody

def inSelectRules (c : Calls) : BuildM Bool := do
  let b ← get
  match b.tok with
  | .text d =>
    update (·.addText (dropNul d))
    pure true
  | .startTag name _ _ =>
    match name with
    | "html" => c.rules .inBody
    | "option" =>
      update fun b => (if b.topTag == "option" then b.pop else b).addElement
      pure true
    | "optgroup" =>
      update fun b =>
        let b := if b.topTag == "option" then b.pop else b
        let b := if b.topTag == "optgroup" then b.pop else b
        b.addElement
      pure true
    | "select" =>
      if ← popUntilM .select ["select"] then update Builder.resetMode
      pure true
    | "input" | "keygen" | "textarea" =>
      if b.inScope .select ["select"] then
        c.implied (.endTag "select")
        pure false
      else
        update fun b => { b with rawOff := true }
        pure true
    | "script" | "template" => c.rules .inHead
    | "iframe" | "noembed" | "noframes" | "noscript" | "plaintext" | "style" | "title" | "xmp" =>
      update fun b => { b with rawOff := true }
      pure true
    | _ => pure true
  | .endTag name =>
    match name with
    | "option" =>
      if b.topTag == "option" then update Builder.pop
      pure true
    | "optgroup" =>
      let i := b.stack.size - 1
      let i := if b.tag (b.at' i) == "option" then i - 1 else i
      if b.tag (b.at' i) == "optgroup" then update (·.keep i)
      pure true
    | "select" =>
      if ← popUntilM .select ["select"] then update Builder.resetMode
      pure true
    | "template" => c.rules .inHead
    | _ => pure true
  | .comment s =>
    update (·.addComment s)
    pure true
  | .doctype => pure true
  | .eof => c.rules .inBody

def inSelectInTableRules (c : Calls) : BuildM Bool := do
  let b ← get
  let tableish := ["caption", "table", "tbody", "tfoot", "thead", "tr", "td", "th"]
  let leave : BuildM Bool := do
    update fun b =>
      let b := match (List.range b.stack.size).reverse.find? fun i => b.tag (b.at' i) == "select" with
        | some i => b.keep i
        | none => b
      b.resetMode
    pure false
  match b.tok with
  | .startTag name _ _ => if tableish.contains name then leave else c.rules .inSelect
  | .endTag name =>
    if tableish.contains name then
      if !b.inScope .table [name] then return true
      leave
    else c.rules .inSelect
  | _ => c.rules .inSelect

def inTemplateRules (c : Calls) : BuildM Bool := do
  let b ← get
  let switchTo (m : Mode) : BuildM Bool := do
    update fun b => { b with templates := m :: b.templates.drop 1, mode := m }
    pure false
  match b.tok with
  | .text _ | .comment _ | .doctype => c.rules .inBody
  | .startTag name _ _ =>
    match name with
    | "base" | "basefont" | "bgsound" | "link" | "meta" | "noframes" | "script" | "style"
    | "template" | "title" => c.rules .inHead
    | "caption" | "colgroup" | "tbody" | "tfoot" | "thead" => switchTo .inTable
    | "col" => switchTo .inColumnGroup
    | "tr" => switchTo .inTableBody
    | "td" | "th" => switchTo .inRow
    | _ => switchTo .inBody
  | .endTag name => if name == "template" then c.rules .inHead else pure true
  | .eof =>
    if !b.hasOpen "template" then return true
    update fun b =>
      let b := b.closeImplied []
      let b := match (List.range b.stack.size).reverse.find? fun i =>
          b.ns (b.at' i) == "" && b.tag (b.at' i) == "template" with
        | some i => b.keep i
        | none => b
      { b.clearFormatting with templates := b.templates.drop 1 }.resetMode
    pure false

def foreignRules (c : Calls) : BuildM Bool := do
  let b ← get
  match b.tok with
  | .text d =>
    update (·.addText (String.ofList (replaceNul d.toList)))
    pure true
  | .comment s =>
    update (·.addComment s)
    pure true
  | .startTag name attrs _ =>
    let ns := b.ns b.top
    let name := if ns == "svg" then svgTagName name else name
    update fun b =>
      let b := b.addElementOf ns name (adjustAttrs ns attrs)
      let b := { b with rawOff := true }
      if b.selfClosing then b.pop else b
    pure true
  | .endTag name =>
    let lowered := String.ofList (name.toList.map lowerAscii)
    let rec go : Nat → Option (Option Nat)
      | 0 => some none
      | k + 1 =>
        let n := b.at' k
        if b.ns n == "" then none
        else if String.ofList ((b.tag n).toList.map lowerAscii) == lowered then some (some k)
        else go k
    match go b.stack.size with
    | none => c.rules b.mode
    | some (some k) =>
      update (·.keep k)
      pure true
    | some none => pure true
  | _ => pure true

def modeRules (c : Calls) : Mode → BuildM Bool
  | .inBody => inBodyRules c
  | .inHead => inHeadRules c
  | .text => textRules
  | .inTable => inTableRules c
  | .inCaption => inCaptionRules c
  | .inColumnGroup => inColumnGroupRules c
  | .inTableBody => inTableBodyRules c
  | .inRow => inRowRules c
  | .inCell => inCellRules c
  | .inSelect => inSelectRules c
  | .inSelectInTable => inSelectInTableRules c
  | .inTemplate => inTemplateRules c
  | .ignoreRest => pure true

/-- What the builder is asked to do: apply the rules of a mode to the current token, handle an
implied token, or handle the current token until some rules consume it. -/
inductive Request where
  | rules (m : Mode)
  | implied (t : Token)
  | current

/-- Carries out a request, with at most `fuel` nested requests. -/
def serve : Nat → Request → BuildM Bool
  | 0, _ => pure true
  | fuel + 1, req =>
    let calls : Calls :=
      { rules := fun m => serve fuel (.rules m), implied := fun t => do let _ ← serve fuel (.implied t) }
    match req with
    | .rules m => modeRules calls m
    | .implied t => do
      let saved ← get
      update fun b => { b with tok := t, selfClosing := false }
      let _ ← serve fuel .current
      update fun b => { b with tok := saved.tok, selfClosing := saved.selfClosing }
      pure true
    | .current => do
      let mut consumed := false
      for _ in [0:32] do
        if consumed then break
        let b ← get
        consumed ← if b.inForeign then foreignRules calls else serve fuel (.rules b.mode)
      update fun b => { b with selfClosing := false }
      pure true

def Builder.treeOf (b : Builder) : Nat → Nat → Tree
  | 0, _ => .text ""
  | fuel + 1, i =>
    match (b.slot i).shape with
    | .element ns t a => .element ns t a ((b.slot i).children.toList.map (b.treeOf fuel))
    | .text s => .text s
    | .comment s => .comment s

end Bindery.Markup.Html
