import Bindery.Markup.Build

/-!
# Reading HTML fragments

`parse` reads a fragment the way a browser reads the content of a `body` element: carriage
returns become line feeds, the tokenizer and the tree builder take turns token by token, and the
children of the `html` element that holds the fragment are its top-level nodes.
-/

namespace Bindery.Markup.Html

/-- Text with each carriage return, alone or before a line feed, read as one line feed. -/
def newlines : List Char → List Char
  | [] => []
  | '\r' :: '\n' :: rest => '\n' :: newlines rest
  | '\r' :: rest => '\n' :: newlines rest
  | c :: rest => c :: newlines rest

/-- Feeds the tokens of the text to the builder, at most `fuel` of them. -/
def feed : Nat → Tokenizer → Builder → Builder
  | 0, _, b => b
  | fuel + 1, t, b =>
    let t := { t with allowCDATA := b.ns b.top != "" }
    let (tok, t) := t.next
    let selfClosing := match tok with
      | .startTag _ _ s => s
      | _ => false
    let b := { b with tok, selfClosing, rawOff := false }
    let b := ((serve 64 .current).run b).2
    let t := if b.rawOff then { t with rawTag := "" } else t
    if tok == .eof then b else feed fuel t b

def parse (text : String) : List Tree :=
  let src := (newlines text.toList).toArray
  let b := feed (src.size + 2) { src } {}
  (b.slot 0).children.toList.map (b.treeOf (b.slots.size + 1))

/-- Elements that never have content and are written without an end tag. -/
def isVoid (tag : String) : Bool :=
  ["area", "base", "br", "col", "embed", "hr", "img", "input", "keygen", "link", "meta", "param",
    "source", "track", "wbr"].contains tag

end Bindery.Markup.Html
