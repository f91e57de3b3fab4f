import Bindery.Markup.Html

/-!
# Writing HTML

`Tree.render` writes a parsed node back as HTML text: attributes in double quotes, the
characters `& ' < > "` and carriage return as references, void elements closed by `/>`, the
children of script-like HTML elements written literally, and a newline doubled at the head of
`pre`, `listing` and `textarea` so that reading the text again keeps it. A `plaintext` element
has no end tag, so nothing after it in the same tree is written; a void element with children
cannot be written, and the writing stops there.
-/

namespace Bindery.Markup.Html

/-- The reference that stands for a character in text and attribute values, if any. -/
def escapeChar : Char → Option String
  | '&' => some "&amp;"
  | '\'' => some "&#39;"
  | '<' => some "&lt;"
  | '>' => some "&gt;"
  | '"' => some "&#34;"
  | '\r' => some "&#13;"
  | _ => none

def escape (s : String) : String :=
  s.foldl (fun acc c => acc ++ (escapeChar c).getD (String.singleton c)) ""

/-- The text of a comment: an ampersand is escaped, and so is a `>` at the head or after `!` or
`-`, except in the last place. -/
def escapeComment (s : String) : String :=
  let cs := s.toList
  let rec go (prev : Option Char) : List Char → String
    | [] => ""
    | [c] => String.singleton c
    | c :: rest =>
      let here :=
        if c == '&' then "&amp;"
        else if c == '>' && (prev.isNone || prev == some '!' || prev == some '-') then "&gt;"
        else String.singleton c
      here ++ go (some c) rest
  go none cs

def literalText (tag : String) : Bool :=
  ["iframe", "noembed", "noframes", "noscript", "plaintext", "script", "style", "xmp"].contains tag

/-- How writing a node ended: normally, stopped after a `plaintext` element (whose content runs
to the end of the text, so nothing after it in the same tree is written), or failed at a void
element that has children, after which nothing more is written at all. -/
inductive Written where
  | done
  | stopped
  | failed
deriving BEq, Inhabited

mutual
def Tree.write : Tree → String × Written
  | .text s => (escape s, .done)
  | .comment s => ("<!--" ++ escapeComment s ++ "-->", .done)
  | .element ns tag attrs children =>
    let head := "<" ++ tag ++ String.join (attrs.map fun (k, v) => " " ++ k ++ "=\"" ++ escape v ++ "\"")
    if isVoid tag then
      if children.isEmpty then (head ++ "/>", .done) else (head, .failed)
    else
    let lead := match children with
      | .text s :: _ => if s.startsWith "\n" && ["pre", "listing", "textarea"].contains tag then "\n" else ""
      | _ => ""
    let literal := ns == "" && literalText tag
    let (inner, ending) := Tree.writeChildren literal children
    let opened := head ++ ">" ++ lead ++ inner
    if ending != .done then (opened, ending)
    else if literal && tag == "plaintext" then (opened, .stopped)
    else (opened ++ "</" ++ tag ++ ">", .done)
/-- The HTML text of a list of sibling nodes; with `literal`, text is written unescaped. -/
def Tree.writeChildren (literal : Bool) : List Tree → String × Written
  | [] => ("", .done)
  | t :: rest =>
    let (here, ending) : String × Written := match t with
      | .text s => (if literal then s else escape s, .done)
      | other => Tree.write other
    if ending != .done then (here, ending)
    else
      let (more, ending) := Tree.writeChildren literal rest
      (here ++ more, ending)
end

def Tree.render (t : Tree) : String := t.write.1

/-- The HTML text of a fragment: each top-level node in turn, until one fails. -/
def renderAll : List Tree → String
  | [] => ""
  | t :: rest =>
    let (text, ending) := t.write
    if ending == .failed then text else text ++ renderAll rest

end Bindery.Markup.Html
