import Bindery.Text.Case

/-!
# Searching, splitting and replacing in texts

Positions in a text are byte offsets into its UTF-8 encoding. The empty text occurs at every
position, so it is found at the start by a search from the left and at the end by a search from
the right.

Splitting cuts a text at the occurrences of a separator, found from the left without overlap; a
limit caps the number of pieces, the last piece keeping the rest of the text uncut. The empty
separator cuts between every two characters. Replacing works on the same occurrences, up to a
limit; the empty text occurs before every character and at the end.
-/

namespace Bindery.Text

/-- The byte offset of the first occurrence of `sub` in `s`, or -1. -/
def byteIndex (s sub : String) : Int :=
  let hay := s.toUTF8.toList
  let needle := sub.toUTF8.toList
  match (List.range (hay.length + 1)).find? (fun i => needle.isPrefixOf (hay.drop i)) with
  | some i => i
  | none => -1

/-- The byte offset of the last occurrence of `sub` in `s`, or -1. -/
def lastByteIndex (s sub : String) : Int :=
  let hay := s.toUTF8.toList
  let needle := sub.toUTF8.toList
  match (List.range (hay.length + 1)).reverse.find? (fun i => needle.isPrefixOf (hay.drop i)) with
  | some i => i
  | none => -1

/-- The pieces of characters between the occurrences of a non-empty separator, found from the
left, at most `fuel` steps; `cur` holds the current piece reversed. -/
def cutAt (sep : List Char) : Nat → List Char → List Char → List (List Char)
  | 0, cur, rest => [cur.reverse ++ rest]
  | _ + 1, cur, [] => [cur.reverse]
  | fuel + 1, cur, c :: rest =>
    if !sep.isEmpty && sep.isPrefixOf (c :: rest) then
      cur.reverse :: cutAt sep fuel [] ((c :: rest).drop sep.length)
    else cutAt sep fuel (c :: cur) rest

/-- The pieces of a text between the occurrences of a separator; every character alone when the
separator is empty. -/
def pieces (s sep : String) : List String :=
  if sep.isEmpty then s.toList.map Char.toString
  else (cutAt sep.toList (s.length + 1) [] s.toList).map String.ofList

/-- A text cut at a separator into at most `limit` pieces (all of them when `limit` is negative,
none when it is zero), the last piece holding the rest; with `keep`, every piece but the last
keeps the separator that ended it. -/
def splitLimited (s sep : String) (limit : Int) (keep : Bool) : List String :=
  if limit == 0 then [] else
  if sep.isEmpty then
    let cs := s.toList
    let n := if limit < 0 || limit > cs.length then cs.length else limit.toNat
    if n == 0 then [] else (cs.take (n - 1)).map Char.toString ++ [String.ofList (cs.drop (n - 1))]
  else
    let ps := pieces s sep
    let n := if limit < 0 then ps.length else min limit.toNat ps.length
    ((ps.take (n - 1)).map fun p => if keep then p ++ sep else p) ++ [sep.intercalate (ps.drop (n - 1))]

/-- A text with the first `limit` occurrences of `old` replaced by `new` (all of them when
`limit` is negative). -/
def replaceLimited (s old new : String) (limit : Int) : String :=
  if old == new || limit == 0 then s else
  if old.isEmpty then
    let cs := s.toList
    let slots := cs.length + 1
    let n := if limit < 0 || limit > slots then slots else limit.toNat
    String.join (cs.zipIdx.map fun (c, i) => (if i < n then new else "") ++ c.toString) ++
      (if n == slots then new else "")
  else
    let ps := pieces s old
    let found := ps.length - 1
    if found == 0 then s else
    let n := if limit < 0 || limit > found then found else limit.toNat
    new.intercalate (ps.take (n + 1)) ++ String.join ((ps.drop (n + 1)).map (old ++ ·))

def trimSet (s : String) (set : List Char) : String :=
  String.ofList ((s.toList.dropWhile set.contains).reverse.dropWhile set.contains).reverse

def dropPrefix (s pre : String) : String :=
  if s.startsWith pre then String.ofList (s.toList.drop pre.length) else s

def dropSuffix (s suf : String) : String :=
  if s.endsWith suf then String.ofList (s.toList.take (s.length - suf.length)) else s

end Bindery.Text
