import Bindery.Text.Case

/-!
# Case folding orbits

Letters that are equal up to case form a folding class: the letters whose simple case folding
is the same. A search that ignores case takes a letter to match every letter of its class.

`simpleFold` steps from a letter to the next letter of its class, in code point order, wrapping
around to the least; stepping from a letter comes back to it after as many steps as the class
has letters. For most letters the class is the letter and its other case, and the step is that
other case. The letters for which the step is not their other case are listed in `foldSteps`:
members of classes of three or four letters (such as `k`, `K` and the Kelvin sign), and letters
whose other case is not in their class (dotted capital I and dotless small i, which form classes
of their own).
-/

namespace Bindery.Text

/-- The letters whose next letter of their folding class is not their other case, with that
next letter. -/
def foldSteps : Array (Nat × Nat) := #[
  (0x006B, 0x212A), (0x0073, 0x017F), (0x00DF, 0x1E9E), (0x00E5, 0x212B), (0x0130, 0x0130),
  (0x0131, 0x0131), (0x01C4, 0x01C5), (0x01C7, 0x01C8), (0x01CA, 0x01CB), (0x01F1, 0x01F2),
  (0x0390, 0x1FD3), (0x03A3, 0x03C2), (0x03B0, 0x1FE3), (0x03B2, 0x03D0), (0x03B5, 0x03F5),
  (0x03B8, 0x03D1), (0x03B9, 0x1FBE), (0x03BA, 0x03F0), (0x03BC, 0x00B5), (0x03C0, 0x03D6),
  (0x03C1, 0x03F1), (0x03C2, 0x03C3), (0x03C6, 0x03D5), (0x03C9, 0x2126), (0x03D1, 0x03F4),
  (0x03F4, 0x0398), (0x0432, 0x1C80), (0x0434, 0x1C81), (0x043E, 0x1C82), (0x0441, 0x1C83),
  (0x0442, 0x1C84), (0x044A, 0x1C86), (0x0463, 0x1C87), (0x1C84, 0x1C85), (0x1E61, 0x1E9B),
  (0x1FBE, 0x0345), (0x1FD3, 0x0390), (0x1FE3, 0x03B0), (0x2126, 0x03A9), (0x212A, 0x004B),
  (0x212B, 0x00C5), (0xA64B, 0x1C88), (0xFB05, 0xFB06), (0xFB06, 0xFB05)]

def simpleFold (c : Char) : Char :=
  match foldSteps.find? (·.1 == c.toNat) with
  | some (_, next) => Char.ofNat next
  | none =>
    let l := lowerChar c
    if l != c then l else upperChar c

/-- The letters after `c` in its folding class, up to `start`, at most `fuel` of them. -/
def foldRest (start : Char) : Nat → Char → List Char
  | 0, _ => []
  | fuel + 1, c =>
    let next := simpleFold c
    if next == start then [] else next :: foldRest start fuel next

/-- The letters of a letter's folding class, the letter first. No class has more than four
letters. -/
def foldOrbit (c : Char) : List Char := c :: foldRest c 4 c

end Bindery.Text
