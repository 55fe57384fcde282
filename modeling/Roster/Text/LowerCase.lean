import Roster.Text.LowerCase.Table

/-!
# Lower-casing a text

Each letter goes to its lower-case form. Two letters need more than a table: the dotted capital I
becomes two characters, and a capital sigma becomes the final form at the end of a word. A sigma
ends a word when a cased character stands before it and none after it, looking past the
characters that are ignored for case.
-/

namespace Roster.Text

namespace LowerCase

/-- The lower-case form of a code point found in the runs, if it lies in one of them. -/
def inRuns? (code : Nat) : Option Nat :=
  (runs.find? fun (first, last, step, _) =>
    first ≤ code && code ≤ last && (code - first) % step == 0).map
    fun (first, _, _, lower) => lower + (code - first)

/-- The lower-case form of one character, away from the rule for the final sigma. -/
def char (c : Char) : List Char :=
  if c.toNat < 0x80 then
    [c.toLower]
  else if c.toNat = 0x130 then
    ['i', '\u0307']
  else
    [((inRuns? c.toNat).map Char.ofNat).getD c]

/-- Whether the first character that is not ignored for case is cased. -/
def meetsCased (cs : List Char) : Bool :=
  match cs.dropWhile fun c => ignorableRanges.contains c.toNat with
  | [] => false
  | c :: _ => casedRanges.contains c.toNat

/-- Lower-case the characters `rest`, which follow the reversed characters `before`. -/
def chars (before : List Char) : (rest : List Char) → List Char
  | [] => []
  | c :: rest =>
    (if c = 'Σ' then [if meetsCased before && !meetsCased rest then 'ς' else 'σ'] else char c) ++
      chars (c :: before) rest

end LowerCase

/-- The text in lower case. -/
def lower (s : String) : String :=
  String.ofList (LowerCase.chars [] s.toList)

end Roster.Text
