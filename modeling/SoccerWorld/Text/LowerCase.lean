import SoccerWorld.Text.CaseTables

/-!
# Lower case

The full lower-case mapping of Unicode, which depends on no language.  Two letters are special:
the dotted capital I becomes two characters, and the capital sigma has a final form at the end of a
word.
-/

namespace SoccerWorld
namespace Text

/-- A code point lies in one of the ranges. -/
def inRanges (ranges : List (Nat × Nat)) (n : Nat) : Bool :=
  ranges.any fun range => range.1 ≤ n && n ≤ range.2

/-- The first character that is not ignorable is a letter with a case. -/
def startsCased (cs : List Char) : Bool :=
  match cs.dropWhile fun c => inRanges CaseTables.caseIgnorable c.toNat with
  | [] => false
  | c :: _ => inRanges CaseTables.cased c.toNat

/-- The lower-case letter of a capital letter in the table, else the character itself. -/
def lowerSimple (c : Char) : Char :=
  let n := c.toNat
  match CaseTables.lower.find? fun (first, last, step, _) =>
      first ≤ n && n ≤ last && (n - first) % step = 0 with
  | some (_, _, _, offset) => Char.ofNat ((n : Int) + offset).toNat
  | none => c

/-- The lower case of a character between the characters `before` it, given in reverse, and those
`after` it. -/
def lowerChar (before : List Char) (c : Char) (after : List Char) : List Char :=
  if c = 'Σ' then
    if startsCased before && !startsCased after then ['ς'] else ['σ']
  else if c = 'İ' then ['i', Char.ofNat 0x307]
  else [lowerSimple c]

/-- Lower case of the characters that follow those in `before`, given in reverse. -/
def lowerFrom (before : List Char) : List Char → List Char
  | [] => []
  | c :: after => lowerChar before c after ++ lowerFrom (c :: before) after

/-- A text in lower case. -/
def lower (cs : List Char) : List Char :=
  lowerFrom [] cs

end Text
end SoccerWorld
