import SoccerWorld.Document.Value

/-!
# Cells of a YAML text

A text is read as a list of cells, characters with their places.  The places decide where blocks
begin and end.  A return, a feed, both together and a next-line character all become one line feed;
the line and paragraph separators end a line too and stay what they are.
-/

namespace SoccerWorld
namespace Yaml

/-- A character with its place. -/
structure Cell where
  /-- Lines before its own. -/
  line : Nat
  /-- Characters before it on its line. -/
  column : Nat
  /-- The character. -/
  char : Char

/-- The character ends a line.  Returns and next-line characters are line feeds by then. -/
def isBreak (c : Char) : Bool :=
  c = '\n' || c.toNat = 0x2028 || c.toNat = 0x2029

/-- Blank within a line. -/
def isSpace (c : Char) : Bool :=
  c = ' ' || c = '\t'

/-- A byte-order mark. -/
def isOrderMark (c : Char) : Bool :=
  c.toNat = 0xfeff

/-- Blank, or the end of a line. -/
def isGap (c : Char) : Bool :=
  isSpace c || isBreak c

/-- The character may stand in a text. -/
def isAllowed (c : Char) : Bool :=
  let n := c.toNat
  n = 9 || n = 10 || n = 13 || (0x20 ≤ n && n ≤ 0x7e) || n = 0x85 ||
    (0xa0 ≤ n && n ≤ 0xd7ff) || (0xe000 ≤ n && n ≤ 0xfffd) || 0x10000 ≤ n

/-- The cells of a text from a place on, after the `past` ones, which are given in reverse. -/
def cellsFrom (past : List Cell) (line column : Nat) : List Char → List Cell
  | [] => past.reverse
  | '\r' :: '\n' :: rest => cellsFrom (⟨line, column, '\n'⟩ :: past) (line + 1) 0 rest
  | c :: rest =>
      let c := if c = '\r' || c.toNat = 0x85 then '\n' else c
      if isBreak c then cellsFrom (⟨line, column, c⟩ :: past) (line + 1) 0 rest
      else cellsFrom (⟨line, column, c⟩ :: past) line (column + 1) rest

/-- The cells of a text. -/
def cells (s : String) : List Cell :=
  cellsFrom [] 0 0 s.toList

/-- The text ends here, or something blank stands here. -/
def atGap : List Cell → Bool
  | [] => true
  | cell :: _ => isGap cell.char

/-- One of some characters stands here. -/
def atOneOf (cs : List Char) : List Cell → Bool
  | [] => false
  | cell :: _ => cs.contains cell.char

/-- A line begins here with three times the same character and then a gap. -/
def atTriple (c : Char) : List Cell → Bool
  | first :: second :: third :: rest =>
      first.column = 0 && [first, second, third].all (fun cell => cell.char = c) && atGap rest
  | _ => false

/-- The mark of a document's beginning or end stands here. -/
def atDocumentMark (cells : List Cell) : Bool :=
  atTriple '-' cells || atTriple '.' cells

end Yaml
end SoccerWorld
