import SoccerWorld.Document.Yaml.Cell

/-!
# Scalars of a YAML text

A scalar is plain, in single quotes or in double quotes, and may go on over several lines.  The
blanks around a line end are dropped; a single line feed becomes a blank, and of several line feeds
all but the first are kept.
-/

namespace SoccerWorld
namespace Yaml

/-! ## Gaps -/

/-- What stands between two runs of characters in a scalar. -/
inductive Gap where
  /-- Blanks on one line, in reverse. -/
  | blanks (past : List Char)
  /-- Line ends, those after the first one in reverse.  There is no first one where it was
  escaped. -/
  | breaks (first : Option Char) (further : List Char)

namespace Gap

/-- No gap at all. -/
def empty : Gap :=
  blanks []

/-- Something stands in the gap. -/
def isPresent : Gap → Bool
  | blanks past => !past.isEmpty
  | breaks _ _ => true

/-- A line ends in the gap. -/
def isBroken : Gap → Bool
  | blanks _ => false
  | breaks _ _ => true

/-- The gap with one more blank or line end; blanks around line ends do not count. -/
def extend (c : Char) : Gap → Gap
  | blanks past => if isBreak c then breaks (some c) [] else blanks (c :: past)
  | breaks first further => if isBreak c then breaks first (c :: further) else breaks first further

/-- What the gap leaves in the scalar, in reverse. -/
def text : Gap → List Char
  | blanks past => past
  | breaks none further => further
  | breaks (some first) further =>
      if first = '\n' then if further.isEmpty then [' '] else further
      else further ++ [first]

end Gap

/-! ## Plain scalars -/

/-- One of the characters that structure a flow collection. -/
def isFlowMark (c : Char) : Bool :=
  [',', '[', ']', '{', '}'].contains c

/-- A plain scalar ends before a cell that is not blank.  After a gap it also ends at a comment, at
a document mark, and in a block where the text is indented by less than `least`. -/
def endsPlain (inFlow : Bool) (least : Nat) (gap : Gap) (cell : Cell) (rest : List Cell) : Bool :=
  (cell.char = ':' && atGap rest) || (inFlow && isFlowMark cell.char) ||
    (gap.isPresent &&
      (cell.char = '#' || (!inFlow && cell.column < least) || atDocumentMark (cell :: rest)))

/-- A plain scalar, whether a line ends after it, and the cells after the gap that follows it.  The
characters so far are given in reverse. -/
def readPlain (inFlow : Bool) (least : Nat) : (past : List Char) → Gap → List Cell →
    Option (String × Bool × List Cell)
  | past, gap, [] => some (String.ofList past.reverse, gap.isBroken, [])
  | past, gap, cell :: rest =>
      if isGap cell.char then
        -- Where blanks indent a line, no tab may stand among them.
        if cell.char = '\t' && gap.isBroken && cell.column < least then none
        else readPlain inFlow least past (gap.extend cell.char) rest
      else if inFlow && cell.char = ':' && atOneOf [',', '?', '[', ']', '{', '}'] rest then none
      else if endsPlain inFlow least gap cell rest then
        some (String.ofList past.reverse, gap.isBroken, cell :: rest)
      else readPlain inFlow least (cell.char :: (gap.text ++ past)) Gap.empty rest

/-! ## Quoted scalars -/

/-- A scalar in single quotes, and the cells after the closing one.  The characters so far are given
in reverse. -/
def readSingle : (past : List Char) → Gap → List Cell → Option (String × List Cell)
  | _, _, [] => none
  | past, gap, cell :: rest =>
      if atDocumentMark (cell :: rest) then none
      else if isGap cell.char then readSingle past (gap.extend cell.char) rest
      else
        let past := gap.text ++ past
        if cell.char = '\'' then
          match rest with
          | [] => some (String.ofList past.reverse, [])
          | next :: after =>
              -- A quote inside the scalar is written twice.
              if next.char = '\'' then readSingle ('\'' :: past) Gap.empty after
              else some (String.ofList past.reverse, next :: after)
        else readSingle (cell.char :: past) Gap.empty rest

/-- The character of an escape with one letter in double quotes. -/
def simpleEscape? (c : Char) : Option Char :=
  match c with
  | '0' => some (Char.ofNat 0)
  | 'a' => some (Char.ofNat 7)
  | 'b' => some (Char.ofNat 8)
  | 't' => some '\t'
  | '\t' => some '\t'
  | 'n' => some '\n'
  | 'v' => some (Char.ofNat 11)
  | 'f' => some (Char.ofNat 12)
  | 'r' => some (Char.ofNat 13)
  | 'e' => some (Char.ofNat 27)
  | ' ' => some ' '
  | '"' => some '"'
  | '/' => some '/'
  | '\\' => some '\\'
  | 'N' => some (Char.ofNat 0x85)
  | '_' => some (Char.ofNat 0xa0)
  | 'L' => some (Char.ofNat 0x2028)
  | 'P' => some (Char.ofNat 0x2029)
  | _ => none

/-- Number of hexadecimal digits in an escape. -/
def hexLength (c : Char) : Nat :=
  if c = 'x' then 2 else if c = 'u' then 4 else if c = 'U' then 8 else 0

/-- The character with the number that some hexadecimal digits spell, if there is one. -/
def charOfHex? (digits : List Char) : Option Char :=
  (Plain.digits? 16 digits).bind fun n => if n.isValidChar then some (Char.ofNat n) else none

/-- The character of an escape, given its letter and the cells after that. -/
def escaped? (letter : Char) (rest : List Cell) : Option Char :=
  if hexLength letter = 0 then simpleEscape? letter
  else if rest.length < hexLength letter then none
  else charOfHex? ((rest.take (hexLength letter)).map Cell.char)

/-- A scalar in double quotes, and the cells after the closing one.  The characters so far are given
in reverse. -/
def readDouble (past : List Char) (gap : Gap) : List Cell → Option (String × List Cell)
  | [] => none
  | cell :: rest =>
      if atDocumentMark (cell :: rest) then none
      else if isGap cell.char then readDouble past (gap.extend cell.char) rest
      else
        let past := gap.text ++ past
        if cell.char = '"' then some (String.ofList past.reverse, rest)
        else if cell.char = '\\' then
          match rest with
          | [] => none
          | letter :: after =>
              if isBreak letter.char then readDouble past (Gap.breaks none []) after
              else
                match escaped? letter.char after with
                | none => none
                | some c => readDouble (c :: past) Gap.empty (after.drop (hexLength letter.char))
        else readDouble (cell.char :: past) Gap.empty rest
termination_by cells => cells.length
decreasing_by all_goals simp only [List.length_cons, List.length_drop]; omega

end Yaml
end SoccerWorld
