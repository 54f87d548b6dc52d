import SoccerWorld.Document.Yaml.Scalar

/-!
# Tokens of a YAML text

A text is a row of tokens: its scalars, the signs between them, and the beginnings and ends of its
blocks, which the columns of the cells tell.  Whether a scalar or a collection is the key of a pair
shows only at the colon after it; the tokens of the pair are then put in before the key.

A key without a sign of its own stands on one line with its colon, at most 1024 characters before
it.  In a block, keys and entries begin a line or follow the sign of an outer pair or entry.

Anchors, tags, block scalars and directives are refused.
-/

namespace SoccerWorld
namespace Yaml

/-- A token of a text. -/
inductive Token where
  /-- A scalar. -/
  | scalar (v : Value)
  | documentStart
  | documentEnd
  | blockList
  | blockMapping
  | blockEnd
  /-- The dash before an entry of a list in a block. -/
  | dash
  /-- A key begins here. -/
  | key
  /-- The colon before the value of a pair. -/
  | colon
  | listOpen
  | listClose
  | mappingOpen
  | mappingClose
  | comma

/-- Something that is a key if a colon follows it. -/
structure PossibleKey where
  /-- The line of its first cell. -/
  line : Nat
  /-- The column of its first cell. -/
  column : Nat
  /-- Number of tokens before it. -/
  tokensBefore : Nat
  /-- It stands where the keys of a block stand, so a colon must follow. -/
  isRequired : Bool

/-- What the cells so far say about those that follow. -/
structure Layout where
  /-- The tokens so far, in reverse. -/
  past : List Token := []
  /-- Number of tokens so far. -/
  count : Nat := 0
  /-- Columns of the open blocks, innermost first. -/
  blocks : List Nat := []
  /-- A key or an entry of a block may stand here. -/
  keyAllowed : Bool := true
  /-- The last possible key in the innermost collection. -/
  key : Option PossibleKey := none
  /-- The last possible keys around each open flow collection, innermost first. -/
  outerKeys : List (Option PossibleKey) := []

namespace Layout

/-- A flow collection is open. -/
def inFlow (layout : Layout) : Bool :=
  !layout.outerKeys.isEmpty

/-- The layout after one more token. -/
def push (token : Token) (layout : Layout) : Layout :=
  { layout with past := token :: layout.past, count := layout.count + 1 }

/-- The layout with a token put in after the first `before` ones. -/
def insert (before : Nat) (token : Token) (layout : Layout) : Layout :=
  let later := layout.count - before
  { layout with
    past := layout.past.take later ++ token :: layout.past.drop later
    count := layout.count + 1 }

/-- The layout in which keys and entries are allowed or not. -/
def allowKey (allowed : Bool) (layout : Layout) : Layout :=
  { layout with keyAllowed := allowed }

/-! ## Possible keys -/

/-- Nothing before this place is a key any more. -/
def dropKey? (layout : Layout) : Option Layout :=
  if layout.key.any PossibleKey.isRequired then none else some { layout with key := none }

/-- At a place too far from the possible key, that is none any more. -/
def dropStaleKey? (line column : Nat) (layout : Layout) : Option Layout :=
  if layout.key.any fun key => key.line < line || key.column + 1024 < column then layout.dropKey?
  else some layout

/-- What begins at a cell is a possible key, if keys are allowed here. -/
def noteKey? (cell : Cell) (layout : Layout) : Option Layout :=
  if layout.keyAllowed then
    layout.dropKey?.map fun layout =>
      { layout with
        key := some
          { line := cell.line
            column := cell.column
            tokensBefore := layout.count
            isRequired := !layout.inFlow && layout.blocks.head? = some cell.column } }
  else some layout

/-! ## Blocks -/

/-- In a block, the blocks that are indented more than a column end; all end without a column. -/
def closeBlocks (column : Option Nat) (layout : Layout) : Layout :=
  if layout.inFlow then layout
  else
    let closed := layout.blocks.takeWhile fun block => column.all fun column => column < block
    { layout with
      past := List.replicate closed.length .blockEnd ++ layout.past
      count := layout.count + closed.length
      blocks := layout.blocks.drop closed.length }

/-- In a block, a block with a token for its beginning opens at a column that is indented more than
the open ones.  Its token comes after the first `before` ones. -/
def openBlock (before column : Nat) (token : Token) (layout : Layout) : Layout :=
  if !layout.inFlow && layout.blocks.head?.all fun block => block < column then
    { layout with blocks := column :: layout.blocks }.insert before token
  else layout

/-- A sign that begins a pair or an entry, at a column; in a block it may open the block with the
token `block`, and it must stand where keys and entries may stand. -/
def beginEntry? (column : Nat) (block : Token) (layout : Layout) : Option Layout :=
  if layout.inFlow then some layout
  else if layout.keyAllowed then some (layout.openBlock layout.count column block)
  else none

/-! ## Tokens with one character -/

/-- The mark of a document's beginning or end. -/
def documentMark? (token : Token) (layout : Layout) : Option Layout :=
  (layout.closeBlocks none).dropKey?.map fun layout => (layout.allowKey false).push token

/-- A flow collection opens at a cell. -/
def openFlow? (cell : Cell) (token : Token) (layout : Layout) : Option Layout :=
  (layout.noteKey? cell).map fun layout =>
    ({ layout with key := none, outerKeys := layout.key :: layout.outerKeys }.allowKey true).push
      token

/-- The innermost flow collection closes. -/
def closeFlow? (token : Token) (layout : Layout) : Option Layout :=
  layout.dropKey?.map fun layout =>
    ({ layout with key := layout.outerKeys.head?.join, outerKeys := layout.outerKeys.drop 1
      }.allowKey false).push token

/-- A comma. -/
def comma? (layout : Layout) : Option Layout :=
  layout.dropKey?.map fun layout => (layout.allowKey true).push .comma

/-- The dash of an entry at a column. -/
def dash? (column : Nat) (layout : Layout) : Option Layout :=
  (layout.beginEntry? column .blockList).bind fun layout =>
    layout.dropKey?.map fun layout => (layout.allowKey true).push .dash

/-- The sign of a key at a column. -/
def keySign? (column : Nat) (layout : Layout) : Option Layout :=
  (layout.beginEntry? column .blockMapping).bind fun layout =>
    layout.dropKey?.map fun layout => (layout.allowKey !layout.inFlow).push .key

/-- A colon at a column.  If there is a possible key, it is the key. -/
def colon? (column : Nat) (layout : Layout) : Option Layout :=
  match layout.key with
  | some key =>
      let layout := { layout with key := none }.insert key.tokensBefore .key
      let layout := layout.openBlock key.tokensBefore key.column .blockMapping
      some ((layout.allowKey false).push .colon)
  | none =>
      (layout.beginEntry? column .blockMapping).map fun layout =>
        (layout.allowKey !layout.inFlow).push .colon

/-! ## Scalars -/

/-- One of the characters with which no plain scalar begins. -/
def isIndicator (c : Char) : Bool :=
  isSpace c || isFlowMark c ||
    ['#', '&', '*', '!', '|', '>', '\'', '"', '%', '@', Char.ofNat 0x60].contains c

/-- A scalar that begins at a cell, and the cells after it. -/
def scalar? (cell : Cell) (rest : List Cell) (layout : Layout) : Option (Layout × List Cell) :=
  (layout.noteKey? cell).bind fun layout =>
    let layout := layout.allowKey false
    if cell.char = '\'' then
      (readSingle [] Gap.empty rest).map fun (s, rest) => (layout.push (.scalar (.text s)), rest)
    else if cell.char = '"' then
      (readDouble [] Gap.empty rest).map fun (s, rest) => (layout.push (.scalar (.text s)), rest)
    else if isIndicator cell.char then none
    else
      let least := (layout.blocks.head?.map fun block => block + 1).getD 0
      (readPlain layout.inFlow least [cell.char] Gap.empty rest).map
        fun (s, isBroken, rest) =>
          ((layout.allowKey isBroken).push (.scalar (.plain s)), rest)

/-! ## Reading tokens -/

/-- Whether keys are allowed, and the cells from the next one that is neither blank nor part of a
comment.  A line end allows keys in a block; tabs are blank only where no key is allowed.  A line
may begin with a byte-order mark, which keeps its column. -/
def skipBlank (inFlow : Bool) : (keyAllowed inComment : Bool) → List Cell → Bool × List Cell
  | keyAllowed, _, [] => (keyAllowed, [])
  | keyAllowed, inComment, cell :: rest =>
      if isBreak cell.char then skipBlank inFlow (keyAllowed || !inFlow) false rest
      else if inComment || cell.char = ' ' || (cell.char = '\t' && (inFlow || !keyAllowed)) ||
          (cell.column = 0 && isOrderMark cell.char) then
        skipBlank inFlow keyAllowed inComment rest
      else if cell.char = '#' then skipBlank inFlow keyAllowed true rest
      else (keyAllowed, cell :: rest)

/-- The token that begins at a cell, and the cells after it. -/
def next? (cell : Cell) (rest : List Cell) (layout : Layout) : Option (Layout × List Cell) :=
  let signed (layout : Option Layout) : Option (Layout × List Cell) :=
    layout.map fun layout => (layout, rest)
  let isSign := layout.inFlow || atGap rest
  if atTriple '-' (cell :: rest) then
    (layout.documentMark? .documentStart).map fun layout => (layout, rest.drop 2)
  else if atTriple '.' (cell :: rest) then
    (layout.documentMark? .documentEnd).map fun layout => (layout, rest.drop 2)
  else if cell.char = '[' then signed (layout.openFlow? cell .listOpen)
  else if cell.char = '{' then signed (layout.openFlow? cell .mappingOpen)
  else if cell.char = ']' then signed (layout.closeFlow? .listClose)
  else if cell.char = '}' then signed (layout.closeFlow? .mappingClose)
  else if cell.char = ',' then signed layout.comma?
  else if cell.char = '-' && atGap rest then signed (layout.dash? cell.column)
  else if cell.char = '?' && isSign then signed (layout.keySign? cell.column)
  else if cell.char = ':' && isSign then signed (layout.colon? cell.column)
  else layout.scalar? cell rest

/-- All tokens of a text, from a layout and the cells after it.  The fuel bounds the steps. -/
def tokens? : (fuel : Nat) → Layout → List Cell → Option (List Token)
  | 0, _, _ => none
  | fuel + 1, layout, cells =>
      let (keyAllowed, cells) := skipBlank layout.inFlow layout.keyAllowed false cells
      let layout := layout.allowKey keyAllowed
      match cells with
      | [] => (layout.closeBlocks none).dropKey?.map fun layout => layout.past.reverse
      | cell :: rest =>
          match layout.dropStaleKey? cell.line cell.column with
          | none => none
          | some layout =>
              match (layout.closeBlocks (some cell.column)).next? cell rest with
              | none => none
              | some (layout, rest) => tokens? fuel layout rest

end Layout

/-- The tokens of a text; each takes at least one cell. -/
def tokens? (cells : List Cell) : Option (List Token) :=
  Layout.tokens? (cells.length + 1) {} cells

end Yaml
end SoccerWorld
