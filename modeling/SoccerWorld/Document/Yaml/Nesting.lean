import SoccerWorld.Document.Yaml.Token

/-!
# Values from the tokens of a YAML text

The tokens of a document are taken one after the other.  At each point there is either a slot, where
the next value belongs, or a pause between two values of an open collection; around it are the slots
of the outer collections.  A slot before a token that cannot begin a value stays empty, which is the
same as a plain scalar without characters.
-/

namespace SoccerWorld
namespace Yaml

/-- A pair of a mapping. -/
abbrev Pair := Value × Value

/-- A place for a value.  Items and pairs before it are given in reverse. -/
inductive Slot where
  /-- The place for the whole document, whose beginning is marked or not. -/
  | document (isMarked : Bool)
  /-- After the dash of a list with its own block. -/
  | entry (past : List Value)
  /-- After the dash of a list that stands as deep as the mapping around it. -/
  | looseEntry (past : List Value)
  /-- After the sign of a key in a block. -/
  | key (past : List Pair)
  /-- After a key and its colon in a block. -/
  | value (past : List Pair) (key : Value)
  /-- Between brackets, at the beginning or after a comma. -/
  | item (past : List Value)
  /-- Between brackets, after the sign of a key. -/
  | itemKey (past : List Value)
  /-- Between brackets, after a key and its colon. -/
  | itemValue (past : List Value) (key : Value)
  /-- Between braces, at the beginning or after a comma. -/
  | field (past : List Pair)
  /-- Between braces, after the sign of a key. -/
  | fieldKey (past : List Pair)
  /-- Between braces, after a key and its colon. -/
  | fieldValue (past : List Pair) (key : Value)

/-- A point between two values.  Items and pairs before it are given in reverse. -/
inductive Pause where
  /-- The document is complete. -/
  | document (v : Value)
  /-- Before a dash of a list with its own block. -/
  | list (past : List Value)
  /-- Before a dash of a list that stands as deep as the mapping around it. -/
  | looseList (past : List Value)
  /-- Before a key in a block. -/
  | pairs (past : List Pair)
  /-- Between a key and its colon in a block. -/
  | colon (past : List Pair) (key : Value)
  /-- Between brackets, after an item. -/
  | items (past : List Value)
  /-- Between brackets, after a key. -/
  | itemColon (past : List Value) (key : Value)
  /-- Between braces, after a pair. -/
  | fields (past : List Pair)
  /-- Between braces, after a key. -/
  | fieldColon (past : List Pair) (key : Value)

/-- The value of a slot that stays empty. -/
def emptyValue : Value :=
  .plain ""

/-- The point after a slot has its value. -/
def Slot.fill (v : Value) : Slot → Pause
  | document _ => .document v
  | entry past => .list (v :: past)
  | looseEntry past => .looseList (v :: past)
  | key past => .colon past v
  | value past k => .pairs ((k, v) :: past)
  | item past => .items (v :: past)
  | itemKey past => .itemColon past v
  | itemValue past k => .items (.mapping [(k, v)] :: past)
  -- Without the sign of a key there is no colon either.
  | field past => .fields ((v, emptyValue) :: past)
  | fieldKey past => .fieldColon past v
  | fieldValue past k => .fields ((k, v) :: past)

/-- How far the tokens of a document have been taken. -/
inductive Nesting where
  /-- A value may begin in the slot. -/
  | atSlot (slot : Slot) (outer : List Slot)
  /-- A value ended, or none may begin. -/
  | atPause (pause : Pause) (outer : List Slot)

namespace Nesting

/-- The innermost collection is complete. -/
def close? (v : Value) : List Slot → Option Nesting
  | [] => none
  | slot :: outer => some (atPause (slot.fill v) outer)

/-- A value begins in a slot. -/
def begin? (slot : Slot) (outer : List Slot) (token : Token) : Option Nesting :=
  let inBlock :=
    match slot with
    | .document _ | .entry _ | .looseEntry _ | .key _ | .value _ _ => true
    | _ => false
  let inMapping :=
    match slot with
    | .key _ | .value _ _ => true
    | _ => false
  match token with
  | .scalar v => some (atPause (slot.fill v) outer)
  | .listOpen => some (atSlot (.item []) (slot :: outer))
  | .mappingOpen => some (atSlot (.field []) (slot :: outer))
  | .blockList => if inBlock then some (atPause (.list []) (slot :: outer)) else none
  | .blockMapping => if inBlock then some (atPause (.pairs []) (slot :: outer)) else none
  | .dash => if inMapping then some (atSlot (.looseEntry []) (slot :: outer)) else none
  | _ => none

/-- The pause before a token, after the parts that the token shows to be missing: the value of a key
without a colon, and the end of a list that stands as deep as the mapping around it. -/
def settle (token : Token) (pause : Pause) (outer : List Slot) : Pause × List Slot :=
  let (pause, outer) :=
    match pause, outer, token with
    | .looseList past, outer, .dash => (Pause.looseList past, outer)
    | .looseList past, slot :: outer, _ => (slot.fill (.sequence past.reverse), outer)
    | pause, outer, _ => (pause, outer)
  match pause, token with
  | .colon past key, .colon => (.colon past key, outer)
  | .colon past key, _ => (.pairs ((key, emptyValue) :: past), outer)
  | .itemColon past key, .colon => (.itemColon past key, outer)
  | .itemColon past key, _ => (.items (.mapping [(key, emptyValue)] :: past), outer)
  | .fieldColon past key, .colon => (.fieldColon past key, outer)
  | .fieldColon past key, _ => (.fields ((key, emptyValue) :: past), outer)
  | pause, _ => (pause, outer)

/-- The token that follows a pause. -/
def resume? (pause : Pause) (outer : List Slot) (token : Token) : Option Nesting :=
  let (pause, outer) := settle token pause outer
  match pause, token with
  | .document v, .documentEnd => some (atPause (.document v) outer)
  | .list past, .dash => some (atSlot (.entry past) outer)
  | .list past, .blockEnd => close? (.sequence past.reverse) outer
  | .looseList past, .dash => some (atSlot (.looseEntry past) outer)
  | .pairs past, .key => some (atSlot (.key past) outer)
  | .pairs past, .blockEnd => close? (.mapping past.reverse) outer
  | .colon past key, .colon => some (atSlot (.value past key) outer)
  | .items past, .comma => some (atSlot (.item past) outer)
  | .items past, .listClose => close? (.sequence past.reverse) outer
  | .itemColon past key, .colon => some (atSlot (.itemValue past key) outer)
  | .fields past, .comma => some (atSlot (.field past) outer)
  | .fields past, .mappingClose => close? (.mapping past.reverse) outer
  | .fieldColon past key, .colon => some (atSlot (.fieldValue past key) outer)
  | _, _ => none

/-- The slot stays empty before the token. -/
def staysEmpty : Slot → Token → Bool
  | .document true, .documentStart => true
  | .document true, .documentEnd => true
  | .entry _, .dash => true
  | .entry _, .blockEnd => true
  | .looseEntry _, .dash | .looseEntry _, .key | .looseEntry _, .colon
  | .looseEntry _, .blockEnd => true
  | .key _, .key | .key _, .colon | .key _, .blockEnd => true
  | .value _ _, .key | .value _ _, .colon | .value _ _, .blockEnd => true
  | .itemValue _ _, .comma | .itemValue _ _, .listClose => true
  | .fieldKey _, .colon | .fieldKey _, .comma | .fieldKey _, .mappingClose => true
  | .fieldValue _ _, .comma | .fieldValue _ _, .mappingClose => true
  | _, _ => false

/-- The token at a slot. -/
def atSlot? (slot : Slot) (outer : List Slot) (token : Token) : Option Nesting :=
  match slot, token with
  | .document false, .documentStart => some (atSlot (.document true) outer)
  | .item past, .listClose => close? (.sequence past.reverse) outer
  | .item past, .key => some (atSlot (.itemKey past) outer)
  -- An empty key between brackets takes the sign after it with it.
  | .itemKey past, .colon | .itemKey past, .comma | .itemKey past, .listClose =>
      some (atPause (.itemColon past emptyValue) outer)
  | .field past, .mappingClose => close? (.mapping past.reverse) outer
  | .field past, .key => some (atSlot (.fieldKey past) outer)
  | slot, token =>
      if staysEmpty slot token then resume? (slot.fill emptyValue) outer token
      else begin? slot outer token

/-- What one more token makes of the nesting. -/
def take? : Nesting → Token → Option Nesting
  | atSlot slot outer, token => atSlot? slot outer token
  | atPause pause outer, token => resume? pause outer token

/-- The value of a document after its last token. -/
def value? : Nesting → Option Value
  | atSlot (.document _) _ => some emptyValue
  | atPause (.document v) _ => some v
  | _ => none

end Nesting

/-- The value of the document that some tokens make up. -/
def valueOfTokens? (tokens : List Token) : Option Value :=
  (tokens.foldlM Nesting.take? (.atSlot (.document false) [])).bind Nesting.value?

end Yaml
end SoccerWorld
