import SoccerWorld.Document.Plain

/-!
# Values of a structured document

What a JSON or YAML text holds: scalars, lists, and objects as lists of named values in their
order, repeated names included.

Of YAML, a plain scalar has no type of its own; it is kept as written and read as whatever is asked
for.  The keys of a mapping are values, and a sequence is only ever read as a list, while an array
may also stand for a record.

A literal that is well formed and stands for nothing, such as a number beyond the doubles or half of
a surrogate pair, is `Value.unreadable`: it can be skipped but not read.
-/

namespace SoccerWorld

/-- A value in a structured document. -/
inductive Value where
  | null
  | bool (b : Bool)
  /-- A number written as an integer of at most 64 bits. -/
  | integer (n : Int)
  /-- Any other number. -/
  | real (x : Float)
  | text (s : String)
  /-- A scalar without quotes, to be read as whatever is asked for. -/
  | plain (s : String)
  /-- A well-formed literal that stands for no value. -/
  | unreadable
  /-- A list, which may also hold the fields of a record. -/
  | array (items : List Value)
  /-- A list that holds nothing but items. -/
  | sequence (items : List Value)
  /-- Named values. -/
  | object (fields : List (String × Value))
  /-- Values with any values as their keys. -/
  | mapping (pairs : List (Value × Value))

namespace Value

/-- The number of a finite double; a double that is not finite has none. -/
def ofFloat (x : Float) : Value :=
  if x.isFinite then real x else null

/-- The number of a natural number. -/
def ofNat (n : Nat) : Value :=
  integer n

/-- The value of an optional value. -/
def ofOption {α : Type} (write : α → Value) : Option α → Value
  | none => null
  | some a => write a

/-- The list of values. -/
def ofList {α : Type} (write : α → Value) (xs : List α) : Value :=
  array (xs.map write)

/-- Stands for the absence of a value. -/
def isNull : Value → Bool
  | null => true
  | plain s => Plain.isNull s.toList
  | _ => false

/-- The truth value. -/
def bool? : Value → Option Bool
  | bool b => some b
  | plain s => Plain.bool? s.toList
  | _ => none

/-- The integer. -/
def integer? : Value → Option Int
  | integer n => some n
  | plain s => Plain.integer? s.toList
  | _ => none

/-- The natural number. -/
def natural? : Value → Option Nat
  | integer n => if 0 ≤ n then some n.toNat else none
  | plain s => Plain.natural? s.toList
  | _ => none

/-- The natural number, if it is below a bound. -/
def naturalBelow? (bound : Nat) (v : Value) : Option Nat :=
  v.natural?.filter fun n => n < bound

/-- The number. -/
def real? : Value → Option Float
  | integer n => some (Float.ofInt n)
  | real x => some x
  | plain s => Plain.real? s.toList
  | _ => none

/-- The text; every plain scalar is one. -/
def text? : Value → Option String
  | text s => some s
  | plain s => some s
  | _ => none

/-- One of a fixed set of words; an object that holds the word with nothing is the word too. -/
def word? : Value → Option String
  | text s => some s
  | plain s => some s
  | object [(s, null)] => some s
  | _ => none

/-- The list; an empty plain scalar is the empty list. -/
def items? : Value → Option (List Value)
  | array items => some items
  | sequence items => some items
  | plain s => if s.isEmpty then some [] else none
  | _ => none

/-- Nothing for an absent value, else what is read. -/
def optional? {α : Type} (read : Value → Option α) (v : Value) : Option (Option α) :=
  if v.isNull then some none else (read v).map some

/-- Every item of the list is read. -/
def list? {α : Type} (read : Value → Option α) (v : Value) : Option (List α) :=
  v.items?.bind fun items => items.mapM read

/-! ## Values without a known type -/

/-- A plain scalar with the type that its spelling suggests. -/
def ofPlain (s : String) : Value :=
  let cs := s.toList
  if Plain.isNull cs then null
  else
    match Plain.bool? cs with
    | some b => bool b
    | none =>
        match Plain.natural? cs with
        | some n => integer n
        | none =>
            match Plain.integer? cs with
            | some n => integer n
            | none =>
                if Plain.isLongInteger cs then unreadable
                else if Plain.isPaddedDigits cs then text s
                else
                  match Plain.real? cs with
                  | some x => real x
                  | none => text s

/-- The value, where a plain scalar has the type that its spelling suggests. -/
def typed : Value → Value
  | plain s => ofPlain s
  | v => v

mutual

/-- The value can be kept without knowing what it will be read as: no part of it is unreadable. -/
def isReadable : Value → Bool
  | unreadable => false
  | plain s => !Plain.isLongInteger s.toList
  | array items => areItemsReadable items
  | sequence items => areItemsReadable items
  | object fields => areFieldsReadable fields
  | mapping pairs => arePairsReadable pairs
  | _ => true

/-- No item of the list has an unreadable part. -/
def areItemsReadable : List Value → Bool
  | [] => true
  | v :: rest => isReadable v && areItemsReadable rest

/-- No field of the object has an unreadable part. -/
def areFieldsReadable : List (String × Value) → Bool
  | [] => true
  | (_, v) :: rest => isReadable v && areFieldsReadable rest

/-- No key or value of the mapping has an unreadable part. -/
def arePairsReadable : List (Value × Value) → Bool
  | [] => true
  | (key, v) :: rest => isReadable key && isReadable v && arePairsReadable rest

end

/-! ## Nesting -/

mutual

/-- The value with at most `levels` levels of lists and objects; those below are unreadable. -/
def limit : (levels : Nat) → Value → Value
  | 0, array _ => unreadable
  | 0, sequence _ => unreadable
  | 0, object _ => unreadable
  | 0, mapping _ => unreadable
  | levels + 1, array items => array (limitItems levels items)
  | levels + 1, sequence items => sequence (limitItems levels items)
  | levels + 1, object fields => object (limitFields levels fields)
  | levels + 1, mapping pairs => mapping (limitPairs levels pairs)
  | _, v => v

/-- The items of a list, each with at most `levels` levels. -/
def limitItems (levels : Nat) : List Value → List Value
  | [] => []
  | v :: rest => limit levels v :: limitItems levels rest

/-- The fields of an object, each with at most `levels` levels. -/
def limitFields (levels : Nat) : List (String × Value) → List (String × Value)
  | [] => []
  | (name, v) :: rest => (name, limit levels v) :: limitFields levels rest

/-- The pairs of a mapping, keys and values with at most `levels` levels. -/
def limitPairs (levels : Nat) : List (Value × Value) → List (Value × Value)
  | [] => []
  | (key, v) :: rest => (limit levels key, limit levels v) :: limitPairs levels rest

end

end Value

end SoccerWorld
