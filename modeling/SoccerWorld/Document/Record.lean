import SoccerWorld.Document.Value

/-!
# Reading records

A record is an object or mapping with known field names, or an array of the fields' values in their
declared order; an empty plain scalar is a record without fields.  Unknown names are ignored; a
known name may not occur twice, and an array may not be longer than the record.

A tagged record names its variant in one field, or in the first value of a list.  What the rest of
it means is known only after the tag was found, and so the rest is read more freely: plain scalars
have the types that their spellings suggest, a sequence is as good as an array, and a mapping may
give a field by its number.
-/

namespace SoccerWorld

/-- The fields of a record as they were found. -/
structure Record where
  /-- Known fields with their values. -/
  entries : List (String × Value)
  /-- The record was written as a list. -/
  isPositional : Bool

namespace Record

/-- The record with named fields; those without a name among `names` are ignored. -/
def ofFields? (names : List String) (fields : List (String × Value)) : Option Record :=
  let known := fields.filter fun field => names.contains field.1
  if (known.map Prod.fst).Nodup then some ⟨known, false⟩ else none

/-- The record with keyed fields, where every key must give a name. -/
def ofKeyed? {κ : Type} (nameOf : κ → Option String) (names : List String)
    (fields : List (κ × Value)) : Option Record := do
  let named ← fields.mapM fun (key, v) => (nameOf key).map fun name => (name, v)
  ofFields? names named

/-- The record with the values of its first fields. -/
def ofItems? (names : List String) (items : List Value) : Option Record :=
  if items.length ≤ names.length then some ⟨names.zip items, true⟩ else none

/-- The record with the known fields `names`. -/
def read? (names : List String) : Value → Option Record
  | .object fields => ofFields? names fields
  | .mapping pairs => ofKeyed? Value.text? names pairs
  | .array items => ofItems? names items
  | .plain s => if s.isEmpty then some ⟨[], false⟩ else none
  | _ => none

/-- The value of a field, if it was found. -/
def get? (record : Record) (name : String) : Option Value :=
  record.entries.lookup name

/-- A field that must be found. -/
def required {α : Type} (record : Record) (name : String) (read : Value → Option α) :
    Option α :=
  (record.get? name).bind read

/-- A field that may be absent from an object, or null. -/
def nullable {α : Type} (record : Record) (name : String) (read : Value → Option α) :
    Option (Option α) :=
  match record.get? name with
  | some v => v.optional? read
  | none => if record.isPositional then none else some none

/-- A field that may be absent and then has a given value. -/
def withDefault {α : Type} (record : Record) (name : String) (default : α)
    (read : Value → Option α) : Option α :=
  match record.get? name with
  | some v => read v
  | none => some default

/-- A field that may be absent, or null. -/
def optional {α : Type} (record : Record) (name : String) (read : Value → Option α) :
    Option (Option α) :=
  record.withDefault name none (Value.optional? read)

end Record

/-! ## Tagged records -/

/-- What the key of a mapping says in a tagged record. -/
inductive FieldKey where
  /-- The name of a field. -/
  | name (s : String)
  /-- The number of a field. -/
  | number (n : Nat)
  /-- Nothing that a field can have. -/
  | other

namespace FieldKey

/-- What a key says. -/
def ofValue : Value → FieldKey
  | .text s => name s
  | .plain s =>
      match Plain.natural? s.toList, Value.ofPlain s with
      | some n, _ => number n
      | none, .text s => name s
      | none, _ => other
  | _ => other

/-- The name in a list of names; a number beyond the list has an empty name, and what is no key of
a field has none at all. -/
def nameIn? (names : List String) : FieldKey → Option String
  | name s => some s
  | number n => some (names.getD n "")
  | other => none

end FieldKey

/-- What a tagged record holds besides its tag. -/
inductive TaggedBody where
  /-- Values with their keys. -/
  | named (fields : List (FieldKey × Value))
  /-- Values in the declared order of the fields. -/
  | listed (items : List Value)

namespace TaggedBody

/-- The record with the known fields `names`. -/
def record? (names : List String) : TaggedBody → Option Record
  | named fields => Record.ofKeyed? (FieldKey.nameIn? names) names fields
  | listed items => Record.ofItems? names items

/-- Holds no values in order; values with keys are ignored where a variant has no fields. -/
def isBare : TaggedBody → Bool
  | named _ => true
  | listed items => items.isEmpty

/-- The body with some fields, if their values can be kept before their meaning is known. -/
def ofFields? (fields : List (Value × Value)) : Option TaggedBody :=
  if Value.arePairsReadable fields then
    some (named (fields.map fun (key, v) => (FieldKey.ofValue key, v.typed)))
  else none

/-- The body with some values in order, if they can be kept before their meaning is known. -/
def ofItems? (items : List Value) : Option TaggedBody :=
  if Value.areItemsReadable items then some (listed (items.map Value.typed)) else none

end TaggedBody

/-- The fields of an object or mapping, each with a value as its key. -/
def Value.pairs? : Value → Option (List (Value × Value))
  | object fields => some (fields.map fun (name, v) => (text name, v))
  | mapping pairs => some pairs
  | _ => none

/-- The variant that a tagged record names, and the rest of the record. -/
def Record.tagged? (tag : String) (v : Value) : Option (String × TaggedBody) :=
  let isTag (pair : Value × Value) : Bool := pair.1.text? = some tag
  let named (pairs : List (Value × Value)) : Option (String × TaggedBody) :=
    match pairs.filter isTag with
    | [(_, word)] => do
        let s ← word.text?
        let body ← TaggedBody.ofFields? (pairs.filter fun pair => !isTag pair)
        pure (s, body)
    | _ => none
  let listed (items : List Value) : Option (String × TaggedBody) :=
    match items with
    | word :: rest => do
        let s ← word.text?
        let body ← TaggedBody.ofItems? rest
        pure (s, body)
    | [] => none
  match v with
  | .array items | .sequence items => listed items
  | v => v.pairs?.bind named

/-- One of a list of words in a tagged record: the word itself, or an object or mapping whose only
key is the word, or its number, and which holds nothing there. -/
def Value.choice? (words : List String) (v : Value) : Option String :=
  let holdsNothing (v : Value) : Bool :=
    match v.typed with
    | null => true
    | object fields => fields.isEmpty
    | mapping pairs => pairs.isEmpty
    | _ => false
  match v, v.pairs? with
  | text s, _ => some s
  | _, some [(key, inner)] =>
      if holdsNothing inner then (FieldKey.ofValue key).nameIn? words else none
  | _, _ => none

end SoccerWorld
