import SoccerWorld.Document.Value
import SoccerWorld.Numeric.DecimalText

/-!
# JSON texts

Reading accepts exactly the JSON grammar.  Writing has two layouts: compact, and indented by two
spaces per level with one item per line.
-/

namespace SoccerWorld
namespace Json

/-! ## Strings -/

/-- The text of an integer. -/
def integerText (n : Int) : String :=
  if n < 0 then "-" ++ toString n.natAbs else toString n.natAbs

/-- The hexadecimal digit of a number below sixteen. -/
def hexDigit (n : Nat) : Char :=
  Nat.digitChar n

/-- A character inside quotes. -/
def escape (c : Char) : List Char :=
  if c = '"' then ['\\', '"']
  else if c = '\\' then ['\\', '\\']
  else if c = '\n' then ['\\', 'n']
  else if c = '\r' then ['\\', 'r']
  else if c = '\t' then ['\\', 't']
  else if c.toNat = 8 then ['\\', 'b']
  else if c.toNat = 12 then ['\\', 'f']
  else if c.toNat < 32 then ['\\', 'u', '0', '0', hexDigit (c.toNat / 16), hexDigit (c.toNat % 16)]
  else [c]

/-- A text in quotes. -/
def quote (s : String) : String :=
  String.ofList ('"' :: (s.toList.flatMap escape ++ ['"']))

/-! ## Writing -/

/-- A scalar; what JSON has no form for is written as null. -/
def scalarText : Value → String
  | .bool true => "true"
  | .bool false => "false"
  | .integer n => integerText n
  | .real x => DecimalText.document x
  | .text s => quote s
  | _ => "null"

mutual

/-- A value on one line without spaces. -/
def compact : Value → String
  | .array items => "[" ++ compactItems items ++ "]"
  | .sequence items => "[" ++ compactItems items ++ "]"
  | .object fields => "\x7b" ++ compactFields fields ++ "\x7d"
  | v => scalarText v

/-- Items with commas between them. -/
def compactItems : List Value → String
  | [] => ""
  | [v] => compact v
  | v :: rest => compact v ++ "," ++ compactItems rest

/-- Named values with commas between them. -/
def compactFields : List (String × Value) → String
  | [] => ""
  | [(name, v)] => quote name ++ ":" ++ compact v
  | (name, v) :: rest => quote name ++ ":" ++ compact v ++ "," ++ compactFields rest

end

/-- The beginning of a line at a level. -/
def indent (level : Nat) : String :=
  String.ofList ('\n' :: List.replicate (2 * level) ' ')

mutual

/-- A value over several lines, from a position at a level. -/
def pretty (level : Nat) : Value → String
  | .array [] => "[]"
  | .array (v :: rest) =>
      "[" ++ prettyItems (level + 1) (v :: rest) ++ indent level ++ "]"
  | .sequence [] => "[]"
  | .sequence (v :: rest) =>
      "[" ++ prettyItems (level + 1) (v :: rest) ++ indent level ++ "]"
  | .object [] => "\x7b\x7d"
  | .object (field :: rest) =>
      "\x7b" ++ prettyFields (level + 1) (field :: rest) ++ indent level ++ "\x7d"
  | v => scalarText v

/-- Items, one per line, with commas between them. -/
def prettyItems (level : Nat) : List Value → String
  | [] => ""
  | [v] => indent level ++ pretty level v
  | v :: rest => indent level ++ pretty level v ++ "," ++ prettyItems level rest

/-- Named values, one per line, with commas between them. -/
def prettyFields (level : Nat) : List (String × Value) → String
  | [] => ""
  | [(name, v)] => indent level ++ quote name ++ ": " ++ pretty level v
  | (name, v) :: rest =>
      indent level ++ quote name ++ ": " ++ pretty level v ++ "," ++ prettyFields level rest

end

/-! ## Reading -/

/-- A text without the blanks at its beginning. -/
def skipBlank (cs : List Char) : List Char :=
  cs.dropWhile fun c => c = ' ' || c = '\n' || c = '\t' || c = '\r'

/-- The number of four hexadecimal digits at the beginning of a text, and the rest. -/
def hex4? : List Char → Option (Nat × List Char)
  | a :: b :: c :: d :: rest => (Plain.digits? 16 [a, b, c, d]).map fun n => (n, rest)
  | _ => none

/-- The character that a one-letter escape stands for. -/
def simpleEscape? : Char → Option Char
  | '"' => some '"'
  | '\\' => some '\\'
  | '/' => some '/'
  | 'b' => some (Char.ofNat 8)
  | 'f' => some (Char.ofNat 12)
  | 'n' => some '\n'
  | 'r' => some '\r'
  | 't' => some '\t'
  | _ => none

/-- The low half of a surrogate pair, written as an escape at the beginning of a text. -/
def lowSurrogate? : List Char → Option (Nat × List Char)
  | '\\' :: 'u' :: rest =>
      (hex4? rest).filter fun found => 0xdc00 ≤ found.1 && found.1 < 0xe000
  | _ => none

/-- The text up to the closing quote, and what follows it.  `past` holds the characters read so far
in reverse, or nothing once half of a surrogate pair was found. -/
def readString : (fuel : Nat) → (past : Option (List Char)) → List Char →
    Option (Option String × List Char)
  | 0, _, _ => none
  | _ + 1, _, [] => none
  | _ + 1, past, '"' :: rest => some (past.map fun cs => String.ofList cs.reverse, rest)
  | fuel + 1, past, '\\' :: 'u' :: rest =>
      match hex4? rest with
      | none => none
      | some (n, rest) =>
          if 0xd800 ≤ n && n < 0xe000 then
            match if n < 0xdc00 then lowSurrogate? rest else none with
            | some (low, rest) =>
                let c := Char.ofNat (0x10000 + (n - 0xd800) * 0x400 + (low - 0xdc00))
                readString fuel (past.map fun cs => c :: cs) rest
            -- Half of a pair stands for no character.
            | none => readString fuel none rest
          else readString fuel (past.map fun cs => Char.ofNat n :: cs) rest
  | fuel + 1, past, '\\' :: c :: rest =>
      match simpleEscape? c with
      | none => none
      | some c => readString fuel (past.map fun cs => c :: cs) rest
  | fuel + 1, past, c :: rest =>
      if c.toNat < 32 then none else readString fuel (past.map fun cs => c :: cs) rest

/-- The text of a value in quotes. -/
def textValue : Option String → Value
  | some s => .text s
  | none => .unreadable

/-- The number with the given parts; `fraction` and `exponent` are absent from an integer. -/
def numberValue (negative : Bool) (whole : List Char) (fraction : Option (List Char))
    (exponent : Option Int) : Value :=
  let places := fraction.getD []
  let size := (Plain.digits? 10 (whole ++ places)).getD 0
  let isInteger := fraction.isNone && exponent.isNone
  if isInteger && !negative && size < 18446744073709551616 then .integer size
  else if isInteger && negative && size ≠ 0 && size ≤ 9223372036854775808 then
    .integer (-(size : Int))
  else
    let x := Binary64.ofDecimal negative size (exponent.getD 0 - places.length)
    if x.isFinite then .real x else .unreadable

/-- The digits after a point, if there is a point, and the rest. -/
def readFraction : List Char → Option (Option (List Char) × List Char)
  | '.' :: rest =>
      let ds := rest.takeWhile Char.isDigit
      if ds.isEmpty then none else some (some ds, rest.dropWhile Char.isDigit)
  | cs => some (none, cs)

/-- The exponent, if there is one, and the rest. -/
def readExponent (cs : List Char) : Option (Option Int × List Char) :=
  match cs with
  | c :: rest =>
      if c = 'e' || c = 'E' then
        let sign := rest.head?
        let rest := if sign = some '-' || sign = some '+' then rest.drop 1 else rest
        match Plain.digits? 10 (rest.takeWhile Char.isDigit) with
        | none => none
        | some n =>
            some (some (if sign = some '-' then -(n : Int) else n), rest.dropWhile Char.isDigit)
      else some (none, cs)
  | [] => some (none, [])

/-- The number at the beginning of a text, and the rest. -/
def readNumber (cs : List Char) : Option (Value × List Char) :=
  let negative := cs.head? = some '-'
  let cs := if negative then cs.drop 1 else cs
  let whole := if cs.head? = some '0' then ['0'] else cs.takeWhile Char.isDigit
  if whole.isEmpty then none
  else
    match readFraction (cs.drop whole.length) with
    | none => none
    | some (fraction, rest) =>
        match readExponent rest with
        | none => none
        | some (exponent, rest) => some (numberValue negative whole fraction exponent, rest)

/-- The rest of a text after a given beginning. -/
def afterWord : (word cs : List Char) → Option (List Char)
  | [], cs => some cs
  | w :: word, c :: cs => if w = c then afterWord word cs else none
  | _ :: _, [] => none

/-- A scalar at the beginning of a text, and the rest. -/
def readScalar (cs : List Char) : Option (Value × List Char) :=
  match cs with
  | '"' :: rest =>
      (readString (rest.length + 1) (some []) rest).map fun (s, rest) => (textValue s, rest)
  | 'n' :: _ => (afterWord "null".toList cs).map fun rest => (.null, rest)
  | 't' :: _ => (afterWord "true".toList cs).map fun rest => (.bool true, rest)
  | 'f' :: _ => (afterWord "false".toList cs).map fun rest => (.bool false, rest)
  | _ => readNumber cs

/-- The object of some fields; an unreadable name makes it unreadable. -/
def objectValue (fields : List (Option String × Value)) : Value :=
  match fields.mapM fun (name, v) => name.map fun name => (name, v) with
  | some fields => .object fields
  | none => .unreadable

mutual

/-- A value at the beginning of a text, after blanks, and the rest.  The fuel bounds the steps. -/
def readValue : (fuel : Nat) → List Char → Option (Value × List Char)
  | 0, _ => none
  | fuel + 1, cs =>
      match skipBlank cs with
      | '[' :: rest =>
          match skipBlank rest with
          | ']' :: rest => some (.array [], rest)
          | rest => (readItems fuel [] rest).map fun (items, rest) => (.array items, rest)
      | '{' :: rest =>
          match skipBlank rest with
          | '}' :: rest => some (.object [], rest)
          | rest => (readFields fuel [] rest).map fun (fields, rest) => (objectValue fields, rest)
      | cs => readScalar cs

/-- The items of a list up to its bracket, after the `past` ones, which are given in reverse. -/
def readItems : (fuel : Nat) → (past : List Value) → List Char →
    Option (List Value × List Char)
  | 0, _, _ => none
  | fuel + 1, past, cs =>
      match readValue fuel cs with
      | none => none
      | some (v, rest) =>
          match skipBlank rest with
          | ',' :: rest => readItems fuel (v :: past) rest
          | ']' :: rest => some ((v :: past).reverse, rest)
          | _ => none

/-- The fields of an object up to its brace, after the `past` ones, which are given in reverse. -/
def readFields : (fuel : Nat) → (past : List (Option String × Value)) → List Char →
    Option (List (Option String × Value) × List Char)
  | 0, _, _ => none
  | fuel + 1, past, cs =>
      match skipBlank cs with
      | '"' :: rest =>
          match readString (rest.length + 1) (some []) rest with
          | none => none
          | some (name, rest) =>
              match skipBlank rest with
              | ':' :: rest =>
                  match readValue fuel rest with
                  | none => none
                  | some (v, rest) =>
                      match skipBlank rest with
                      | ',' :: rest => readFields fuel ((name, v) :: past) rest
                      | '}' :: rest => some (((name, v) :: past).reverse, rest)
                      | _ => none
              | _ => none
      | _ => none

end

/-- The value that a text holds. -/
def read? (s : String) : Option Value :=
  let cs := s.toList
  match readValue (2 * cs.length + 2) cs with
  | some (v, rest) => if (skipBlank rest).isEmpty then some v else none
  | none => none

end Json
end SoccerWorld
