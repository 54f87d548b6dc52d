import SoccerWorld.Numeric.Binary64

/-!
# Spellings of plain scalars

How a scalar without quotes spells nothing, a truth value, an integer or a number.  The same text
may be read in more than one way; which one is asked for decides.
-/

namespace SoccerWorld
namespace Plain

/-- The text spells the absence of a value. -/
def isNull (cs : List Char) : Bool :=
  cs.isEmpty || ["~", "null", "Null", "NULL"].contains (String.ofList cs)

/-- The truth value that the text spells. -/
def bool? (cs : List Char) : Option Bool :=
  let s := String.ofList cs
  if ["true", "True", "TRUE"].contains s then some true
  else if ["false", "False", "FALSE"].contains s then some false
  else none

/-- The value of a digit in a base up to sixteen. -/
def digit? (base : Nat) (c : Char) : Option Nat :=
  let value :=
    if '0' ≤ c ∧ c ≤ '9' then some (c.toNat - '0'.toNat)
    else if 'a' ≤ c ∧ c ≤ 'f' then some (c.toNat - 'a'.toNat + 10)
    else if 'A' ≤ c ∧ c ≤ 'F' then some (c.toNat - 'A'.toNat + 10)
    else none
  value.filter fun n => n < base

/-- The number that a nonempty text of digits spells in a base. -/
def digits? (base : Nat) (cs : List Char) : Option Nat :=
  if cs.isEmpty then none
  else cs.foldlM (fun acc c => (digit? base c).map fun d => acc * base + d) 0

/-- A text of digits in the base that its first two characters announce, ten by default. -/
def based? : List Char → Option Nat
  | '0' :: 'x' :: rest => digits? 16 rest
  | '0' :: 'o' :: rest => digits? 8 rest
  | '0' :: 'b' :: rest => digits? 2 rest
  | cs => digits? 10 cs

/-- A text without one leading sign. -/
def dropSign : List Char → List Char
  | '+' :: rest => rest
  | '-' :: rest => rest
  | cs => cs

/-- A text without one leading plus sign. -/
def dropPlus : List Char → List Char
  | '+' :: rest => rest
  | cs => cs

/-- Digits with a superfluous zero before them, which are not read as an integer. -/
def isPaddedDigits (cs : List Char) : Bool :=
  match dropSign cs with
  | '0' :: c :: rest => (c :: rest).all Char.isDigit
  | _ => false

/-- The natural number of at most 64 bits that the text spells. -/
def natural? (cs : List Char) : Option Nat :=
  if isPaddedDigits cs then none
  else (based? (dropPlus cs)).filter fun n => n < 18446744073709551616

/-- The integer of at most 64 bits, sign included, that the text spells. -/
def integer? (cs : List Char) : Option Int :=
  if isPaddedDigits cs then none
  else
    match cs with
    | '-' :: rest =>
        ((based? rest).filter fun n => n ≤ 9223372036854775808).map fun n => -(n : Int)
    | _ =>
        ((based? (dropPlus cs)).filter fun n => n < 9223372036854775808).map fun n => (n : Int)

/-- The text spells an integer of more than 64 and at most 128 bits, sign included. -/
def isLongInteger (cs : List Char) : Bool :=
  let spelled : Option Nat :=
    match cs with
    | '-' :: rest => (based? rest).filter fun n => n ≤ 170141183460469231731687303715884105728
    | _ => (based? (dropPlus cs)).filter fun n => n < 340282366920938463463374607431768211456
  !isPaddedDigits cs && spelled.isSome && (natural? cs).isNone && (integer? cs).isNone

/-- The exponent that follows an `e`, where the text is nothing but a signed number. -/
def exponent? : List Char → Option Int
  | '-' :: rest => (digits? 10 rest).map fun n => -(n : Int)
  | '+' :: rest => (digits? 10 rest).map fun n => (n : Int)
  | rest => (digits? 10 rest).map fun n => (n : Int)

/-- The size of a number: digits with or without a point, and an exponent or none. -/
def size? (cs : List Char) : Option (Nat × Int) :=
  let whole := cs.takeWhile Char.isDigit
  let rest := cs.dropWhile Char.isDigit
  let (places, rest) :=
    match rest with
    | '.' :: tail => (tail.takeWhile Char.isDigit, tail.dropWhile Char.isDigit)
    | _ => ([], rest)
  match digits? 10 (whole ++ places) with
  | none => none
  | some n =>
      let scaled (exponent : Int) : Nat × Int := (n, exponent - places.length)
      match rest with
      | [] => some (scaled 0)
      | 'e' :: tail => (exponent? tail).map scaled
      | 'E' :: tail => (exponent? tail).map scaled
      | _ => none

/-- The finite number that the text spells with an optional minus sign. -/
def finite? (cs : List Char) : Option Float :=
  let number? (negative : Bool) (size : List Char) : Option Float :=
    ((size? size).map fun (n, exponent) => Binary64.ofDecimal negative n exponent).filter
      Float.isFinite
  match cs with
  | '-' :: rest => number? true rest
  | _ => number? false cs

/-- The number that the text spells. -/
def real? (cs : List Char) : Option Float :=
  let s := String.ofList cs
  let unsigned := dropPlus cs
  if [".inf", ".Inf", ".INF"].contains (String.ofList unsigned) then some Binary64.infinity
  else if ["-.inf", "-.Inf", "-.INF"].contains s then some (-Binary64.infinity)
  else if [".nan", ".NaN", ".NAN"].contains s then some Binary64.undefined
  else if unsigned.length < cs.length && unsigned.head? = some '-' then none
  else finite? unsigned

end Plain
end SoccerWorld
