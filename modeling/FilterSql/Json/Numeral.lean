import FilterSql.Json.Basic

/-!
# Written numbers

A numeral is a sign, digits, and possibly a fraction and an exponent. Without fraction
and exponent it is a whole number wherever that is in range. Every other numeral is a
floating point number, found in this way: as many leading digits as fit a word of 64
bits form the significand, and the significand is then scaled by a power of ten in
floating point arithmetic. The result may differ from the correctly rounded one in its
last bit, so the order of these operations is part of the format.
-/

set_option autoImplicit false

namespace FilterSql.Json

/-- The exponent of a numeral: whether it is negative, and its digits. -/
structure WrittenExponent where
  negative : Bool
  digits : List Char
deriving Repr, DecidableEq

/-- A number as it is written. -/
structure Numeral where
  negative : Bool
  whole : List Char
  fraction : Option (List Char)
  exponent : Option WrittenExponent
deriving Repr, DecidableEq

/-- The first digits of a numeral as a number below `2 ^ 64`, and the power of ten that
makes up for the digits left out or taken behind the point. -/
structure Significand where
  value : Nat
  scale : Int
deriving Repr, DecidableEq

/-- The value of one more digit behind `n`. -/
def appendDigit (n : Nat) (digit : Char) : Nat := 10 * n + (digit.toNat - '0'.toNat)

/-- Takes whole digits as long as the significand fits a word; each of the others counts
as one power of ten. -/
def Significand.takeWhole (value : Nat) : List Char → Significand
  | [] => ⟨value, 0⟩
  | digit :: rest =>
    if appendDigit value digit < 0x10000000000000000 then takeWhole (appendDigit value digit) rest
    else ⟨value, rest.length + 1⟩

/-- Takes digits of the fraction as long as the significand fits a word and drops the others. -/
def Significand.takeFraction (s : Significand) : List Char → Significand
  | [] => s
  | digit :: rest =>
    if appendDigit s.value digit < 0x10000000000000000 then
      takeFraction ⟨appendDigit s.value digit, s.scale - 1⟩ rest
    else s

/-- The significand of a numeral, before its exponent counts. -/
def Numeral.significand (n : Numeral) : Significand :=
  (Significand.takeWhole 0 n.whole).takeFraction (n.fraction.getD [])

/-- The floating point number nearest to a power of ten. -/
def powerOfTen (n : Nat) : Float := Float.ofScientific 1 false n

/-- Multiplies by a power of ten. A power above `10 ^ 308` is out of range unless the
number is zero; below `10 ^ -308` the division is done in steps of `10 ^ 308`. -/
def scaleByTen (x : Float) (scale : Int) : Option Float :=
  if 308 < scale then
    if x == 0 then some x else none
  else if scale < -308 then
    if x == 0 then some x else scaleByTen (x / powerOfTen 308) (scale + 308)
  else if 0 ≤ scale then
    let product := x * powerOfTen scale.toNat
    if product.isInf then none else some product
  else some (x / powerOfTen (-scale).toNat)
termination_by (-scale).toNat

/-- The unsigned floating point number of a numeral, if it is in range. An exponent of
`2 ^ 31` or more is out of range, or makes the number zero. -/
def Numeral.magnitude? (n : Numeral) : Option Float :=
  let s := n.significand
  let start := Float.ofNat s.value
  match n.exponent with
  | none => scaleByTen start s.scale
  | some e =>
    let size := Nat.ofDigitChars 10 e.digits 0
    if size < 0x80000000 then
      scaleByTen start (if e.negative then s.scale - size else s.scale + size)
    else if e.negative || s.value = 0 then some 0
    else none

/-- The floating point number of a numeral, if it is in range. -/
def Numeral.float? (n : Numeral) : Option Number := do
  let magnitude ← n.magnitude?
  Number.ofFloat? (if n.negative then -magnitude else magnitude)

/-- The number that a numeral means, if it is in range. A negative zero is a floating
point number, as is a whole number that no word of 64 bits holds. -/
def Numeral.number? (n : Numeral) : Option Number :=
  if n.fraction.isNone && n.exponent.isNone then
    let size := Nat.ofDigitChars 10 n.whole 0
    if n.negative && size = 0 then n.float?
    else (Number.ofInt? (if n.negative then -size else size)).or n.float?
  else n.float?

end FilterSql.Json
