/-!
# The shortest decimal of a binary floating point number

A finite binary64 number is `mantissa · 2 ^ exponent`. Every real number of a
certain interval around it rounds to it, so a decimal inside the interval reads
back as the same number. This module finds the decimal of that interval with the
fewest digits and, among those, the one nearest to the number; where two are equally
near, a `Tie` decides. All arithmetic is exact arithmetic of natural numbers.
-/

set_option autoImplicit false

namespace FilterSql.Decimal

/-- Which of two decimals is taken that are equally near: the one whose last digit is even,
or the larger one. -/
inductive Tie
  | even
  | up
deriving Repr, DecidableEq

/-- The number `significand · 10 ^ exponent`. -/
structure Scientific where
  significand : Nat
  exponent : Int
deriving Repr, DecidableEq

/-- The positive binary number `mantissa · 2 ^ exponent`. The flag tells whether the
next smaller number lies only half as far away as the next larger one, which is so
where the exponent steps. -/
structure Binary where
  mantissa : Nat
  exponent : Int
  closerBelow : Bool
deriving Repr, DecidableEq

/-- The magnitude of a finite binary64 number: eleven bits of biased exponent above
fifty-two bits of fraction, with an implicit leading one unless the exponent is the least. -/
def Binary.ofFloat (x : Float) : Binary :=
  let bits : Nat := x.toBits.toNat
  let fraction : Nat := bits % 0x10000000000000
  let biased : Nat := bits / 0x10000000000000 % 0x800
  if biased = 0 then ⟨fraction, -1074, false⟩
  else ⟨0x10000000000000 + fraction, (biased : Int) - 1075, fraction = 0 && 1 < biased⟩

/-- A rounding interval, its three points written over one denominator. -/
structure Interval where
  low : Nat
  value : Nat
  high : Nat
  denominator : Nat
  closed : Bool
deriving Repr

/-- The interval of real numbers that round to a binary number. Its ends belong to it
exactly if the mantissa is even, as a tie goes to the even mantissa. -/
def Binary.interval (b : Binary) : Interval :=
  let quarter := b.exponent - 2
  let up := Nat.pow 2 quarter.toNat
  { low := (4 * b.mantissa - if b.closerBelow then 1 else 2) * up
    value := 4 * b.mantissa * up
    high := (4 * b.mantissa + 2) * up
    denominator := Nat.pow 2 (-quarter).toNat
    closed := b.mantissa % 2 = 0 }

/-- The interval measured in units of `10 ^ unit`. -/
def Interval.inUnits (r : Interval) (unit : Int) : Interval :=
  let up := Nat.pow 10 (-unit).toNat
  { r with
    low := r.low * up
    value := r.value * up
    high := r.high * up
    denominator := r.denominator * Nat.pow 10 unit.toNat }

/-- Whether the whole number `n` lies in the interval. -/
def Interval.holds (r : Interval) (n : Nat) : Bool :=
  let scaled := n * r.denominator
  if r.closed then r.low ≤ scaled && scaled ≤ r.high
  else r.low < scaled && scaled < r.high

/-- Whether of two neighbours that are equally near the lower one is taken. -/
def Tie.takesLower (tie : Tie) (lower : Nat) : Bool :=
  match tie with
  | .even => lower % 2 = 0
  | .up => false

/-- The whole number nearest to the value of the interval. -/
def Interval.rounded (r : Interval) (tie : Tie) : Nat :=
  let below := r.value / r.denominator
  let twice := 2 * (r.value % r.denominator)
  if twice < r.denominator || twice = r.denominator && tie.takesLower below then below
  else below + 1

/-- The whole number of the interval nearest to its value, if it has one. Where the
interval holds any whole number, it holds one of the two neighbours of the value. -/
def Interval.nearest? (r : Interval) (tie : Tie) : Option Nat :=
  let below := r.value / r.denominator
  let above := below + 1
  match r.holds below, r.holds above with
  | true, true => some (r.rounded tie)
  | true, false => some below
  | false, true => some above
  | false, false => none

/-- The exponent of the first digit of a positive number `value / denominator`. -/
def Interval.leadingExponent (r : Interval) : Int :=
  if r.denominator ≤ r.value then
    ((Nat.toDigits 10 (r.value / r.denominator)).length : Int) - 1
  else
    let places := (Nat.toDigits 10 (r.denominator / r.value)).length
    if r.denominator ≤ r.value * Nat.pow 10 (places - 1) then 1 - (places : Int)
    else -(places : Int)

/-- Tries one digit more at a time until the interval holds a decimal of that many digits. -/
def Interval.shortestFrom (r : Interval) (tie : Tie) (lead : Int) : Nat → Nat → Scientific
  | 0, digits => ⟨r.value / r.denominator, lead - digits⟩
  | tries + 1, digits =>
    let unit := lead - digits
    match (r.inUnits unit).nearest? tie with
    | some n => ⟨n, unit⟩
    | none => r.shortestFrom tie lead tries (digits + 1)

/-- The decimal with the fewest digits that rounds to the binary number. Seventeen
digits always suffice. -/
def Binary.shortest (b : Binary) (tie : Tie) : Scientific :=
  b.interval.shortestFrom tie b.interval.leadingExponent 17 0

/-- The digits of a decimal without trailing zeros, and the exponent of its first digit. -/
def Scientific.digits (d : Scientific) : List Char × Int :=
  let all := Nat.toDigits 10 d.significand
  let kept := (all.reverse.dropWhile (· == '0')).reverse
  (kept, d.exponent + all.length - 1)

end FilterSql.Decimal
