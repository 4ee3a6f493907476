/-!
# Whole numbers from text

A whole number is written as an optional sign and at least one digit. Readers for words
of 64 bits refuse what is out of their range; that of unsigned words knows no minus sign.
-/

set_option autoImplicit false

namespace FilterSql.Decimal

/-- The number that a row of digits names, if there is a digit and nothing else. -/
def readDigits? (cs : List Char) : Option Nat :=
  if cs.isEmpty || !cs.all Char.isDigit then none else some (Nat.ofDigitChars 10 cs 0)

/-- A signed word of 64 bits. -/
def readInt64? (text : String) : Option Int64 := do
  let n : Int ← match text.toList with
    | '-' :: rest => (readDigits? rest).map fun n => -(n : Int)
    | '+' :: rest => (readDigits? rest).map fun n => (n : Int)
    | cs => (readDigits? cs).map fun n => (n : Int)
  if -0x8000000000000000 ≤ n ∧ n < 0x8000000000000000 then return Int64.ofInt n else none

/-- A natural number that fits an unsigned word of 64 bits. -/
def readUnsignedWord? (text : String) : Option Nat := do
  let n ← match text.toList with
    | '+' :: rest => readDigits? rest
    | cs => readDigits? cs
  if n < 0x10000000000000000 then return n else none

end FilterSql.Decimal
