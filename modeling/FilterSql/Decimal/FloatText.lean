import FilterSql.Decimal.Shortest

/-!
# The text of a floating point number

A number is written with the fewest digits that read back, either positionally or in
scientific form. Which of the two, whether a whole number keeps its point, and which of two
equally near decimals is written, is the choice of a `Layout`. Two layouts are in use:
`jsonLayout` for documents and bound text, and `plainLayout` for numbers that a configuration
gives where text is expected.

Reading accepts an optional sign, digits with an optional point, an optional exponent,
and the names of infinity and of the undefined number; the result is correctly rounded.
-/

set_option autoImplicit false

namespace FilterSql.Decimal

/-- How the digits of a number are laid out. A number is written positionally if the
exponent of its first digit lies in `positional`, where `none` stands for no bound. -/
structure Layout where
  leastPositional : Option Int
  positionalBelow : Option Int
  keepsPoint : Bool
  tie : Tie
deriving Repr, DecidableEq

/-- Numbers from `0.00001` up to below `10 ^ 16` are positional, a whole number ends in `.0`, and a
tie goes to the even digit. -/
def jsonLayout : Layout := ⟨some (-5), some 16, true, .even⟩

/-- Every number is positional, a whole number has no point, and a tie goes up. -/
def plainLayout : Layout := ⟨none, none, false, .up⟩

/-- Whether a first digit of this exponent is written positionally. -/
def Layout.isPositional (layout : Layout) (exponent : Int) : Bool :=
  layout.leastPositional.all (· ≤ exponent) && layout.positionalBelow.all (exponent < ·)

/-- The positional form of digits whose first has the given exponent. -/
def Layout.positional (layout : Layout) (digits : List Char) (exponent : Int) : List Char :=
  if exponent < 0 then
    '0' :: '.' :: List.replicate (-exponent - 1).toNat '0' ++ digits
  else
    let whole := exponent.toNat + 1
    if whole < digits.length then digits.take whole ++ '.' :: digits.drop whole
    else
      digits ++ List.replicate (whole - digits.length) '0' ++
        if layout.keepsPoint then ['.', '0'] else []

/-- The scientific form of digits whose first has the given exponent. -/
def scientificForm (digits : List Char) (exponent : Int) : List Char :=
  let fraction := match digits.drop 1 with
    | [] => []
    | rest => '.' :: rest
  digits.take 1 ++ fraction ++
    'e' :: (if exponent < 0 then '-' else '+') :: Nat.toDigits 10 exponent.natAbs

/-- The text of a magnitude that is finite and not zero. -/
def Layout.magnitude (layout : Layout) (x : Float) : List Char :=
  let (digits, exponent) := ((Binary.ofFloat x).shortest layout.tie).digits
  if layout.isPositional exponent then layout.positional digits exponent
  else scientificForm digits exponent

/-- Whether the sign bit is set; it is also on a negative zero. -/
def isNegative (x : Float) : Bool :=
  0x8000000000000000 ≤ x.toBits.toNat

/-- The characters of a floating point number. -/
def Layout.chars (layout : Layout) (x : Float) : List Char :=
  if x.isNaN then ['N', 'a', 'N']
  else
    let unsigned :=
      if x.isInf then ['i', 'n', 'f']
      else if x == 0 then (if layout.keepsPoint then ['0', '.', '0'] else ['0'])
      else layout.magnitude x
    if isNegative x then '-' :: unsigned else unsigned

/-- The text of a floating point number in a layout. -/
def Layout.text (layout : Layout) (x : Float) : String :=
  String.ofList (layout.chars x)

/-- The text of a floating point number in documents and bound parameters. -/
def floatText (x : Float) : String := jsonLayout.text x

/-- The positive infinity. -/
def infinity : Float := Float.ofBits 0x7ff0000000000000

/-- The number `significand · 10 ^ exponent`, correctly rounded. An exponent far outside
the range decides the result at once, so that no huge power is ever computed. -/
def Scientific.toFloat (d : Scientific) : Float :=
  let magnitude := d.exponent + (Nat.toDigits 10 d.significand).length
  if d.significand = 0 then 0
  else if 400 < magnitude then infinity
  else if magnitude < -400 then 0
  else Float.ofScientific d.significand (d.exponent < 0) d.exponent.natAbs

/-- A written exponent: an optional sign and at least one digit, up to the end. -/
def readExponent? (cs : List Char) : Option Int :=
  let (negative, digits) := match cs with
    | '-' :: rest => (true, rest)
    | '+' :: rest => (false, rest)
    | rest => (false, rest)
  if digits.isEmpty || !digits.all Char.isDigit then none
  else
    let n : Int := Nat.ofDigitChars 10 digits 0
    some (if negative then -n else n)

/-- An unsigned decimal: digits with at most one point and at least one digit, and then
possibly an exponent. -/
def readUnsigned? (cs : List Char) : Option Scientific :=
  let whole := cs.takeWhile Char.isDigit
  let afterWhole := cs.dropWhile Char.isDigit
  let (fraction, rest) := match afterWhole with
    | '.' :: tail => (tail.takeWhile Char.isDigit, tail.dropWhile Char.isDigit)
    | other => ([], other)
  let digits := whole ++ fraction
  if digits.isEmpty then none
  else
    let significand := Nat.ofDigitChars 10 digits 0
    let scale : Int := -fraction.length
    match rest with
    | [] => some ⟨significand, scale⟩
    | 'e' :: tail | 'E' :: tail => (readExponent? tail).map fun e => ⟨significand, scale + e⟩
    | _ => none

/-- The magnitude that an unsigned text names: a decimal, or in any case `inf`, `infinity` or `nan`.
-/
def readMagnitude? (cs : List Char) : Option Float :=
  match String.ofList (cs.map Char.toLower) with
  | "inf" | "infinity" => some infinity
  | "nan" => some (0 / 0)
  | _ => (readUnsigned? cs).map Scientific.toFloat

/-- The floating point number that a text names, correctly rounded. -/
def readFloat? (text : String) : Option Float :=
  match text.toList with
  | '-' :: rest => (readMagnitude? rest).map (-·)
  | '+' :: rest => readMagnitude? rest
  | cs => readMagnitude? cs

end FilterSql.Decimal
