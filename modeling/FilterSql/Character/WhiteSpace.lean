/-!
# White space

The characters that Unicode counts as white space: those from the tab to the carriage return,
the space, and the wider or narrower blanks and line ends beyond ASCII. Core's
`Char.isWhitespace` knows four of them (`isWhite_of_isWhitespace`).
-/

set_option autoImplicit false

namespace FilterSql.Character

/-- The first and the last code point of each run of white space. -/
def whiteRanges : List (Nat × Nat) :=
  [(0x9, 0xd), (0x20, 0x20), (0x85, 0x85), (0xa0, 0xa0), (0x1680, 0x1680), (0x2000, 0x200a),
    (0x2028, 0x2029), (0x202f, 0x202f), (0x205f, 0x205f), (0x3000, 0x3000)]

/-- Whether a character is white space. -/
def isWhite (c : Char) : Bool :=
  whiteRanges.any fun range => range.1 ≤ c.toNat && c.toNat ≤ range.2

/-- The blanks of ASCII are white space. -/
theorem isWhite_of_isWhitespace {c : Char} (h : c.isWhitespace = true) : isWhite c = true := by
  simp only [Char.isWhitespace, Bool.or_eq_true, decide_eq_true_eq] at h
  rcases h with ((rfl | rfl) | rfl) | rfl <;> decide

/-- The characters from the first one on that is not white space. -/
def skipWhite (cs : List Char) : List Char := cs.dropWhile isWhite

/-- The characters up to the last one that is not white space. -/
def trimEnd (cs : List Char) : List Char := (skipWhite cs.reverse).reverse

end FilterSql.Character
