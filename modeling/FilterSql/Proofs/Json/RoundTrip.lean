import FilterSql.Json.Printer
import FilterSql.Json.Reader
import Mathlib.Data.List.Basic

/-!
# Reading what is written

A document without floating point numbers is read back from its compact text, if its arrays and
objects are not nested deeper than the reader goes (`Exact.ofText?_text`). Each part is read back
from the characters that it is written with, whatever stands behind them, as long as a numeral does
not run on into it.
-/

set_option autoImplicit false

namespace FilterSql.Json

/-! ## Strings -/

/-- A hexadecimal digit is read as the number that it was written for. -/
theorem hexValue?_hexDigit {n : Nat} (h : n < 16) : hexValue? (hexDigit n) = some n := by
  have all : ∀ n < 16, hexValue? (hexDigit n) = some n := by decide
  exact all n h

/-- Below a space, a character is named by its last two hexadecimal digits. -/
theorem codeUnit?_control {n : Nat} (h : n < 32) :
    codeUnit? '0' '0' (hexDigit (n / 16)) (hexDigit (n % 16)) = some n := by
  have zero : hexValue? '0' = some 0 := by decide
  have high : hexValue? (hexDigit (n / 16)) = some (n / 16) := hexValue?_hexDigit (by omega)
  have low : hexValue? (hexDigit (n % 16)) = some (n % 16) := hexValue?_hexDigit (by omega)
  simp only [codeUnit?, zero, high, low, Option.bind_eq_bind, Option.bind_some, Option.pure_def,
    Option.some.injEq]
  omega

/-- A letter behind a backslash is read as the character that it names. -/
theorem readString_named {letter c : Char} (named : namedEscape? letter = some c)
    (cs : List Char) :
    readString ('\\' :: letter :: cs) = (readString cs).map fun read => (c :: read.1, read.2) := by
  have other : letter ≠ 'u' := by
    rintro rfl
    cases named
  rw [readString]
  · rw [named]
    cases readString cs <;> rfl
  · intro _ _ _ _ _ same
    exact absurd same other

/-- A control character is read back from its code. -/
theorem readString_code {c : Char} (control : c.toNat < 32) (cs : List Char) :
    readString ('\\' :: 'u' :: '0' :: '0' :: hexDigit (c.toNat / 16) :: hexDigit (c.toNat % 16) ::
      cs) = (readString cs).map fun read => (c :: read.1, read.2) := by
  have notHigh : isHighSurrogate c.toNat = false := by
    simp only [isHighSurrogate, Bool.and_eq_false_iff, decide_eq_false_iff_not]
    omega
  have notLow : isLowSurrogate c.toNat = false := by
    simp only [isLowSurrogate, Bool.and_eq_false_iff, decide_eq_false_iff_not]
    omega
  rw [readString, codeUnit?_control control]
  simp only [Option.bind_eq_bind, Option.bind_some, notHigh, notLow, Bool.false_eq_true, if_false,
    Char.ofNat_toNat]
  cases readString cs <;> rfl

/-- A character that needs no escape is read as itself. -/
theorem readString_plain {c : Char} (noQuote : c ≠ '\"') (noBackslash : c ≠ '\\')
    (noControl : ¬ c.toNat < 32) (cs : List Char) :
    readString (c :: cs) = (readString cs).map fun read => (c :: read.1, read.2) := by
  rw [readString]
  · rw [if_neg (by simp [noBackslash, noControl])]
    cases readString cs <;> rfl
  · exact noQuote
  · intro _ _ _ _ _ same
    exact absurd same noBackslash
  · intro _ _ same
    exact absurd same noBackslash

/-- A character is read back from what it is written with inside a string. -/
theorem readString_escape (c : Char) (cs : List Char) :
    readString (escape c ++ cs) = (readString cs).map fun read => (c :: read.1, read.2) := by
  have ofCode {n : Nat} (code : c.toNat = n) : c = Char.ofNat n := by
    rw [← code, Char.ofNat_toNat]
  -- Characters with a name of their own come first, then the other control characters by their
  -- code, and then those that stand for themselves.
  unfold escape
  split
  · rename_i quote
    subst quote
    exact readString_named rfl cs
  split
  · rename_i backslash
    subst backslash
    exact readString_named rfl cs
  split
  · rename_i lineFeed
    subst lineFeed
    exact readString_named rfl cs
  split
  · rename_i tab
    subst tab
    exact readString_named rfl cs
  split
  · rename_i carriageReturn
    subst carriageReturn
    exact readString_named rfl cs
  split
  · rename_i code
    have named : namedEscape? 'b' = some c := congrArg some (ofCode code).symm
    exact readString_named named cs
  split
  · rename_i code
    have named : namedEscape? 'f' = some c := congrArg some (ofCode code).symm
    exact readString_named named cs
  split
  · rename_i control
    exact readString_code control cs
  · rename_i noQuote noBackslash _ _ _ _ _ noControl
    exact readString_plain noQuote noBackslash noControl cs

/-- A string is read back from its escaped characters, up to its closing quote. -/
theorem readString_quote (s : String) (rest : List Char) :
    readString (s.toList.flatMap escape ++ '\"' :: rest) = some (s.toList, rest) := by
  induction s.toList with
  | nil => rw [List.flatMap_nil, List.nil_append, readString]
  | cons c cs ih => rw [List.flatMap_cons, List.append_assoc, readString_escape, ih]; rfl

/-! ## Numerals -/

/-- Whether a character behind a whole number would be read as a part of it. -/
def continuesNumeral (c : Char) : Bool := c.isDigit || c = '.' || c = 'e' || c = 'E'

/-- No numeral runs on into what stands behind it. -/
def Ends (rest : List Char) : Prop := ∀ c ∈ rest.head?, continuesNumeral c = false

/-- Digits are read up to what does not continue a numeral. -/
theorem readDigits_append {digits rest : List Char} (nonempty : digits ≠ [])
    (areDigits : ∀ c ∈ digits, c.isDigit = true) (ends : Ends rest) :
    readDigits (digits ++ rest) = some (digits, rest) := by
  have stops : rest.takeWhile Char.isDigit = [] ∧ rest.dropWhile Char.isDigit = rest := by
    cases rest with
    | nil => exact ⟨rfl, rfl⟩
    | cons c rest =>
      have notDigit : c.isDigit = false := by
        have other := ends c rfl
        simp only [continuesNumeral, Bool.or_eq_false_iff] at other
        exact other.1.1.1
      simp [notDigit]
  rw [readDigits, List.takeWhile_append_of_pos areDigits, List.dropWhile_append_of_pos areDigits,
    stops.1, stops.2, List.append_nil]
  cases digits with
  | nil => exact absurd rfl nonempty
  | cons digit digits => rfl

/-- A number is written without leading zeros. -/
theorem head?_toDigits_ne {n : Nat} (positive : 0 < n) : (Nat.toDigits 10 n).head? ≠ some '0' := by
  induction n using Nat.strongRecOn with
  | ind n ih =>
    rw [Nat.toDigits_eq_if (by decide)]
    by_cases small : n < 10
    · rw [if_pos small]
      have all : ∀ n < 10, 0 < n → [Nat.digitChar n].head? ≠ some '0' := by decide
      exact all n small positive
    · rw [if_neg small, List.head?_append_of_ne_nil _ Nat.toDigits_ne_nil]
      exact ih (n / 10) (by omega) (by omega)

/-- The first character of a number is its first digit, whatever stands behind it. -/
theorem head?_of_toDigits_append {n : Nat} {c : Char} {rest cs : List Char}
    (same : Nat.toDigits 10 n ++ rest = c :: cs) : (Nat.toDigits 10 n).head? = some c := by
  rw [← List.head?_append_of_ne_nil _ Nat.toDigits_ne_nil, same]
  rfl

/-- The digits of a number are read back as they were written. -/
theorem readWhole_toDigits (n : Nat) {rest : List Char} (ends : Ends rest) :
    readWhole (Nat.toDigits 10 n ++ rest) = some (Nat.toDigits 10 n, rest) := by
  have areDigits : ∀ c ∈ Nat.toDigits 10 n, c.isDigit = true :=
    fun c mem => Nat.isDigit_of_mem_toDigits (by decide) (by decide) mem
  have noLeadingZero :
      ¬ ((Nat.toDigits 10 n).head? = some '0' ∧ 1 < (Nat.toDigits 10 n).length) := by
    rintro ⟨zero, long⟩
    cases n with
    | zero => exact absurd long (by decide)
    | succ n => exact head?_toDigits_ne (Nat.succ_pos n) zero
  rw [readWhole, readDigits_append Nat.toDigits_ne_nil areDigits ends]
  exact if_neg noLeadingZero

/-- No fraction is read where a numeral ends. -/
theorem readFraction_of_ends {rest : List Char} (ends : Ends rest) :
    readFraction rest = some (none, rest) := by
  rw [readFraction]
  rintro _ rfl
  have continues := ends '.' rfl
  cases continues

/-- No exponent is read where a numeral ends. -/
theorem readExponent_of_ends {rest : List Char} (ends : Ends rest) :
    readExponent rest = some (none, rest) := by
  rw [readExponent]
  · rintro _ rfl
    have continues := ends 'e' rfl
    cases continues
  · rintro _ rfl
    have continues := ends 'E' rfl
    cases continues

/-- The numeral that a whole number is written as. -/
def wholeNumeral (n : Int) : Numeral := ⟨n < 0, Nat.toDigits 10 n.natAbs, none, none⟩

/-- A whole number is read as its numeral, if nothing behind it continues one. -/
theorem readNumeral_wholeChars (n : Int) {rest : List Char} (ends : Ends rest) :
    readNumeral (wholeChars n ++ rest) = some (wholeNumeral n, rest) := by
  have whole := readWhole_toDigits n.natAbs ends
  rw [wholeChars, wholeNumeral]
  split
  · rename_i negative
    rw [List.cons_append, readNumeral]
    simp [whole, readFraction_of_ends ends, readExponent_of_ends ends, negative]
  · rename_i notNegative
    rw [readNumeral]
    · simp [whole, readFraction_of_ends ends, readExponent_of_ends ends, notNegative]
    · intro _ same
      have mem := List.mem_of_head? (head?_of_toDigits_append same)
      have isDigit : '-'.isDigit = true := Nat.isDigit_of_mem_toDigits (by decide) (by decide) mem
      cases isDigit

/-- A whole number in range is the number that its numeral means. -/
theorem number?_wholeNumeral {n : Int} (least : -0x8000000000000000 ≤ n)
    (below : n < 0x10000000000000000) :
    (wholeNumeral n).number? = some (.whole n least below) := by
  have noMinusZero : ¬ (decide (n < 0) && decide (n.natAbs = 0)) = true := by
    simp only [Bool.and_eq_true, decide_eq_true_eq]
    omega
  have size : (if decide (n < 0) = true then -(n.natAbs : Int) else n.natAbs) = n := by
    split <;> rename_i sign <;> rw [decide_eq_true_eq] at sign <;> omega
  rw [wholeNumeral, Numeral.number?]
  simp only [Option.isNone_none, Bool.and_self, if_true, Nat.ofDigitChars_ten_toDigits]
  rw [if_neg noMinusZero, size, Number.ofInt?, dif_pos ⟨least, below⟩]
  rfl

/-! ## Documents -/

/-- A document without floating point numbers, in which at most `levels` arrays and objects are
nested. -/
inductive Exact : Nat → Json → Prop
  | null {levels : Nat} : Exact levels .null
  | bool {levels : Nat} (b : Bool) : Exact levels (.bool b)
  | whole {levels : Nat} {n : Int} {least : -0x8000000000000000 ≤ n}
    {below : n < 0x10000000000000000} : Exact levels (.number (.whole n least below))
  | string {levels : Nat} (s : String) : Exact levels (.string s)
  | array {levels : Nat} {items : List Json} (each : ∀ item ∈ items, Exact levels item) :
    Exact (levels + 1) (.array items)
  | object {levels : Nat} {members : List (String × Json)}
    (each : ∀ member ∈ members, Exact levels member.2) : Exact (levels + 1) (.object members)

/-- A whole number begins with a sign or a digit. -/
theorem wholeChars_head (n : Int) :
    ∃ c cs, wholeChars n = c :: cs ∧ (c = '-' ∨ c.isDigit = true) := by
  rw [wholeChars]
  split
  · exact ⟨_, _, rfl, .inl rfl⟩
  · obtain ⟨c, cs, digits⟩ := List.exists_cons_of_ne_nil (@Nat.toDigits_ne_nil n.natAbs 10)
    have mem : c ∈ Nat.toDigits 10 n.natAbs := digits ▸ List.mem_cons_self
    exact ⟨c, cs, digits, .inr (Nat.isDigit_of_mem_toDigits (by decide) (by decide) mem)⟩

/-- The characters that a document may begin with. -/
def isOpening (c : Char) : Bool :=
  c.isDigit || ['n', 't', 'f', '\"', '-', '[', '{'].contains c

/-- Characters that a document may begin with stand at the beginning. -/
def Opens (cs : List Char) : Prop := ∃ c rest, cs = c :: rest ∧ isOpening c = true

/-- A document may begin with a sign or a digit. -/
theorem isOpening_of_signOrDigit {c : Char} (h : c = '-' ∨ c.isDigit = true) :
    isOpening c = true := by
  rcases h with rfl | isDigit
  · rfl
  · rw [isOpening, isDigit, Bool.true_or]

/-- A document is written with something, and it begins as a document may. -/
theorem Exact.opens {levels : Nat} {j : Json} (h : Exact levels j) : Opens j.chars := by
  cases h with
  | null => exact ⟨_, _, rfl, rfl⟩
  | bool b => cases b <;> exact ⟨_, _, rfl, rfl⟩
  | @whole _ n =>
    obtain ⟨c, cs, written, signOrDigit⟩ := wholeChars_head n
    exact ⟨c, cs, written, isOpening_of_signOrDigit signOrDigit⟩
  | string s => exact ⟨_, _, rfl, rfl⟩
  | @array _ items _ => cases items <;> exact ⟨_, _, rfl, rfl⟩
  | @object _ members _ => cases members <;> exact ⟨_, _, rfl, rfl⟩

/-- No blanks are passed over before a character that is none. -/
theorem skipBlanks_of_head {c : Char} {cs : List Char} (h : isBlank c = false) :
    skipBlanks (c :: cs) = c :: cs := by
  rw [skipBlanks, List.dropWhile_cons_of_neg (by simp [h])]

/-- Documents do not begin with blanks. -/
theorem not_isBlank_of_isOpening {c : Char} (h : isOpening c = true) : isBlank c = false := by
  by_contra blank
  simp only [Bool.not_eq_false, isBlank, Bool.or_eq_true, decide_eq_true_eq] at blank
  rcases blank with ((rfl | rfl) | rfl) | rfl <;> cases h

/-- No blanks stand before what may begin a document. -/
theorem Opens.skipBlanks_append {cs : List Char} (h : Opens cs) (rest : List Char) :
    skipBlanks (cs ++ rest) = cs ++ rest := by
  obtain ⟨c, cs, rfl, opening⟩ := h
  exact skipBlanks_of_head (not_isBlank_of_isOpening opening)

/-! ### Rows of parts -/

/-- A character that may close a row of parts. -/
structure Closes (close : Char) : Prop where
  numeral : continuesNumeral close = false
  blank : isBlank close = false
  opening : isOpening close = false
  comma : close ≠ ','

section

variable {α : Type} {part : List Char → Option (α × List Char)} {written : α → List Char}
  {close : Char}

/-- A way to read parts reads a part back from its written form, whatever stands behind it. -/
def ReadsBack (part : List Char → Option (α × List Char)) (written : α → List Char) (x : α) :
    Prop :=
  ∀ rest, Ends rest → part (written x ++ rest) = some (x, rest)

/-- What stands behind the first of a row of parts: the other parts, each behind a comma, and the
closing character. -/
def moreParts (written : α → List Char) (close : Char) : List α → List Char
  | [] => [close]
  | x :: xs => ',' :: written x ++ moreParts written close xs

/-- A row has more characters than parts, so its length is enough fuel to read them. -/
theorem length_lt_moreParts (written : α → List Char) (close : Char) (xs : List α) :
    xs.length < (moreParts written close xs).length := by
  induction xs with
  | nil => exact Nat.zero_lt_one
  | cons x xs ih =>
    simp only [moreParts, List.length_append, List.length_cons]
    omega

/-- Behind the first of a row of parts stands a comma or the closing character, and neither
continues a numeral. -/
theorem Closes.ends_moreParts (closes : Closes close) (written : α → List Char) (xs : List α)
    (rest : List Char) : Ends (moreParts written close xs ++ rest) := by
  intro c mem
  cases xs with
  | nil =>
    cases mem
    exact closes.numeral
  | cons x xs =>
    cases mem
    rfl

/-- A row of parts that are read back is read back. -/
theorem Closes.readParts_written (closes : Closes close) {x : α} {xs : List α}
    (each : ∀ y ∈ x :: xs, ReadsBack part written y) {count : Nat} (enough : xs.length < count)
    (rest : List Char) :
    readParts part close count (written x ++ (moreParts written close xs ++ rest)) =
      some (x :: xs, rest) := by
  induction xs generalizing x count with
  | nil =>
    obtain ⟨count, rfl⟩ := Nat.exists_eq_succ_of_ne_zero (Nat.ne_of_gt enough)
    have first := each x List.mem_cons_self _ (closes.ends_moreParts written [] rest)
    rw [readParts, first]
    simp only [moreParts, List.singleton_append, Option.bind_eq_bind, Option.bind_some,
      skipBlanks_of_head closes.blank]
    split
    · rename_i same
      exact absurd (List.cons.inj same).1 closes.comma
    · rename_i same
      cases same
      exact if_pos rfl
    · rename_i same
      cases same
  | cons y xs ih =>
    obtain ⟨count, rfl⟩ := Nat.exists_eq_succ_of_ne_zero (Nat.ne_of_gt (Nat.zero_lt_of_lt enough))
    have first := each x List.mem_cons_self _ (closes.ends_moreParts written (y :: xs) rest)
    have others := @ih y (fun z mem => each z (List.mem_cons_of_mem _ mem)) count
      (Nat.lt_of_succ_lt_succ enough)
    rw [readParts, first]
    simp only [moreParts, List.cons_append, List.append_assoc, Option.bind_eq_bind,
      Option.bind_some, skipBlanks_of_head (show isBlank ',' = false from rfl), others]
    rfl

/-- Between brackets, a row of parts that are read back is read back. -/
theorem Closes.readBetween_written (closes : Closes close) {x : α} {xs : List α}
    (opens : Opens (written x)) (each : ∀ y ∈ x :: xs, ReadsBack part written y)
    (rest : List Char) :
    readBetween part close (written x ++ (moreParts written close xs ++ rest)) =
      some (x :: xs, rest) := by
  have enough : xs.length < (written x ++ (moreParts written close xs ++ rest)).length := by
    have := length_lt_moreParts written close xs
    simp only [List.length_append]
    omega
  have parts := closes.readParts_written each enough rest
  have noBlanks := opens.skipBlanks_append (moreParts written close xs ++ rest)
  obtain ⟨c, cs, begins, opening⟩ := opens
  have other : c ≠ close := by
    rintro rfl
    rw [closes.opening] at opening
    cases opening
  rw [begins, List.cons_append] at parts noBlanks ⊢
  rw [readBetween, noBlanks]
  exact (if_neg other).trans parts

end

/-! ### Whole documents -/

/-- The elements of an array behind its first are a row of parts. -/
theorem moreItems_eq (items : List Json) : moreItems items = moreParts chars ']' items := by
  induction items with
  | nil => rw [moreItems, moreParts]
  | cons item rest ih => rw [moreItems, moreParts, ih]

/-- The characters of a member of an object. -/
def memberChars (member : String × Json) : List Char := quote member.1 ++ ':' :: chars member.2

/-- The members of an object behind its first are a row of parts. -/
theorem moreMembers_eq (members : List (String × Json)) :
    moreMembers members = moreParts memberChars '}' members := by
  induction members with
  | nil => rw [moreMembers, moreParts]
  | cons member rest ih =>
    obtain ⟨key, value⟩ := member
    rw [moreMembers, moreParts, ih, memberChars]
    simp

/-- A bracket may close a row of parts. -/
theorem closes_bracket : Closes ']' := ⟨rfl, rfl, rfl, by decide⟩

/-- A brace may close a row of parts. -/
theorem closes_brace : Closes '}' := ⟨rfl, rfl, rfl, by decide⟩

/-- A member is read back if its value is. -/
theorem readsBack_member {value : List Char → Option (Json × List Char)} {member : String × Json}
    (h : ReadsBack value chars member.2) : ReadsBack (readMember value) memberChars member := by
  obtain ⟨key, content⟩ := member
  intro rest ends
  have written : memberChars (key, content) ++ rest =
      '\"' :: (key.toList.flatMap escape ++ '\"' :: ':' :: (content.chars ++ rest)) := by
    simp [memberChars, quote]
  rw [written, readMember, skipBlanks_of_head rfl]
  simp only [readString_quote, Option.bind_eq_bind, Option.bind_some,
    skipBlanks_of_head (show isBlank ':' = false from rfl), h rest ends, String.ofList_toList]
  rfl

/-- A whole number of the size of a word is read back from its digits. -/
theorem readScalar_number {n : Int} (least : -0x8000000000000000 ≤ n)
    (below : n < 0x10000000000000000) {rest : List Char} (ends : Ends rest) :
    readScalar (wholeChars n ++ rest) = some (.number (.whole n least below), rest) := by
  obtain ⟨c, cs, written, signOrDigit⟩ := wholeChars_head n
  have notFirst {other : Char} (hopeless : ¬ (other = '-' ∨ other.isDigit = true))
      {others : List Char} : wholeChars n ++ rest ≠ other :: others := by
    intro same
    rw [written, List.cons_append] at same
    rw [(List.cons.inj same).1] at signOrDigit
    exact hopeless signOrDigit
  rw [readScalar, readNumeral_wholeChars n ends]
  · simp only [Option.bind_eq_bind, Option.bind_some, number?_wholeNumeral least below]
    rfl
  all_goals exact fun _ => notFirst (by decide)

/-- What does not begin with a bracket or a brace is read as a scalar. -/
theorem readValue_eq_readScalar {levels : Nat} {c : Char} {cs : List Char}
    (opening : isOpening c = true) (noBracket : c ≠ '[') (noBrace : c ≠ '{') :
    readValue levels (c :: cs) = readScalar (c :: cs) := by
  rw [readValue.eq_def, skipBlanks_of_head (not_isBlank_of_isOpening opening)]
  split
  · rename_i same
    exact absurd (List.cons.inj same).1 noBracket
  · rename_i same
    exact absurd (List.cons.inj same).1 noBrace
  · rfl

/-- A whole number is read back as a document. -/
theorem readsBack_whole {levels : Nat} {n : Int} (least : -0x8000000000000000 ≤ n)
    (below : n < 0x10000000000000000) :
    ReadsBack (readValue levels) chars (.number (.whole n least below)) := by
  intro rest ends
  have scalar := readScalar_number least below ends
  obtain ⟨c, cs, written, signOrDigit⟩ := wholeChars_head n
  -- A sign or a digit opens neither an array nor an object, so a scalar is read.
  have noBracket : c ≠ '[' := by
    rintro rfl
    revert signOrDigit
    decide
  have noBrace : c ≠ '{' := by
    rintro rfl
    revert signOrDigit
    decide
  rw [written, List.cons_append] at scalar
  rw [chars, Number.chars, written, List.cons_append,
    readValue_eq_readScalar (isOpening_of_signOrDigit signOrDigit) noBracket noBrace, scalar]

/-- A string is read back as a document. -/
theorem readsBack_string {levels : Nat} (s : String) :
    ReadsBack (readValue levels) chars (.string s) := by
  intro rest _
  have written : quote s ++ rest = '\"' :: (s.toList.flatMap escape ++ '\"' :: rest) := by
    simp [quote]
  rw [chars, written, readValue_eq_readScalar rfl (by decide) (by decide), readScalar,
    readString_quote]
  simp only [Option.bind_eq_bind, Option.bind_some, String.ofList_toList]
  rfl

/-- An array is read back if its elements are. -/
theorem readsBack_array {levels : Nat} {items : List Json}
    (opens : ∀ item ∈ items, Opens item.chars)
    (each : ∀ item ∈ items, ReadsBack (readValue levels) chars item) :
    ReadsBack (readValue (levels + 1)) chars (.array items) := by
  intro rest _
  cases items with
  | nil =>
    rw [chars]
    rfl
  | cons item others =>
    have between := closes_bracket.readBetween_written (opens item List.mem_cons_self) each rest
    rw [chars, moreItems_eq, List.cons_append, List.cons_append, List.append_assoc,
      readValue.eq_def, skipBlanks_of_head rfl]
    simp only [between]
    rfl

/-- An object is read back if the values of its members are. -/
theorem readsBack_object {levels : Nat} {members : List (String × Json)}
    (each : ∀ member ∈ members, ReadsBack (readValue levels) chars member.2) :
    ReadsBack (readValue (levels + 1)) chars (.object members) := by
  intro rest _
  cases members with
  | nil =>
    rw [chars]
    rfl
  | cons member others =>
    have opens : Opens (memberChars member) := ⟨_, _, rfl, rfl⟩
    have between := closes_brace.readBetween_written opens
      (fun other mem => readsBack_member (each other mem)) rest
    obtain ⟨key, content⟩ := member
    have written : (Json.object ((key, content) :: others)).chars ++ rest =
        '{' :: (memberChars (key, content) ++ (moreParts memberChars '}' others ++ rest)) := by
      rw [chars, moreMembers_eq, memberChars]
      simp
    rw [written, readValue.eq_def, skipBlanks_of_head rfl]
    simp only [between]
    rfl

/-- A document is read back from its characters, whatever stands behind them. -/
theorem Exact.readsBack {levels : Nat} {j : Json} (h : Exact levels j) :
    ReadsBack (readValue levels) chars j := by
  induction h with
  | null =>
    intro rest _
    exact readValue_eq_readScalar rfl (by decide) (by decide)
  | bool b =>
    intro rest _
    cases b <;> exact readValue_eq_readScalar rfl (by decide) (by decide)
  | whole => exact readsBack_whole _ _
  | string s => exact readsBack_string s
  | array each ih => exact readsBack_array (fun item mem => (each item mem).opens) ih
  | object each ih => exact readsBack_object ih

/-- A document is read back from its text. -/
theorem Exact.ofText?_text {j : Json} (h : Exact nestingLimit j) :
    ofText? j.text = some j.collapse := by
  have nothing : Ends [] := fun c mem => by cases mem
  have read := h.readsBack [] nothing
  rw [List.append_nil] at read
  rw [ofText?, read?, text, String.toList_ofList, read]
  rfl

end FilterSql.Json
