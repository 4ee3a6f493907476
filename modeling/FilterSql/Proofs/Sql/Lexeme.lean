import FilterSql.Sql.Text

/-!
# Lexemes of SQL text

SQL text is scanned from left to right by the rule for literals: a quote opens a literal, two
quotes inside it stand for one, and a single quote closes it. Outside literals a dollar sign
with digits behind it is a placeholder. The scanner knows nothing of how the text was written.

A row of pieces is `Spaced` if no piece can run into the one behind it. Spaced pieces are
scanned one by one (`scan_charsFrom`), whatever quotes, dashes or dollar signs their quoted
texts hold. Every condition is written as a spaced row (`Condition.spaced`).
-/

set_option autoImplicit false

namespace FilterSql.Sql

/-- A unit of SQL text: a single character, a placeholder with its digits, or a literal with the
text that it stands for. -/
inductive Lexeme
  | plain (c : Char)
  | placeholder (digits : List Char)
  | literal (text : List Char)
deriving Repr, DecidableEq

/-- Where the scanner stands: outside literals, in the digits behind a dollar sign, inside a
literal, or behind a quote that closes a literal unless another one follows. -/
inductive Place
  | outside
  | number (digits : List Char)
  | inside (text : List Char)
  | closing (text : List Char)
deriving Repr, DecidableEq

namespace Place

/-- What a dollar sign and the digits behind it are. -/
def dollar : List Char → Lexeme
  | [] => .plain '$'
  | digits => .placeholder digits

/-- Reads a character outside literals. -/
def start (c : Char) : Place × List Lexeme :=
  if c = '\'' then (.inside [], [])
  else if c = '$' then (.number [], [])
  else (.outside, [.plain c])

/-- Reads a character: the next place, and what is complete. -/
def next : Place → Char → Place × List Lexeme
  | .outside, c => start c
  | .number digits, c =>
    if c.isDigit then (.number (digits ++ [c]), [])
    else ((start c).1, dollar digits :: (start c).2)
  | .inside text, c => if c = '\'' then (.closing text, []) else (.inside (text ++ [c]), [])
  | .closing text, c =>
    if c = '\'' then (.inside (text ++ ['\'']), [])
    else ((start c).1, .literal text :: (start c).2)

/-- What is complete at the end of the text. A text may not end inside a literal. -/
def finish : Place → Option (List Lexeme)
  | .outside => some []
  | .number digits => some [dollar digits]
  | .inside _ => none
  | .closing text => some [.literal text]

end Place

/-- Scans the rest of a text from a place. -/
def scanFrom : Place → List Char → Option (List Lexeme)
  | place, [] => place.finish
  | place, c :: cs => (scanFrom (place.next c).1 cs).map ((place.next c).2 ++ ·)

/-- The lexemes of a text, or `none` if the text ends inside a literal. -/
def scan (cs : List Char) : Option (List Lexeme) := scanFrom .outside cs

/-! ## Scanning a piece -/

/-- A character that begins neither a literal nor a placeholder. -/
def IsCode (c : Char) : Prop := c ≠ '\'' ∧ c ≠ '$'

/-- Code is scanned character by character. -/
theorem scan_code_append {code : List Char} (isCode : ∀ c ∈ code, IsCode c) (rest : List Char) :
    scan (code ++ rest) = (scan rest).map (code.map .plain ++ ·) := by
  induction code with
  | nil => simp
  | cons c cs ih =>
    have ih := ih fun c' mem => isCode c' (List.mem_cons_of_mem _ mem)
    obtain ⟨notQuote, notDollar⟩ := isCode c List.mem_cons_self
    simp only [scan] at ih ⊢
    rw [List.cons_append, scanFrom]
    simp only [Place.next, Place.start, if_neg notQuote, if_neg notDollar, ih, Option.map_map]
    rfl

/-- A text follows on a literal if it does not begin with a quote. -/
theorem scanFrom_closing {text rest : List Char} (apart : rest.head? ≠ some '\'') :
    scanFrom (.closing text) rest = (scan rest).map (.literal text :: ·) := by
  cases rest with
  | nil => rfl
  | cons c cs =>
    have notQuote : c ≠ '\'' := by simpa using apart
    simp only [scan, scanFrom, Place.next, if_neg notQuote, Option.map_map]
    rfl

/-- Inside a literal, doubled quotes stand for single ones. -/
theorem scanFrom_inside (text before rest : List Char) :
    scanFrom (.inside before)
        (text.flatMap (fun c => if c = '\'' then ['\'', '\''] else [c]) ++ '\'' :: rest) =
      scanFrom (.closing (before ++ text)) rest := by
  induction text generalizing before with
  | nil => simp [scanFrom, Place.next]
  | cons c cs ih =>
    by_cases quote : c = '\''
    · subst quote
      simp only [List.flatMap_cons, if_true, List.cons_append, List.nil_append, scanFrom,
        Place.next, ih]
      simp
    · simp only [List.flatMap_cons, if_neg quote, List.cons_append, List.nil_append, scanFrom,
        Place.next, ih]
      simp

/-- Quoted text is one literal, and stands for the text itself. -/
theorem scan_quote_append (text : String) {rest : List Char} (apart : rest.head? ≠ some '\'') :
    scan (quoteChars text ++ rest) = (scan rest).map (.literal text.toList :: ·) := by
  have opened : scan (quoteChars text ++ rest) = scanFrom (.inside [])
      (text.toList.flatMap (fun c => if c = '\'' then ['\'', '\''] else [c]) ++ '\'' :: rest) := by
    simp [scan, quoteChars, scanFrom, Place.next, Place.start]
  rw [opened, scanFrom_inside, scanFrom_closing apart, List.nil_append]

/-- A text follows on a placeholder if it does not begin with a digit. -/
theorem scanFrom_number {digits rest : List Char}
    (apart : ∀ c, rest.head? = some c → c.isDigit = false) :
    scanFrom (.number digits) rest = (scan rest).map (Place.dollar digits :: ·) := by
  cases rest with
  | nil => rfl
  | cons c cs =>
    have notDigit : ¬ c.isDigit = true := by simpa using apart c rfl
    simp only [scan, scanFrom, Place.next, if_neg notDigit, Option.map_map]
    rfl

/-- Digits behind a dollar sign are collected. -/
theorem scanFrom_digits {digits : List Char} (isDigits : ∀ c ∈ digits, c.isDigit = true)
    (before rest : List Char) :
    scanFrom (.number before) (digits ++ rest) = scanFrom (.number (before ++ digits)) rest := by
  induction digits generalizing before with
  | nil => simp
  | cons c cs ih =>
    have ih := ih fun c' mem => isDigits c' (List.mem_cons_of_mem _ mem)
    simp only [List.cons_append, scanFrom, Place.next, if_pos (isDigits c List.mem_cons_self), ih]
    simp

/-- A placeholder is scanned with all its digits. -/
theorem scan_placeholder_append (n : Nat) {rest : List Char}
    (apart : ∀ c, rest.head? = some c → c.isDigit = false) :
    scan (ParamList.placeholder n ++ rest) =
      (scan rest).map (.placeholder (Nat.toDigits 10 n) :: ·) := by
  have opened : scan (ParamList.placeholder n ++ rest) =
      scanFrom (.number []) (Nat.toDigits 10 n ++ rest) := by
    simp [scan, ParamList.placeholder, scanFrom, Place.next, Place.start]
  have isDigits : ∀ c ∈ Nat.toDigits 10 n, c.isDigit = true :=
    fun c mem => Nat.isDigit_of_mem_toDigits (by decide) (by decide) mem
  have isNumber : Place.dollar (Nat.toDigits 10 n) = .placeholder (Nat.toDigits 10 n) := by
    cases digits : Nat.toDigits 10 n with
    | nil => exact absurd digits Nat.toDigits_ne_nil
    | cons _ _ => rfl
  rw [opened, scanFrom_digits isDigits, List.nil_append, scanFrom_number apart, isNumber]

/-! ## Scanning a row of pieces -/

/-- A character of words: of identifiers, of keywords, and of names with dots. -/
def isWordChar (c : Char) : Bool := c.isAlphanum || c = '_' || c = '.'

/-- A character that is in no word is no digit. -/
theorem not_isDigit_of_not_isWordChar {c : Char} (h : isWordChar c = false) :
    c.isDigit = false := by
  simp only [isWordChar, Char.isAlphanum, Bool.or_eq_false_iff] at h
  exact h.1.1.2

variable {α : Type}

/-- Whether a piece could run into the one behind it: a word, a literal or a placeholder. -/
def Piece.runsOn : Piece α → Bool
  | .code text => text.toList.getLast?.any isWordChar
  | .quoted _ | .hole _ => true

/-- Whether a row of pieces cannot be run into: it has no pieces, or begins with code that goes
on with neither a word nor a literal. -/
def beginsApart : List (Piece α) → Bool
  | [] => true
  | .code text :: _ => text.toList.head?.any fun c => !isWordChar c && c ≠ '\''
  | .quoted _ :: _ | .hole _ :: _ => false

/-- No piece runs into the one behind it. -/
def Spaced : List (Piece α) → Prop
  | [] => True
  | piece :: rest => (piece.runsOn = true → beginsApart rest = true) ∧ Spaced rest

/-- A row that cannot be run into stays so if another such row is put behind it. -/
theorem beginsApart_append {ps qs : List (Piece α)} (hp : beginsApart ps = true)
    (hq : beginsApart qs = true) : beginsApart (ps ++ qs) = true := by
  cases ps with
  | nil => exact hq
  | cons piece rest => cases piece <;> exact hp

/-- Two spaced rows make a spaced row if the second cannot be run into. -/
theorem Spaced.append {ps qs : List (Piece α)} (hp : Spaced ps) (hq : Spaced qs)
    (apart : beginsApart qs = true) : Spaced (ps ++ qs) := by
  induction ps with
  | nil => exact hq
  | cons piece rest ih =>
    refine ⟨fun runsOn => ?_, ih hp.2⟩
    exact beginsApart_append (hp.1 runsOn) apart

/-- Code may stand before a spaced row if it does not end in a word, or if the row cannot be run
into. -/
theorem Spaced.code {text : String} {ps : List (Piece α)} (hp : Spaced ps)
    (apart : Piece.runsOn (.code text : Piece α) = false ∨ beginsApart ps = true) :
    Spaced (.code text :: ps) := by
  refine ⟨fun runsOn => ?_, hp⟩
  rcases apart with h | h
  · rw [h] at runsOn
    cases runsOn
  · exact h

/-- A single piece is a spaced row. -/
theorem spaced_single (piece : Piece α) : Spaced [piece] := ⟨fun _ => rfl, trivial⟩

/-- Code that cannot be run into may stand behind a spaced row. -/
theorem Spaced.followed {ps : List (Piece α)} (hp : Spaced ps) {text : String}
    (apart : beginsApart [(.code text : Piece α)] = true) : Spaced (ps ++ [.code text]) :=
  hp.append (spaced_single _) apart

/-- Holes between commas are a spaced row. -/
theorem spaced_holes (values : List α) : Spaced (holes values) := by
  induction values using holes.induct with
  | case1 => trivial
  | case2 value => exact ⟨fun _ => rfl, trivial⟩
  | case3 value rest nonempty ih =>
    rw [holes]
    · exact ⟨fun _ => rfl, ih.code (.inl rfl)⟩
    · exact nonempty

/-- A term is written as a spaced row. -/
theorem Term.spaced (t : Term α) : Spaced t.pieces := by
  induction t with
  | column name => exact spaced_single _
  | literal text => exact spaced_single _
  | param value => exact spaced_single _
  | array values => exact Spaced.code ((spaced_holes values).followed rfl) (.inl rfl)
  | member base key ih => exact ih.append ((spaced_single _).code (.inl rfl)) rfl
  | memberText base key ih => exact ih.append ((spaced_single _).code (.inl rfl)) rfl
  | cast term type ih => exact ih.append ((spaced_single _).code (.inl rfl)) rfl
  | paren term ih => exact Spaced.code (ih.followed rfl) (.inl rfl)

/-- A test is written as a spaced row. -/
theorem Test.spaced (t : Test α) : Spaced t.pieces := by
  -- Behind the first term stands code that begins with a blank, and that ends in a blank or in
  -- an opening parenthesis if more follows it.
  have behind : ∀ (term : Term α) {text : String} {ps : List (Piece α)}, Spaced ps →
      beginsApart (.code text :: ps) = true → Piece.runsOn (.code text : Piece α) = false →
      Spaced (term.pieces ++ .code text :: ps) :=
    fun term _ _ spaced apart ends => term.spaced.append (spaced.code (.inl ends)) apart
  cases t with
  | relation left r right =>
    exact behind left ((right.spaced.code (.inl rfl)).code (.inr rfl)) rfl rfl
  | isNull term => exact term.spaced.followed rfl
  | isNotNull term => exact term.spaced.followed rfl
  | inList term values => exact (behind term (spaced_holes values) rfl rfl).followed rfl
  | notInList term values => exact (behind term (spaced_holes values) rfl rfl).followed rfl
  | inArray term array => exact (behind term array.spaced rfl rfl).followed rfl
  | notInArray term array => exact (behind term array.spaced rfl rfl).followed rfl
  | inDocument term document => exact (behind term document.spaced rfl rfl).followed rfl

/-- A condition is written as a spaced row. -/
theorem Condition.spaced (c : Condition α) : Spaced c.pieces := by
  induction c with
  | constant truth => cases truth <;> exact spaced_single _
  | test t => exact t.spaced
  | not c ih => exact Spaced.code (ih.followed rfl) (.inl rfl)
  | paren c ih => exact Spaced.code (ih.followed rfl) (.inl rfl)
  | join k left right ihLeft ihRight =>
    cases k <;> exact ihLeft.append (ihRight.code (.inl rfl)) rfl

/-- The lexemes of pieces whose first hole has the number `next`. -/
def lexemesFrom (next : Nat) : List (Piece α) → List Lexeme
  | [] => []
  | .code text :: rest => text.toList.map .plain ++ lexemesFrom next rest
  | .quoted text :: rest => .literal text.toList :: lexemesFrom next rest
  | .hole _ :: rest => .placeholder (Nat.toDigits 10 next) :: lexemesFrom (next + 1) rest

/-- The text of a row that cannot be run into begins with no character of a word, and with no
quote. -/
theorem head_charsFrom {next : Nat} {ps : List (Piece α)} {c : Char}
    (apart : beginsApart ps = true) (head : (charsFrom next ps).head? = some c) :
    isWordChar c = false ∧ c ≠ '\'' := by
  cases ps with
  | nil => cases head
  | cons piece rest =>
    cases piece with
    | code text =>
      cases chars : text.toList with
      | nil => simp [beginsApart, chars] at apart
      | cons first others =>
        simp only [charsFrom, chars, List.cons_append, List.head?_cons, Option.some.injEq] at head
        subst head
        simpa [beginsApart, chars] using apart
    | quoted text => cases apart
    | hole value => cases apart

/-- Spaced pieces are scanned one by one. -/
theorem scan_charsFrom (next : Nat) {ps : List (Piece α)} (spaced : Spaced ps)
    (isCode : ∀ text, .code text ∈ ps → ∀ c ∈ text.toList, IsCode c) :
    scan (charsFrom next ps) = some (lexemesFrom next ps) := by
  induction ps generalizing next with
  | nil => rfl
  | cons piece rest ih =>
    have ih := fun n =>
      ih n spaced.2 fun text mem => isCode text (List.mem_cons_of_mem _ mem)
    cases piece with
    | code text =>
      rw [charsFrom, scan_code_append (isCode text List.mem_cons_self), ih, lexemesFrom]
      rfl
    | quoted text =>
      have apart : (charsFrom next rest).head? ≠ some '\'' :=
        fun head => (head_charsFrom (spaced.1 rfl) head).2 rfl
      rw [charsFrom, scan_quote_append text apart, ih, lexemesFrom]
      rfl
    | hole value =>
      have apart : ∀ c, (charsFrom (next + 1) rest).head? = some c → c.isDigit = false :=
        fun c head => not_isDigit_of_not_isWordChar (head_charsFrom (spaced.1 rfl) head).1
      rw [charsFrom, scan_placeholder_append next apart, ih, lexemesFrom]
      rfl

end FilterSql.Sql
