import FilterSql.Proofs.Field.Name
import FilterSql.Proofs.Sql.Form
import FilterSql.Proofs.Sql.Reading

/-!
# Reading back what was written

A row of tokens passes a split if the split finds its delimiter neither in the row nor, for the
parentheses of the row, at a wrong place behind it. Terms and tests pass every split. A
condition passes a split at a connective unless it shows this connective outside parentheses. So
the reader splits a chained condition where it was joined, and what it reads is the condition
itself (`read_pieces`).
-/

set_option autoImplicit false

namespace FilterSql.Sql

/-- A name that is one word of SQL, and not one that the reader goes by. -/
def IsPlainName (name : String) : Prop :=
  IsColumnName name ∧ isReserved name.toList = false

/-- A row passes a split if the split goes on behind it with as many open parentheses. -/
def Passes (δ : Delimiter) (d : Nat) (ts : List Token) : Prop :=
  ∀ rest, splitTop δ d (ts ++ rest) = (splitTop δ d rest).map (Prod.map (ts ++ ·) id)

section

variable {δ : Delimiter} {d : Nat} {ts us : List Token}

/-- The empty row passes. -/
theorem passes_nil : Passes δ d [] := by
  intro rest
  rw [List.nil_append]
  cases splitTop δ d rest <;> rfl

/-- A row passes a split if its parts do. -/
theorem Passes.append (ht : Passes δ d ts) (hu : Passes δ d us) : Passes δ d (ts ++ us) := by
  intro rest
  rw [List.append_assoc, ht, hu, Option.map_map]
  congr 1
  funext sides
  simp [Prod.map]

/-- A token passes if it is no parenthesis, and not the delimiter where it would be found. -/
theorem passes_single {t : Token} (depth : t.depth d = d) (apart : d = 0 → δ.isAt t = false) :
    Passes δ d [t] := by
  intro rest
  have notFound : ¬ (d = 0 ∧ δ.isAt t = true) := by
    rintro ⟨zero, found⟩
    rw [apart zero] at found
    cases found
  rw [List.singleton_append, splitTop, if_neg notFound, depth]
  rfl

/-- A row in parentheses passes if the row itself passes inside them. -/
theorem Passes.parens (h : Passes δ (d + 1) ts) :
    Passes δ d (.mark '(' :: (ts ++ [.mark ')'])) := by
  intro rest
  have notOpening : ¬ (d = 0 ∧ δ.isAt (.mark '(') = true) := by
    rintro ⟨-, found⟩
    cases δ with
    | connective k => cases k <;> cases found
    | close => cases found
  have notClosing : ¬ (d + 1 = 0 ∧ δ.isAt (.mark ')') = true) := fun found => by cases found.1
  have opening : (Token.mark '(').depth d = d + 1 := rfl
  have closing : (Token.mark ')').depth (d + 1) = d := rfl
  rw [List.cons_append, splitTop, if_neg notOpening, opening, List.append_assoc, h,
    List.singleton_append, splitTop, if_neg notClosing, closing, Option.map_map, Option.map_map]
  congr 1
  funext sides
  simp [Prod.map]

/-- A delimiter is not found in a row that passes. -/
theorem Passes.splitTop_eq_none (h : Passes δ d ts) : splitTop δ d ts = none := by
  have all := h []
  rwa [List.append_nil, splitTop, Option.map_none] at all

/-- A delimiter is found behind a row that passes. -/
theorem Passes.splitTop_append (h : Passes δ 0 ts) {t : Token} (found : δ.isAt t = true)
    (rest : List Token) : splitTop δ 0 (ts ++ t :: rest) = some (ts, rest) := by
  rw [h, splitTop, if_pos ⟨rfl, found⟩]
  simp [Prod.map]

end

/-- Whether a token is neither a parenthesis nor a connective. -/
def Token.isPlain : Token → Bool
  | .word cs => !spells "AND" cs && !spells "OR" cs
  | .mark c => c ≠ '(' && c ≠ ')'
  | .placeholder _ | .literal _ => true

/-- A plain token opens and closes nothing. -/
theorem Token.depth_of_isPlain {t : Token} (plain : t.isPlain = true) (d : Nat) :
    t.depth d = d := by
  unfold Token.depth
  split
  · cases plain
  · cases plain
  · rfl

/-- A plain token is no delimiter. -/
theorem Token.isAt_of_isPlain {t : Token} (plain : t.isPlain = true) (δ : Delimiter) :
    δ.isAt t = false := by
  cases δ with
  | connective k =>
    cases t with
    | word cs =>
      simp only [Token.isPlain, Bool.and_eq_true, Bool.not_eq_true'] at plain
      cases k
      · exact plain.1
      · exact plain.2
    | _ => cases k <;> rfl
  | close =>
    cases t with
    | mark c =>
      simp only [Token.isPlain, Bool.and_eq_true, decide_eq_true_eq] at plain
      simpa [Delimiter.isAt] using plain.2
    | _ => rfl

/-- A row without parentheses and connectives passes every split. -/
theorem passes_of_isPlain {δ : Delimiter} {d : Nat} {ts : List Token}
    (plain : ∀ t ∈ ts, t.isPlain = true) : Passes δ d ts := by
  induction ts with
  | nil => exact passes_nil
  | cons t rest ih =>
    obtain ⟨first, others⟩ := List.forall_mem_cons.1 plain
    have single : Passes δ d [t] := by
      apply passes_single
      · exact Token.depth_of_isPlain first d
      · exact fun _ => Token.isAt_of_isPlain first δ
    exact single.append (ih others)

/-! ## What conditions pass -/

section

variable {α : Type} {literal : String → Prop} {δ : Delimiter} {d : Nat} {ps qs : List (Piece α)}

/-- A row of pieces passes a split if its tokens do, whatever the number of the first hole. -/
def PiecesPass (δ : Delimiter) (d : Nat) (ps : List (Piece α)) : Prop :=
  ∀ next, Passes δ d (tokensFrom next ps)

/-- A row of pieces passes if its parts do. -/
theorem PiecesPass.append (hp : PiecesPass δ d ps) (hq : PiecesPass δ d qs) :
    PiecesPass δ d (ps ++ qs) := by
  intro next
  rw [tokensFrom_append]
  exact (hp next).append (hq _)

/-- Whether a piece has neither a parenthesis nor a connective outside literals. -/
def Piece.isPlain : Piece α → Bool
  | .code text => (codeTokens text).all Token.isPlain
  | .quoted _ | .hole _ => true

/-- Pieces without parentheses and connectives pass every split. -/
theorem piecesPass_of_isPlain (plain : ∀ piece ∈ ps, piece.isPlain = true) :
    PiecesPass δ d ps := by
  intro next
  induction ps generalizing next with
  | nil => exact passes_nil
  | cons piece rest ih =>
    obtain ⟨first, others⟩ := List.forall_mem_cons.1 plain
    cases piece with
    | code text => exact (passes_of_isPlain (List.all_eq_true.1 first)).append (ih others next)
    | quoted text =>
      exact (passes_of_isPlain (List.forall_mem_singleton.2 rfl)).append (ih others next)
    | hole value =>
      exact (passes_of_isPlain (List.forall_mem_singleton.2 rfl)).append (ih others (next + 1))

/-- A single plain piece passes every split. -/
theorem piecesPass_single {piece : Piece α} (plain : piece.isPlain = true) :
    PiecesPass δ d [piece] := piecesPass_of_isPlain (List.forall_mem_singleton.2 plain)

/-- Pieces in parentheses pass if they pass inside them. Before the opening parenthesis the same
code may have plain tokens. -/
theorem PiecesPass.enclosed {opening : String} (before : List Token)
    (opens : codeTokens opening = before ++ [.mark '(']) (plain : before.all Token.isPlain = true)
    (inner : PiecesPass δ (d + 1) ps) : PiecesPass δ d (.code opening :: ps ++ [.code ")"]) := by
  intro next
  have closes : ∀ n, tokensFrom n [(.code ")" : Piece α)] = [.mark ')'] := fun _ => rfl
  rw [List.cons_append, tokensFrom, tokensFrom_append, closes, opens, List.append_assoc,
    List.singleton_append]
  exact (passes_of_isPlain (List.all_eq_true.1 plain)).append (inner next).parens

/-- Holes between commas are plain. -/
theorem isPlain_holes (values : List α) : ∀ piece ∈ holes values, piece.isPlain = true := by
  induction values using holes.induct with
  | case1 => exact List.forall_mem_nil _
  | case2 value => exact List.forall_mem_singleton.2 rfl
  | case3 value rest nonempty ih =>
    rw [holes]
    · rw [List.forall_mem_cons, List.forall_mem_cons]
      exact ⟨rfl, rfl, ih⟩
    · exact nonempty

/-- The name of a column is one plain word. -/
theorem codeTokens_of_isPlainName {name : String} (h : IsPlainName name) :
    codeTokens name = [.word name.toList] := codeTokens_of_word h.1.1 h.1.2

/-- The name of a column is a plain piece. -/
theorem isPlain_of_isPlainName {name : String} (h : IsPlainName name) :
    (Piece.code name : Piece α).isPlain = true := by
  have notReserved := h.2
  simp only [isReserved, reservedWords, List.any_cons, Bool.or_eq_false_iff] at notReserved
  simp [Piece.isPlain, codeTokens_of_isPlainName h, Token.isPlain, notReserved]

/-- A term passes every split. -/
theorem Term.passes {t : Term α} (isOver : t.Over IsPlainName literal) :
    PiecesPass δ d t.pieces := by
  induction t generalizing d with
  | column name => exact piecesPass_single (isPlain_of_isPlainName isOver)
  | literal text => exact piecesPass_single rfl
  | param value => exact piecesPass_single rfl
  | array values =>
    apply piecesPass_of_isPlain
    simp only [Term.pieces, List.cons_append, List.forall_mem_cons, List.forall_mem_append]
    exact ⟨rfl, isPlain_holes values, rfl, List.forall_mem_nil _⟩
  | member base key ih =>
    refine (ih isOver.1).append (piecesPass_of_isPlain ?_)
    simp only [List.forall_mem_cons]
    exact ⟨rfl, rfl, List.forall_mem_nil _⟩
  | memberText base key ih =>
    refine (ih isOver.1).append (piecesPass_of_isPlain ?_)
    simp only [List.forall_mem_cons]
    exact ⟨rfl, rfl, List.forall_mem_nil _⟩
  | cast term type ih =>
    refine (ih isOver).append (piecesPass_of_isPlain ?_)
    simp only [List.forall_mem_cons]
    exact ⟨rfl, by cases type <;> rfl, List.forall_mem_nil _⟩
  | paren term ih => exact (ih isOver).enclosed [] (by decide) rfl

/-- A term passes every split together with what stands in parentheses behind it. -/
theorem Term.passes_enclosed {t : Term α} {opening : String} (before : List Token)
    (isOver : t.Over IsPlainName literal) (opens : codeTokens opening = before ++ [.mark '('])
    (plain : before.all Token.isPlain = true) (inner : PiecesPass δ (d + 1) ps) :
    PiecesPass δ d (t.pieces ++ .code opening :: ps ++ [.code ")"]) := by
  rw [List.append_assoc]
  exact (Term.passes isOver).append (inner.enclosed before opens plain)

/-- A test passes every split. -/
theorem Test.passes {t : Test α} (isOver : t.Over IsPlainName literal) :
    PiecesPass δ d t.pieces := by
  cases t with
  | relation left r right =>
    have symbol : (Piece.code r.sql : Piece α).isPlain = true := by
      cases r with
      | compare c => cases c <;> rfl
      | pattern p => cases p <;> rfl
      | overlaps => rfl
      | includes => rfl
    have between : PiecesPass δ d [(.code " " : Piece α), .code r.sql, .code " "] := by
      apply piecesPass_of_isPlain
      simp only [List.forall_mem_cons]
      exact ⟨rfl, symbol, rfl, List.forall_mem_nil _⟩
    exact (Term.passes isOver.1).append (between.append (Term.passes isOver.2))
  | isNull term => exact (Term.passes isOver).append (piecesPass_single rfl)
  | isNotNull term => exact (Term.passes isOver).append (piecesPass_single rfl)
  | inList term values =>
    have opens : codeTokens " IN (" = [.word ['I', 'N']] ++ [.mark '('] := by decide
    exact Term.passes_enclosed _ isOver opens rfl (piecesPass_of_isPlain (isPlain_holes values))
  | notInList term values =>
    have opens : codeTokens " NOT IN (" =
        [.word ['N', 'O', 'T'], .word ['I', 'N']] ++ [.mark '('] := by decide
    exact Term.passes_enclosed _ isOver opens rfl (piecesPass_of_isPlain (isPlain_holes values))
  | inArray term array =>
    have opens : codeTokens " = ANY(" = [.mark '=', .word ['A', 'N', 'Y']] ++ [.mark '('] := by
      decide
    exact Term.passes_enclosed _ isOver.1 opens rfl (Term.passes isOver.2)
  | notInArray term array =>
    have opens : codeTokens " != ALL(" =
        [.mark '!', .mark '=', .word ['A', 'L', 'L']] ++ [.mark '('] := by decide
    exact Term.passes_enclosed _ isOver.1 opens rfl (Term.passes isOver.2)
  | inDocument term document =>
    -- One piece of code opens two parentheses and another closes both, as four pieces would.
    have opens : codeTokens " = ANY(SELECT jsonb_array_elements(" =
        codeTokens " = ANY(" ++ codeTokens "SELECT jsonb_array_elements(" := by decide
    have closes : codeTokens "))" = codeTokens ")" ++ codeTokens ")" := by decide
    have inner : PiecesPass δ (d + 1)
        (.code "SELECT jsonb_array_elements(" :: document.pieces ++ [.code ")"]) := by
      refine PiecesPass.enclosed
        [.word "SELECT".toList, .word "jsonb_array_elements".toList] (by decide) (by decide) ?_
      exact Term.passes isOver.2
    have outer : PiecesPass δ d (.code " = ANY(" ::
        (.code "SELECT jsonb_array_elements(" :: document.pieces ++ [.code ")"]) ++ [.code ")"]) :=
      inner.enclosed [.mark '=', .word ['A', 'N', 'Y']] (by decide) rfl
    rw [Test.pieces, List.append_assoc]
    refine (Term.passes isOver.1).append fun next => ?_
    have passes := outer next
    simp only [List.cons_append, tokensFrom, tokensFrom_append, List.append_assoc,
      List.nil_append] at passes
    simpa only [List.cons_append, tokensFrom, tokensFrom_append, opens, closes,
      List.append_assoc] using passes

/-- The token of a connective. -/
def connectiveToken : Connective → Token
  | .and => .word ['A', 'N', 'D']
  | .or => .word ['O', 'R']

/-- A connective is written as its token. -/
theorem tokensFrom_connective (k : Connective) (next : Nat) (ps : List (Piece α)) :
    tokensFrom next (.code (connectiveCode k) :: ps) = connectiveToken k :: tokensFrom next ps := by
  have written : codeTokens (connectiveCode k) = [connectiveToken k] := by cases k <;> decide
  rw [tokensFrom, written, List.singleton_append]

/-- A split at a connective finds the token of this connective only. -/
theorem isAt_connectiveToken (k k' : Connective) :
    (Delimiter.connective k).isAt (connectiveToken k') = decide (k = k') := by
  cases k <;> cases k' <;> decide

/-- A condition passes every split but one at a connective that it shows outside parentheses. -/
theorem Condition.passes {c : Condition α} (isOver : c.Over IsPlainName literal)
    (hidden : d = 0 → ∀ k, δ = .connective k → c.exposes k = false) :
    PiecesPass δ d c.pieces := by
  induction c generalizing d with
  | constant truth => cases truth <;> exact piecesPass_single rfl
  | test t => exact Test.passes isOver
  | not c ih =>
    have inner := ih (d := d + 1) isOver fun zero => nomatch zero
    exact inner.enclosed [.word ['N', 'O', 'T']] (by decide) rfl
  | paren c ih =>
    have inner := ih (d := d + 1) isOver fun zero => nomatch zero
    exact inner.enclosed [] (by decide) rfl
  | join k left right ihLeft ihRight =>
    have parts : d = 0 → ∀ k', δ = .connective k' →
        k ≠ k' ∧ left.exposes k' = false ∧ right.exposes k' = false := by
      intro zero k' same
      simpa [exposes, and_assoc] using hidden zero k' same
    have passesLeft := ihLeft isOver.1 fun zero k' same => (parts zero k' same).2.1
    have passesRight := ihRight isOver.2 fun zero k' same => (parts zero k' same).2.2
    have connective : PiecesPass δ d [(.code (connectiveCode k) : Piece α)] := by
      intro next
      rw [tokensFrom_connective]
      refine passes_single (by cases k <;> rfl) fun zero => ?_
      cases δ with
      | connective k' => simpa [isAt_connectiveToken] using Ne.symm (parts zero k' rfl).1
      | close => cases k <;> rfl
    exact passesLeft.append (connective.append passesRight)

/-! ## What the reader reads -/

/-- A row that begins with a term, and goes on behind it, is neither a negation nor in
parentheses. -/
theorem Term.unitShape_append {t : Term α} (isOver : t.Over IsPlainName literal) {next : Nat}
    {rest : List Token} (more : rest ≠ []) :
    unitShape (tokensFrom next t.pieces ++ rest) = .atom := by
  -- Whatever a term begins with, it is not the word for a negation, and not a parenthesis that
  -- closes at the end.
  induction t generalizing rest with
  | column name =>
    have notNot : spells "NOT" name.toList = false := by
      have notReserved := isOver.2
      simp only [isReserved, reservedWords, List.any_cons, Bool.or_eq_false_iff] at notReserved
      exact notReserved.2.2.1
    rw [Term.pieces, tokensFrom, codeTokens_of_isPlainName isOver]
    simp [tokensFrom, unitShape, Token.isWord, notNot, more]
  | literal text => simp [Term.pieces, tokensFrom, unitShape, Token.isWord]
  | param value => simp [Term.pieces, tokensFrom, unitShape, Token.isWord]
  | array values =>
    have opens : codeTokens "ARRAY[" = [.word ['A', 'R', 'R', 'A', 'Y'], .mark '['] := by decide
    have notNot : spells "NOT" ['A', 'R', 'R', 'A', 'Y'] = false := by decide
    rw [Term.pieces, List.cons_append, tokensFrom, opens]
    simp [unitShape, Token.isWord, notNot]
  | member base key ih =>
    rw [Term.pieces, tokensFrom_append, List.append_assoc]
    exact ih isOver.1 (by simp [more])
  | memberText base key ih =>
    rw [Term.pieces, tokensFrom_append, List.append_assoc]
    exact ih isOver.1 (by simp [more])
  | cast term type ih =>
    rw [Term.pieces, tokensFrom_append, List.append_assoc]
    exact ih isOver (by simp [more])
  | paren term ih =>
    have split : splitTop .close 0 (tokensFrom next term.pieces ++ .mark ')' :: rest) =
        some (tokensFrom next term.pieces, rest) :=
      (Term.passes (t := term) isOver next).splitTop_append rfl rest
    have opens : codeTokens "(" = [.mark '('] := by decide
    have closes : codeTokens ")" = [.mark ')'] := by decide
    have row : tokensFrom next (.paren term : Term α).pieces ++ rest =
        .mark '(' :: (tokensFrom next term.pieces ++ .mark ')' :: rest) := by
      rw [Term.pieces, List.cons_append, tokensFrom, tokensFrom_append, tokensFrom, opens, closes]
      simp [tokensFrom]
    rw [row, unitShape, split]
    cases rest with
    | nil => exact absurd rfl more
    | cons t rest => rfl

/-- The formula of a condition, its first hole having the number `next`: tests are atoms, and
parentheses say no more. -/
def Condition.formula (next : Nat) : Condition α → Formula (List Token)
  | .constant truth => .constant truth
  | .test t => .atom (tokensFrom next t.pieces)
  | .not c => .not (c.formula next)
  | .paren c => c.formula next
  | .join k left right =>
    .join k (left.formula next) (right.formula (next + (holeValues left.pieces).length))

/-- A test goes on behind its first term, so it is neither a negation nor in parentheses. -/
theorem Test.unitShape_pieces {t : Test α} (isOver : t.Over IsPlainName literal) (next : Nat) :
    unitShape (tokensFrom next t.pieces) = .atom := by
  -- Behind the term stands code that is more than blanks.
  have behind : ∀ {term : Term α} {code : String} {ps : List (Piece α)},
      term.Over IsPlainName literal → codeTokens code ≠ [] →
      unitShape (tokensFrom next (term.pieces ++ .code code :: ps)) = .atom := by
    intro term code ps isOver more
    rw [tokensFrom_append, tokensFrom]
    exact Term.unitShape_append isOver (by simp [more])
  cases t with
  | relation left r right =>
    have symbol : codeTokens r.sql ≠ [] := by
      cases r with
      | compare c => cases c <;> decide
      | pattern p => cases p <;> decide
      | overlaps => decide
      | includes => decide
    rw [Test.pieces, tokensFrom_append]
    exact Term.unitShape_append isOver.1 (by simp [tokensFrom, symbol])
  | isNull term => exact behind isOver (by decide)
  | isNotNull term => exact behind isOver (by decide)
  | inList term values =>
    rw [Test.pieces, List.append_assoc]
    exact behind isOver (by decide)
  | notInList term values =>
    rw [Test.pieces, List.append_assoc]
    exact behind isOver (by decide)
  | inArray term array =>
    rw [Test.pieces, List.append_assoc]
    exact behind isOver.1 (by decide)
  | notInArray term array =>
    rw [Test.pieces, List.append_assoc]
    exact behind isOver.1 (by decide)
  | inDocument term document =>
    rw [Test.pieces, List.append_assoc]
    exact behind isOver.1 (by decide)

/-- A row that passes the splits at both connectives is read by its beginning. -/
theorem shape_of_passes {ts : List Token} (passes : ∀ k, Passes (.connective k) 0 ts) :
    shape ts = unitShape ts := by
  rw [shape, (passes .or).splitTop_eq_none, (passes .and).splitTop_eq_none]

/-- A row in parentheses is read as what stands in them. -/
theorem read_parens {ts : List Token} (inside : ∀ k, Passes (.connective k) 1 ts)
    (closed : Passes .close 0 ts) : read (.mark '(' :: (ts ++ [.mark ')'])) = read ts := by
  have outer : ∀ k, Passes (.connective k) 0 (.mark '(' :: (ts ++ [.mark ')'])) :=
    fun k => (inside k).parens
  have notNot : (Token.mark '(').isWord "NOT" = false := rfl
  rw [read_eq, shape_of_passes outer, unitShape, notNot, closed.splitTop_append rfl []]
  rfl

/-- A row behind `NOT` is read as a negation. -/
theorem read_not {ts : List Token} (passes : ∀ k, Passes (.connective k) 0 ts) :
    read (.word ['N', 'O', 'T'] :: ts) = .not (read ts) := by
  have outer : ∀ k, Passes (.connective k) 0 (.word ['N', 'O', 'T'] :: ts) :=
    fun k => (passes_of_isPlain (List.forall_mem_singleton.2 (by decide))).append (passes k)
  have isNot : (Token.word ['N', 'O', 'T']).isWord "NOT" = true := by decide
  rw [read_eq, shape_of_passes outer, unitShape, if_pos isNot]

/-- Two rows are read apart at the connective between them, if the first one shows no connective
and the second one none that binds weaker. -/
theorem read_join {k : Connective} {left right : List Token}
    (hiddenLeft : ∀ k', Passes (.connective k') 0 left)
    (hiddenRight : ∀ k', k' ≠ k → Passes (.connective k') 0 right) :
    read (left ++ connectiveToken k :: right) = .join k (read left) (read right) := by
  have found : (Delimiter.connective k).isAt (connectiveToken k) = true := by
    rw [isAt_connectiveToken, decide_eq_true rfl]
  have split := (hiddenLeft k).splitTop_append found right
  cases k with
  | or => rw [read_eq, shape, split]
  | and =>
    have noOr : Passes (.connective .or) 0 (left ++ ([connectiveToken .and] ++ right)) :=
      (hiddenLeft .or).append ((passes_single rfl fun _ => rfl).append (hiddenRight .or nofun))
    rw [List.singleton_append] at noOr
    rw [read_eq, shape, noOr.splitTop_eq_none, split]

/-- The reader reads a condition as it was joined. -/
theorem Condition.read_pieces {c : Condition α} (isOver : c.Over IsPlainName literal)
    (chained : c.Chained) (next : Nat) : read (tokensFrom next c.pieces) = c.formula next := by
  have opens : codeTokens "(" = [.mark '('] := by decide
  have opensNot : codeTokens "NOT (" = [.word ['N', 'O', 'T'], .mark '('] := by decide
  have closes : ∀ n, tokensFrom n [(.code ")" : Piece α)] = [.mark ')'] := fun _ => rfl
  -- Between parentheses a condition passes every split, so they are read first.
  have inside : ∀ {c : Condition α} (k : Connective) (next : Nat), c.Over IsPlainName literal →
      Passes (.connective k) 1 (tokensFrom next c.pieces) :=
    fun k next isOver => Condition.passes (d := 1) isOver (fun zero => nomatch zero) next
  have parens : ∀ {c : Condition α} (next : Nat), c.Over IsPlainName literal →
      read (.mark '(' :: (tokensFrom next c.pieces ++ [.mark ')'])) =
        read (tokensFrom next c.pieces) := by
    intro c next isOver
    have closed : Passes .close 0 (tokensFrom next c.pieces) :=
      Condition.passes isOver (fun _ _ same => by cases same) next
    exact read_parens (fun k => inside k next isOver) closed
  induction c generalizing next with
  | constant truth =>
    cases truth
    · have written : codeTokens "FALSE" = [.word ['F', 'A', 'L', 'S', 'E']] := by decide
      have shaped : shape [.word ['F', 'A', 'L', 'S', 'E']] = .constant false := by decide
      rw [pieces, tokensFrom, tokensFrom, written, List.append_nil, read_eq, shaped]
      rfl
    · have written : codeTokens "TRUE" = [.word ['T', 'R', 'U', 'E']] := by decide
      have shaped : shape [.word ['T', 'R', 'U', 'E']] = .constant true := by decide
      rw [pieces, tokensFrom, tokensFrom, written, List.append_nil, read_eq, shaped]
      rfl
  | test t =>
    have passes : ∀ k, Passes (.connective k) 0 (tokensFrom next t.pieces) :=
      fun k => Test.passes isOver next
    rw [pieces, read_eq, shape_of_passes passes, Test.unitShape_pieces isOver next]
    rfl
  | not c ih =>
    have isOver : c.Over IsPlainName literal := isOver
    have row : tokensFrom next (not c).pieces =
        .word ['N', 'O', 'T'] :: .mark '(' :: (tokensFrom next c.pieces ++ [.mark ')']) := by
      rw [pieces, List.cons_append, tokensFrom, tokensFrom_append, opensNot, closes]
      rfl
    rw [row, read_not fun k => (inside k next isOver).parens, parens next isOver, ih isOver chained]
    rfl
  | paren c ih =>
    have isOver : c.Over IsPlainName literal := isOver
    have row : tokensFrom next (paren c).pieces =
        .mark '(' :: (tokensFrom next c.pieces ++ [.mark ')']) := by
      rw [pieces, List.cons_append, tokensFrom, tokensFrom_append, opens, closes]
      rfl
    rw [row, parens next isOver, ih isOver chained]
    rfl
  | join k left right ihLeft ihRight =>
    obtain ⟨hiddenLeft, hiddenRight, chainedLeft, chainedRight⟩ := chained
    rw [pieces, tokensFrom_append, tokensFrom_connective, read_join, ihLeft isOver.1 chainedLeft,
      ihRight isOver.2 chainedRight]
    · rfl
    · intro k'
      exact Condition.passes isOver.1 (fun _ k'' _ => hiddenLeft k'') next
    · intro k' other
      refine Condition.passes isOver.2 (fun _ k'' same => ?_) _
      cases same
      exact hiddenRight k' other

end

end FilterSql.Sql
