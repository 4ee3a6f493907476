import FilterSql.Proofs.Sql.Lexeme
import Mathlib.Data.List.Basic

/-!
# Tokens of SQL text

Characters of words that stand side by side make one word; blanks only separate; every other
character outside literals is a mark of its own. No word of a spaced row runs over the end of
its piece, so the tokens of such a row are those of its pieces, one after the other
(`tokens_lexemesFrom`).
-/

set_option autoImplicit false

namespace FilterSql.Sql

/-- A unit that SQL text is read by. -/
inductive Token
  | word (cs : List Char)
  | mark (c : Char)
  | placeholder (digits : List Char)
  | literal (text : List Char)
deriving Repr, DecidableEq

/-- The word that characters make, if there are any. -/
def wordOf : List Char → List Token
  | [] => []
  | cs => [.word cs]

/-- The mark that a character outside words makes. A blank makes none. -/
def markOf (c : Char) : List Token := if c = ' ' then [] else [.mark c]

/-- The tokens of lexemes behind the beginning of a word. -/
def tokensBehind : List Char → List Lexeme → List Token
  | begun, [] => wordOf begun
  | begun, .plain c :: rest =>
    if isWordChar c then tokensBehind (begun ++ [c]) rest
    else wordOf begun ++ markOf c ++ tokensBehind [] rest
  | begun, .placeholder digits :: rest =>
    wordOf begun ++ .placeholder digits :: tokensBehind [] rest
  | begun, .literal text :: rest => wordOf begun ++ .literal text :: tokensBehind [] rest

/-- The tokens of lexemes. -/
def tokens (lexemes : List Lexeme) : List Token := tokensBehind [] lexemes

/-- The tokens of code. -/
def codeTokens (text : String) : List Token := tokens (text.toList.map .plain)

/-- The tokens of pieces whose first hole has the number `next`. -/
def tokensFrom {α : Type} (next : Nat) : List (Piece α) → List Token
  | [] => []
  | .code text :: rest => codeTokens text ++ tokensFrom next rest
  | .quoted text :: rest => .literal text.toList :: tokensFrom next rest
  | .hole _ :: rest => .placeholder (Nat.toDigits 10 next) :: tokensFrom (next + 1) rest

/-- No word goes on at the beginning of lexemes. -/
def EndsWord (lexemes : List Lexeme) : Prop :=
  ∀ c, lexemes.head? = some (.plain c) → isWordChar c = false

/-- A word is complete where none goes on. -/
theorem tokensBehind_of_endsWord (begun : List Char) {lexemes : List Lexeme}
    (ends : EndsWord lexemes) : tokensBehind begun lexemes = wordOf begun ++ tokens lexemes := by
  cases lexemes with
  | nil => simp [tokens, tokensBehind, wordOf]
  | cons lexeme rest =>
    cases lexeme with
    | plain c =>
      have notWord : ¬ isWordChar c = true := by simpa using ends c rfl
      simp [tokens, tokensBehind, if_neg notWord, wordOf]
    | placeholder digits => simp [tokens, tokensBehind, wordOf]
    | literal text => simp [tokens, tokensBehind, wordOf]

/-- Lexemes behind code leave its tokens as they are, unless they go on with its last word. -/
theorem tokensBehind_append (begun : List Char) {code : List Char} {lexemes : List Lexeme}
    (isWord : ∀ c ∈ begun, isWordChar c = true)
    (apart : (begun ++ code).getLast?.any isWordChar = true → EndsWord lexemes) :
    tokensBehind begun (code.map .plain ++ lexemes) =
      tokensBehind begun (code.map .plain) ++ tokens lexemes := by
  induction code generalizing begun with
  | nil =>
    rw [List.map_nil, List.nil_append, tokensBehind]
    cases last : begun.getLast? with
    | none =>
      rw [List.getLast?_eq_none_iff] at last
      rw [last]
      rfl
    | some c =>
      apply tokensBehind_of_endsWord
      apply apart
      rw [List.append_nil, last]
      exact isWord c (List.mem_of_getLast? last)
  | cons c rest ih =>
    rw [List.map_cons, List.cons_append, tokensBehind, tokensBehind]
    split
    · rename_i word
      apply ih
      · exact List.forall_mem_append.2 ⟨isWord, List.forall_mem_singleton.2 word⟩
      · rwa [List.append_assoc, List.singleton_append]
    -- Here the word that was begun ends, and the rest is split with no word begun.
    · have ih := ih [] (List.forall_mem_nil _) fun last => by
        apply apart
        cases rest with
        | nil => cases last
        | cons c' rest =>
          have same : (begun ++ c :: c' :: rest).getLast? = ([] ++ c' :: rest).getLast? := by
            rw [List.getLast?_append_of_ne_nil _ (by simp), List.getLast?_cons_cons,
              List.nil_append]
          rwa [same]
      rw [ih, List.append_assoc, List.append_assoc, List.append_assoc]

variable {α : Type}

/-- No word goes on at the beginning of a row that cannot be run into. -/
theorem endsWord_lexemesFrom {next : Nat} {ps : List (Piece α)} (apart : beginsApart ps = true) :
    EndsWord (lexemesFrom next ps) := by
  intro c head
  cases ps with
  | nil => cases head
  | cons piece rest =>
    cases piece with
    | code text =>
      cases chars : text.toList with
      | nil => simp [beginsApart, chars] at apart
      | cons first others =>
        simp only [lexemesFrom, chars, List.map_cons, List.cons_append, List.head?_cons,
          Option.some.injEq, Lexeme.plain.injEq] at head
        subst head
        simp only [beginsApart, chars, List.head?_cons, Option.any_some, Bool.and_eq_true] at apart
        simpa using apart.1
    | quoted text => cases apart
    | hole value => cases apart

/-- The tokens of a spaced row are those of its pieces. -/
theorem tokens_lexemesFrom (next : Nat) {ps : List (Piece α)} (spaced : Spaced ps) :
    tokens (lexemesFrom next ps) = tokensFrom next ps := by
  induction ps generalizing next with
  | nil => rfl
  | cons piece rest ih =>
    have ih := fun n => ih n spaced.2
    cases piece with
    | code text =>
      rw [lexemesFrom, tokensFrom, ← ih]
      apply tokensBehind_append []
      · exact List.forall_mem_nil _
      · exact fun runsOn => endsWord_lexemesFrom (spaced.1 runsOn)
    | quoted text =>
      rw [lexemesFrom, tokensFrom, ← ih]
      rfl
    | hole value =>
      rw [lexemesFrom, tokensFrom, ← ih]
      rfl

/-- The holes of two rows, one behind the other. -/
theorem holeValues_append (ps qs : List (Piece α)) :
    holeValues (ps ++ qs) = holeValues ps ++ holeValues qs := by
  induction ps with
  | nil => rfl
  | cons piece rest ih => cases piece <;> simp [holeValues, ih]

/-- The text of two rows, one behind the other: the second is numbered behind the first. -/
theorem charsFrom_append (next : Nat) (ps qs : List (Piece α)) :
    charsFrom next (ps ++ qs) =
      charsFrom next ps ++ charsFrom (next + (holeValues ps).length) qs := by
  induction ps generalizing next with
  | nil => rfl
  | cons piece rest ih =>
    cases piece with
    | code text => simp only [List.cons_append, charsFrom, holeValues, ih, List.append_assoc]
    | quoted text => simp only [List.cons_append, charsFrom, holeValues, ih, List.append_assoc]
    | hole value =>
      simp only [List.cons_append, charsFrom, holeValues, ih, List.length_cons, List.append_assoc]
      rw [Nat.add_right_comm, Nat.add_assoc]

/-- The tokens of two rows, one behind the other. -/
theorem tokensFrom_append (next : Nat) (ps qs : List (Piece α)) :
    tokensFrom next (ps ++ qs) =
      tokensFrom next ps ++ tokensFrom (next + (holeValues ps).length) qs := by
  induction ps generalizing next with
  | nil => rfl
  | cons piece rest ih =>
    cases piece with
    | code text => simp only [List.cons_append, tokensFrom, holeValues, ih, List.append_assoc]
    | quoted text => simp only [List.cons_append, tokensFrom, holeValues, ih]
    | hole value =>
      simp only [List.cons_append, tokensFrom, holeValues, ih, List.length_cons]
      rw [Nat.add_right_comm, Nat.add_assoc]

/-- The tokens of the name of a column are one word. -/
theorem codeTokens_of_word {name : String} (nonempty : name.toList ≠ [])
    (isWord : ∀ c ∈ name.toList, isWordChar c = true) : codeTokens name = [.word name.toList] := by
  have collect : ∀ (cs begun : List Char), (∀ c ∈ cs, isWordChar c = true) →
      tokensBehind begun (cs.map .plain) = wordOf (begun ++ cs) := by
    intro cs
    induction cs with
    | nil =>
      intro begun _
      rw [List.append_nil, List.map_nil, tokensBehind]
    | cons c rest ih =>
      intro begun isWord
      obtain ⟨first, others⟩ := List.forall_mem_cons.1 isWord
      rw [List.map_cons, tokensBehind, if_pos first, ih _ others, List.append_assoc,
        List.singleton_append]
  rw [codeTokens, tokens, collect _ _ isWord, List.nil_append]
  cases chars : name.toList with
  | nil => exact absurd chars nonempty
  | cons c rest => rfl

end FilterSql.Sql
