import FilterSql.Proofs.Sql.ReadBack
import FilterSql.Proofs.Sql.Values

/-!
# Opposite conditions

SQL negates a comparison in several spellings: by another symbol, by `NOT` inside it, or by another
symbol and another quantifier. A reading of atomic comparisons may give them any truth values, as
long as these spellings are negations (`ReadsNegations`). Two conditions are opposite if they bind
the same and one has the negated truth value of the other in every such reading.
-/

set_option autoImplicit false

namespace FilterSql.Sql

/-- The words that may stand between a symbol and the array that it is applied to. -/
def Token.isQuantifier (t : Token) : Bool := t.isWord "ANY" || t.isWord "ALL"

/-- An assignment to atomic comparisons reads the negated spellings as negations of the plain ones.
-/
structure ReadsNegations (v : List Token → Truth) : Prop where
  /-- Before a quantifier another symbol is no negation: the quantifier has to change with it. -/
  notEqual : ∀ left right, (right.head?.any Token.isQuantifier) = false →
    v (left ++ [.mark '!', .mark '='] ++ right) = (v (left ++ [.mark '='] ++ right)).not
  notAll : ∀ left right, v (left ++ [.mark '!', .mark '=', .word ['A', 'L', 'L']] ++ right) =
    (v (left ++ [.mark '=', .word ['A', 'N', 'Y']] ++ right)).not
  notIn : ∀ left right, v (left ++ [.word ['N', 'O', 'T'], .word ['I', 'N']] ++ right) =
    (v (left ++ [.word ['I', 'N']] ++ right)).not
  notNull : ∀ left,
    v (left ++ [.word ['I', 'S'], .word ['N', 'O', 'T'], .word ['N', 'U', 'L', 'L']]) =
      (v (left ++ [.word ['I', 'S'], .word ['N', 'U', 'L', 'L']])).not

/-- Whether a token is a sign of negation. -/
def Token.isNegation (t : Token) : Bool := t = .mark '!' || t = .word ['N', 'O', 'T']

/-- The assignment that makes exactly the comparisons true in which an odd number of signs of
negation stand. -/
def oddNegations (ts : List Token) : Truth := .ofBool (ts.countP Token.isNegation % 2 = 1)

/-- There are such readings, and some of them tell comparisons apart. -/
theorem readsNegations_oddNegations : ReadsNegations oddNegations := by
  have oneMore {ts us : List Token}
      (h : ts.countP Token.isNegation = us.countP Token.isNegation + 1) :
      oddNegations ts = (oddNegations us).not := by
    rw [oddNegations, oddNegations, h]
    rcases Nat.mod_two_eq_zero_or_one (us.countP Token.isNegation) with even | odd
    · have odd : (us.countP Token.isNegation + 1) % 2 = 1 := by omega
      rw [even, odd]
      rfl
    · have even : (us.countP Token.isNegation + 1) % 2 = 0 := by omega
      rw [odd, even]
      rfl
  constructor <;> intros <;> apply oneMore <;>
    simp [List.countP_append, Token.isNegation] <;> omega

variable {α : Type}

/-- A condition with the same values whose truth value is the negation, in every reading. -/
def Condition.Opposite (c c' : Condition α) : Prop :=
  c'.values = c.values ∧ ∀ v, ReadsNegations v → ∀ next,
    (c'.formula next).eval v = ((c.formula next).eval v).not

/-- A term that begins with a value, and not with a name. -/
def Term.IsValue : Term α → Prop
  | .literal _ | .param _ | .array _ => True
  | .cast term _ => term.IsValue
  | .column _ | .member _ _ | .memberText _ _ | .paren _ => False

/-- A symbol before a value is not followed by a quantifier. -/
theorem Term.IsValue.notQuantifier {t : Term α} (h : t.IsValue) (next : Nat) :
    ∃ first rest, tokensFrom next t.pieces = first :: rest ∧ first.isQuantifier = false := by
  induction t with
  | literal text => exact ⟨_, _, rfl, rfl⟩
  | param value => exact ⟨_, _, rfl, rfl⟩
  | array values =>
    have opens : codeTokens "ARRAY[" = [.word ['A', 'R', 'R', 'A', 'Y'], .mark '['] := by decide
    rw [Term.pieces, List.cons_append, tokensFrom, opens]
    exact ⟨_, _, rfl, by decide⟩
  | cast term type ih =>
    obtain ⟨first, rest, tokens, notQuantifier⟩ := ih h
    rw [Term.pieces, tokensFrom_append, tokens]
    exact ⟨_, _, rfl, notQuantifier⟩
  | _ => cases h

namespace Condition

variable {c c' d d' : Condition α} {t right : Term α}

/-- If a condition is the opposite of another, the other is its opposite. -/
theorem Opposite.symm (h : Opposite c c') : Opposite c' c := by
  refine ⟨h.1.symm, fun v reads next => ?_⟩
  rw [h.2 v reads next, Truth.not_not]

/-- The two constants are opposite. -/
theorem opposite_constant (truth : Bool) :
    Opposite (constant truth : Condition α) (constant !truth) := by
  cases truth <;> exact ⟨rfl, fun _ _ _ => rfl⟩

/-- A condition and its negation are opposite, even without a reading of the comparisons. -/
theorem opposite_not (c : Condition α) : Opposite c (.not c) := ⟨values_not c, fun _ _ _ => rfl⟩

/-- Parentheses keep conditions opposite. -/
theorem Opposite.paren (h : Opposite c c') : Opposite (.paren c) (.paren c') := by
  refine ⟨?_, h.2⟩
  rw [values_paren, values_paren, h.1]

/-- The opposite of a conjunction is the disjunction of the opposites. -/
theorem Opposite.join (h : Opposite c c') (h' : Opposite d d') :
    Opposite (.join .and c d) (.join .or c' d') := by
  refine ⟨?_, fun v reads next => ?_⟩
  · rw [values_join, values_join, h.1, h'.1]
  · have sameNext : holeValues c'.pieces = holeValues c.pieces := h.1
    simp only [formula, Formula.eval, Truth.join]
    rw [sameNext, h.2 v reads, h'.2 v reads, Truth.not_and]

/-- Equality with a value and inequality with it are opposite. -/
theorem opposite_relation (isValue : right.IsValue) :
    Opposite (.test (.relation t (.compare .eq) right))
      (.test (.relation t (.compare .ne) right)) := by
  refine ⟨by simp, fun v reads next => ?_⟩
  obtain ⟨first, rest, tokens, notQuantifier⟩ :=
    isValue.notQuantifier (next + (holeValues t.pieces).length)
  have eq : codeTokens "=" = [.mark '='] := by decide
  have ne : codeTokens "!=" = [.mark '!', .mark '='] := by decide
  have blank : codeTokens " " = [] := by decide
  have negated := reads.notEqual (tokensFrom next t.pieces) (first :: rest) notQuantifier
  simp only [formula, Formula.eval, Test.pieces, Relation.sql, Comparison.sql, tokensFrom_append,
    tokensFrom, eq, ne, blank, List.nil_append, tokens]
  simpa using negated

/-- The two tests for null are opposite. -/
theorem opposite_isNull : Opposite (.test (.isNull t)) (.test (.isNotNull t)) := by
  refine ⟨by simp, fun v reads next => ?_⟩
  have isNull : codeTokens " IS NULL" = [.word ['I', 'S'], .word ['N', 'U', 'L', 'L']] := by decide
  have isNotNull : codeTokens " IS NOT NULL" =
      [.word ['I', 'S'], .word ['N', 'O', 'T'], .word ['N', 'U', 'L', 'L']] := by decide
  simpa [formula, Formula.eval, Test.pieces, tokensFrom_append, tokensFrom, isNull, isNotNull]
    using reads.notNull (tokensFrom next t.pieces)

/-- Membership in a list and its negation are opposite. -/
theorem opposite_inList (values : List α) :
    Opposite (.test (.inList t values)) (.test (.notInList t values)) := by
  refine ⟨by simp, fun v reads next => ?_⟩
  have isIn : codeTokens " IN (" = [.word ['I', 'N']] ++ [.mark '('] := by decide
  have notIn : codeTokens " NOT IN (" =
      [.word ['N', 'O', 'T'], .word ['I', 'N']] ++ [.mark '('] := by decide
  simpa [formula, Formula.eval, Test.pieces, tokensFrom_append, tokensFrom, isIn, notIn]
    using reads.notIn (tokensFrom next t.pieces) _

/-- Equality with any element of an array and inequality with all are opposite. -/
theorem opposite_inArray : Opposite (.test (.inArray t right)) (.test (.notInArray t right)) := by
  refine ⟨by simp, fun v reads next => ?_⟩
  have isAny : codeTokens " = ANY(" = [.mark '=', .word ['A', 'N', 'Y']] ++ [.mark '('] := by decide
  have notAll : codeTokens " != ALL(" =
      [.mark '!', .mark '=', .word ['A', 'L', 'L']] ++ [.mark '('] := by decide
  simpa [formula, Formula.eval, Test.pieces, tokensFrom_append, tokensFrom, isAny, notAll]
    using reads.notAll (tokensFrom next t.pieces) _

end Condition

end FilterSql.Sql
