import FilterSql.Proofs.Sql.Form
import FilterSql.Proofs.Sql.Site
import Mathlib.Data.List.Forall2

/-!
# Parameters that fit their places

A row of pieces fits if, wherever it stands in a text, what each of its holes holds fits the place
of the placeholder that is written for it. Rows that fit make rows that fit, when code that keeps
them apart stands between them.
-/

set_option autoImplicit false

namespace FilterSql.Sql

/-! ## Places in a row -/

/-- The places in a row are those in its first part, and those in the rest behind it. -/
theorem sitesIn_append (before xs ys after : List Token) :
    sitesIn before (xs ++ ys) after =
      sitesIn before xs (ys ++ after) ++ sitesIn (before ++ xs) ys after := by
  induction xs generalizing before with
  | nil => simp [sitesIn]
  | cons t rest ih => cases t <;> simp [sitesIn, ih]

/-- A row without placeholders has no places. -/
theorem sitesIn_of_no_placeholder {before ts after : List Token}
    (none : ∀ digits, .placeholder digits ∉ ts) : sitesIn before ts after = [] := by
  induction ts generalizing before with
  | nil => rfl
  | cons t rest ih =>
    have others : sitesIn (before ++ [t]) rest after = [] :=
      ih fun digits mem => none digits (List.mem_cons_of_mem _ mem)
    cases t with
    | placeholder digits => exact absurd List.mem_cons_self (none digits)
    | _ => exact others

/-- Code has no placeholders. -/
theorem placeholder_notMem_codeTokens (text : String) (digits : List Char) :
    .placeholder digits ∉ codeTokens text := by
  have step : ∀ (cs begun : List Char),
      .placeholder digits ∉ tokensBehind begun (cs.map Lexeme.plain) := by
    intro cs
    induction cs with
    | nil =>
      intro begun
      cases begun <;> simp [tokensBehind, wordOf]
    | cons c rest ih =>
      intro begun
      rw [List.map_cons, tokensBehind]
      split
      · exact ih _
      · have word : .placeholder digits ∉ wordOf begun := by cases begun <;> simp [wordOf]
        have mark : .placeholder digits ∉ markOf c := by
          unfold markOf
          split <;> simp
        simp [word, mark, ih []]
  exact step text.toList []

/-- Pieces without holes have no placeholders. -/
theorem placeholder_notMem_of_closed {next : Nat} {ps : List (Piece Param)}
    (closed : holeValues ps = []) (digits : List Char) :
    .placeholder digits ∉ tokensFrom next ps := by
  induction ps with
  | nil => simp [tokensFrom]
  | cons piece rest ih =>
    cases piece with
    | code text => simpa [tokensFrom, placeholder_notMem_codeTokens] using ih closed
    | quoted text => simpa [tokensFrom] using ih closed
    | hole value => cases closed

/-- A place has the number of a parameter, which fits it. -/
def SiteFits (site : Site) (numbered : Param × Nat) : Prop :=
  site.digits = Nat.toDigits 10 numbered.2 ∧ site.Fits numbered.1

/-- The pieces fit between the given tokens, numbered from `next`. -/
def RowFits (next : Nat) (before : List Token) (ps : List (Piece Param)) (after : List Token) :
    Prop :=
  List.Forall₂ SiteFits (sitesIn before (tokensFrom next ps) after) ((holeValues ps).zipIdx next)

/-- The pieces fit wherever they stand apart from what is around them. -/
def PiecesFit (ps : List (Piece Param)) : Prop :=
  ∀ next before after, Opens before → Closes after → RowFits next before ps after

variable {next : Nat} {before after : List Token} {ps qs : List (Piece Param)}

/-- A row fits if its first part fits before the rest, and the rest behind the first part. -/
theorem RowFits.append (first : RowFits next before ps
      (tokensFrom (next + (holeValues ps).length) qs ++ after))
    (second : RowFits (next + (holeValues ps).length) (before ++ tokensFrom next ps) qs after) :
    RowFits next before (ps ++ qs) after := by
  rw [RowFits, tokensFrom_append, sitesIn_append, holeValues_append, List.zipIdx_append]
  exact List.rel_append first second

/-- A row without holes fits anywhere. -/
theorem rowFits_of_closed (closed : holeValues ps = []) : RowFits next before ps after := by
  rw [RowFits, closed, sitesIn_of_no_placeholder (placeholder_notMem_of_closed closed)]
  exact .nil

/-- A condition whose pieces fit. -/
def Condition.Fits (c : Condition Param) : Prop := PiecesFit c.pieces

/-- Behind a word or an opening parenthesis stands anything. -/
theorem opens_concat {ts : List Token} {t : Token} (notColon : t ≠ .mark ':')
    (notParen : t ≠ .mark ')') : Opens (ts ++ [t]) := by
  intro t' last
  rw [List.getLast?_concat, Option.some.injEq] at last
  subst last
  exact ⟨notColon, notParen⟩

/-- What begins with another token than a colon and a bracket begins with no cast. -/
theorem closes_cons {ts : List Token} {t : Token} (notColon : t ≠ .mark ':')
    (notBracket : t ≠ .mark '[') : Closes (t :: ts) := by
  intro t' head
  cases head
  exact ⟨notColon, notBracket⟩

/-- A closing parenthesis begins no cast. -/
theorem closes_paren {ts : List Token} : Closes (.mark ')' :: ts) :=
  closes_cons (by simp) (by simp)

/-- Pieces that fit keep fitting behind code whose last token opens. -/
theorem PiecesFit.code {text : String} (init : List Token) {t : Token}
    (isLast : codeTokens text = init ++ [t]) (notColon : t ≠ .mark ':') (notParen : t ≠ .mark ')')
    (h : PiecesFit ps) : PiecesFit (.code text :: ps) := by
  intro next before after opens closes
  change RowFits next before ([.code text] ++ ps) after
  apply RowFits.append (rowFits_of_closed rfl)
  apply h _ _ _ _ closes
  rw [tokensFrom, tokensFrom, List.append_nil, isLast, ← List.append_assoc]
  exact opens_concat notColon notParen

/-- Pieces that fit keep fitting in parentheses. -/
theorem PiecesFit.paren {text : String} (init : List Token)
    (isLast : codeTokens text = init ++ [.mark '(']) (h : PiecesFit ps) :
    PiecesFit (.code text :: ps ++ [.code ")"]) := by
  have inner : PiecesFit (ps ++ [.code ")"]) := by
    intro next before after opens _
    refine RowFits.append (h _ _ _ opens ?_) (rowFits_of_closed rfl)
    exact closes_paren
  exact inner.code init isLast (by simp) (by simp)

/-- Pieces that fit keep fitting on both sides of a word. -/
theorem PiecesFit.join {text : String} (word : List Char) (isWord : codeTokens text = [.word word])
    (left : PiecesFit ps) (right : PiecesFit qs) : PiecesFit (ps ++ .code text :: qs) := by
  intro next before after opens closes
  apply RowFits.append
  · apply left _ _ _ opens
    rw [tokensFrom, isWord]
    exact closes_cons (by simp) (by simp)
  · change RowFits _ _ ([.code text] ++ qs) after
    apply RowFits.append (rowFits_of_closed rfl)
    apply right _ _ _ _ closes
    rw [tokensFrom, tokensFrom, List.append_nil, isWord]
    exact opens_concat (by simp) (by simp)

namespace Condition

/-- A negation puts parentheses around its condition, and these keep it apart. -/
theorem Fits.not {c : Condition Param} (h : c.Fits) : (Condition.not c).Fits :=
  PiecesFit.paren [.word ['N', 'O', 'T']] rfl h

/-- Parentheses keep a condition apart from what is around them. -/
theorem Fits.paren {c : Condition Param} (h : c.Fits) : (Condition.paren c).Fits :=
  PiecesFit.paren [] rfl h

/-- A connective keeps its two sides apart. -/
theorem Fits.join (k : Connective) {c c' : Condition Param} (left : c.Fits) (right : c'.Fits) :
    (Condition.join k c c').Fits := by
  cases k with
  | and => exact PiecesFit.join ['A', 'N', 'D'] rfl left right
  | or => exact PiecesFit.join ['O', 'R'] rfl left right

end Condition

/-! ## Tests -/

/-- A term without holes. -/
def Term.Closed (t : Term Param) : Prop := holeValues t.pieces = []

/-- The tokens of a term without holes. -/
def Term.tokens (t : Term Param) : List Token := tokensFrom 0 t.pieces

section

variable {left right : Term Param} {p : Param} {rest : List (Piece Param)}

end

section

variable {t : Term Param} {p : Param} {type : SqlType} {opening closing : String}

end

/-! ## Lists -/

section

variable {t : Term Param} {values : List Param}

end

end FilterSql.Sql
