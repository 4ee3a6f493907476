import FilterSql.Proofs.Sql.Token
import FilterSql.Proofs.Uuid
import Mathlib.Data.List.DropRight

/-!
# The places of placeholders

A placeholder stands between tokens, and these say what it is for: which type it is cast to, and
which side of which operator it is. What is bound to it fits the place if it has the type that is
asked for there. Behind a row of pieces that ends apart, and before one that begins apart, the
places in a row are those of its parts.
-/

set_option autoImplicit false

namespace FilterSql

namespace Sql

/-! ## Places -/

/-- The place of a placeholder: its digits, and the tokens before and behind it. -/
structure Site where
  before : List Token
  digits : List Char
  after : List Token

/-- The places of the placeholders in a row of tokens that stands between others. -/
def sitesIn (before : List Token) : (row after : List Token) → List Site
  | [], _ => []
  | .placeholder digits :: rest, after =>
    ⟨before, digits, rest ++ after⟩ :: sitesIn (before ++ [.placeholder digits]) rest after
  | t :: rest, after => sitesIn (before ++ [t]) rest after

/-- Whether a token is a placeholder or stands between two placeholders of a list. -/
def Token.isItem : Token → Bool
  | .placeholder _ => true
  | .mark ',' => true
  | _ => false

/-- What stands before the list of placeholders that ends here. -/
def listHead (before : List Token) : List Token := before.rdropWhile Token.isItem

/-- The tokens begin with a cast to a type. -/
def CastTo (type : SqlType) (after : List Token) : Prop :=
  codeTokens "::" ++ codeTokens type.name <+: after

/-- The end of the text of what stands at a path: behind the last key, or behind the column for the
empty path. -/
inductive IsTextEnd : List Token → Prop
  | key (text : List Char) : IsTextEnd (codeTokens "->>" ++ [.literal text])
  | column : IsTextEnd (codeTokens "::text")

/-- The code of a cast of something in parentheses, if there is one. -/
def castCode : Option SqlType → List Token
  | none => []
  | some type => codeTokens ")::" ++ codeTokens type.name

/-- The tokens end in the text of what stands at a path, with the given cast. -/
def EndsInText (ts : List Token) (cast : Option SqlType) : Prop :=
  ∃ text, IsTextEnd text ∧ text ++ castCode cast <:+ ts

/-- The tokens end in a comparison of the text at a path, with the given cast. -/
def ComparesText (before : List Token) (cast : Option SqlType) : Prop :=
  ∃ left c, EndsInText left cast ∧ before = left ++ codeTokens (Comparison.sql c)

end Sql

/-! ## What fits a place -/

namespace Param

/-- A number in any of the three representations. -/
def IsNumber : Param → Prop
  | .signed _ | .unsigned _ | .float _ => True
  | _ => False

/-- A truth value. -/
def IsBool (p : Param) : Prop := ∃ b, p = .bool b

/-- A text. -/
def IsText (p : Param) : Prop := ∃ text, p = .text text

/-- A scalar other than null. -/
def IsScalar (p : Param) : Prop := p.IsNumber ∨ p.IsBool ∨ p.IsText

/-- The text of an identifier in its canonical spelling. -/
def IsUuid (p : Param) : Prop := ∃ text, p = .text text ∧ Uuid.IsCanonical text

/-- A text at a path has the cast that a comparison with the parameter asks for: to a number, to a
truth value, or none. -/
def Matches (p : Param) (cast : Option Sql.SqlType) : Prop :=
  (cast = some .numeric ↔ p.IsNumber) ∧ (cast = some .boolean ↔ p.IsBool) ∧
    (cast = none ↔ p.IsText)

/-- Texts are scalars. -/
theorem IsText.isScalar {p : Param} (h : p.IsText) : p.IsScalar := .inr (.inr h)

/-- Identifiers are texts. -/
theorem IsUuid.isText {p : Param} (h : p.IsUuid) : p.IsText := by
  obtain ⟨text, rfl, -⟩ := h
  exact ⟨text, rfl⟩

/-- A scalar is neither null nor a document nor an array. -/
theorem IsScalar.ne {p : Param} (h : p.IsScalar) :
    p ≠ .null ∧ (∀ text, p ≠ .json text) ∧ ∀ texts, p ≠ .textArray texts := by
  cases p <;> simp_all [IsScalar, IsNumber, IsBool, IsText]

end Param

namespace Sql

/-- A parameter has the type that the cast behind its placeholder asks for. -/
structure FitsCast (after : List Token) (p : Param) : Prop where
  json : CastTo .jsonb after ↔ ∃ text, p = .json text
  array : CastTo .uuidArray after ∨ CastTo .textArray after ↔ ∃ texts, p = .textArray texts
  uuids : CastTo .uuidArray after →
    ∀ texts, p = .textArray texts → ∀ text ∈ texts, Uuid.IsCanonical text
  uuid : CastTo .uuid after → ¬ CastTo .uuidArray after → p.IsUuid

/-- A parameter has the type that is asked for by what stands before its placeholder. -/
structure FitsSide (before : List Token) (p : Param) : Prop where
  element : codeTokens "ARRAY[" <:+ listHead before → p.IsUuid
  pattern : ∀ q : Pattern, codeTokens q.sql <:+ before → p.IsText
  member : codeTokens ") IN (" <:+ listHead before ∨ codeTokens ") NOT IN (" <:+ listHead before →
    p.IsText
  comparison : ∀ cast, ComparesText before cast → p.Matches cast

/-- A parameter fits the place of its placeholder. Null fits nowhere. -/
structure Site.Fits (site : Site) (p : Param) : Prop where
  notNull : p ≠ .null
  cast : FitsCast site.after p
  side : FitsSide site.before p

/-! ## Casts -/

/-- The tokens begin with neither a cast nor a bracket. -/
def Closes (ts : List Token) : Prop := ∀ t, ts.head? = some t → t ≠ .mark ':' ∧ t ≠ .mark '['

/-- The name of a type is a word, and that of an array type has brackets behind it. -/
theorem codeTokens_typeName (type : SqlType) : codeTokens type.name =
    match type with
    | .text => [.word ['t', 'e', 'x', 't']]
    | .boolean => [.word ['b', 'o', 'o', 'l', 'e', 'a', 'n']]
    | .numeric => [.word ['n', 'u', 'm', 'e', 'r', 'i', 'c']]
    | .jsonb => [.word ['j', 's', 'o', 'n', 'b']]
    | .uuid => [.word ['u', 'u', 'i', 'd']]
    | .uuidArray => [.word ['u', 'u', 'i', 'd'], .mark '[', .mark ']']
    | .textArray => [.word ['t', 'e', 'x', 't'], .mark '[', .mark ']'] := by
  cases type <;> rfl

/-- The tokens that comparisons are made of. -/
def Token.isComparison : Token → Bool
  | .mark '=' | .mark '!' | .mark '<' | .mark '>' => true
  | _ => false

/-- The name of a type does not end in the mark of a comparison. -/
theorem typeName_last (type : SqlType) :
    ∃ init t, codeTokens type.name = init ++ [t] ∧ t.isComparison = false := by
  rw [codeTokens_typeName]
  cases type with
  | uuidArray => exact ⟨[_, _], _, rfl, by decide⟩
  | textArray => exact ⟨[_, _], _, rfl, by decide⟩
  | _ => exact ⟨[], _, rfl, by decide⟩

/-- What a text at a path, with or without a cast, ends in. -/
theorem EndsInText.last {ts : List Token} {cast : Option SqlType} (h : EndsInText ts cast) :
    ∃ init t, ts = init ++ [t] ∧ t.isComparison = false := by
  obtain ⟨text, isText, before, rfl⟩ := h
  cases cast with
  | none =>
    cases isText with
    | key text => exact ⟨before ++ codeTokens "->>", .literal text, by simp [castCode], rfl⟩
    | column =>
      refine ⟨before ++ [.mark ':', .mark ':'], .word ['t', 'e', 'x', 't'], ?_, rfl⟩
      rw [castCode, List.append_nil, List.append_assoc]
      rfl
  | some type =>
    obtain ⟨init, t, isLast, other⟩ := typeName_last type
    exact ⟨before ++ (text ++ (codeTokens ")::" ++ init)), t, by simp [castCode, isLast], other⟩

/-- The tokens end neither in a colon nor in a closing parenthesis. -/
def Opens (ts : List Token) : Prop :=
  ∀ t, ts.getLast? = some t → t ≠ .mark ':' ∧ t ≠ .mark ')'

section

variable {ts : List Token} {p : Param}

end

end Sql

end FilterSql
