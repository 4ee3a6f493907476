import FilterSql.Proofs.Sql.Form
import Mathlib.Data.List.Forall2

/-!
# Conditions that differ in their holes

Two rows of pieces are alike if they have the same code and the same quoted texts in the same
places, and what their holes hold is related. Their texts are then the same, and they have as many
holes.
-/

set_option autoImplicit false

namespace FilterSql.Sql

variable {α β : Type} {P : α → β → Prop}

/-- Pieces with the same text, and holes with related values. -/
inductive Piece.Alike (P : α → β → Prop) : Piece α → Piece β → Prop
  | code (text : String) : Alike P (.code text) (.code text)
  | quoted (text : String) : Alike P (.quoted text) (.quoted text)
  | hole {a : α} {b : β} (related : P a b) : Alike P (.hole a) (.hole b)

/-- Rows of pieces that are alike piece by piece. -/
def PiecesAlike (P : α → β → Prop) : List (Piece α) → List (Piece β) → Prop :=
  List.Forall₂ (Piece.Alike P)

/-- Conditions that are written as alike rows. -/
def Condition.Alike (P : α → β → Prop) (c : Condition α) (c' : Condition β) : Prop :=
  PiecesAlike P c.pieces c'.pieces

/-- Numbers in holes do not depend on what the holes hold. -/
theorem PiecesAlike.charsFrom_eq {ps : List (Piece α)} {qs : List (Piece β)}
    (h : PiecesAlike P ps qs) (next : Nat) : charsFrom next ps = charsFrom next qs := by
  induction h generalizing next with
  | nil => rfl
  | cons first _ ih => cases first <;> simp only [charsFrom, ih]

/-- Rows that are alike have related values in their holes, one by one. -/
theorem PiecesAlike.holeValues {ps : List (Piece α)} {qs : List (Piece β)}
    (h : PiecesAlike P ps qs) : List.Forall₂ P (holeValues ps) (holeValues qs) := by
  induction h with
  | nil => exact .nil
  | cons first _ ih =>
    cases first with
    | code text => exact ih
    | quoted text => exact ih
    | hole related => exact .cons related ih

/-- Rows that are alike may be put behind one another. -/
theorem PiecesAlike.append {ps ps' : List (Piece α)} {qs qs' : List (Piece β)}
    (h : PiecesAlike P ps qs) (h' : PiecesAlike P ps' qs') :
    PiecesAlike P (ps ++ ps') (qs ++ qs') :=
  List.rel_append h h'

/-- The same code may be put before rows that are alike. -/
theorem PiecesAlike.code {ps : List (Piece α)} {qs : List (Piece β)} (text : String)
    (h : PiecesAlike P ps qs) : PiecesAlike P (.code text :: ps) (.code text :: qs) :=
  .cons (.code text) h

/-- Code around a row. -/
theorem PiecesAlike.between {ps : List (Piece α)} {qs : List (Piece β)} (h : PiecesAlike P ps qs)
    (before after : String) :
    PiecesAlike P (.code before :: ps ++ [.code after]) (.code before :: qs ++ [.code after]) :=
  (h.append (.code after .nil)).code before

/-- Holes for related values are alike. -/
theorem piecesAlike_holes {values : List α} {values' : List β} (h : List.Forall₂ P values values') :
    PiecesAlike P (holes values) (holes values') := by
  induction h with
  | nil => exact .nil
  | cons first rest ih =>
    cases rest with
    | nil => exact .cons (.hole first) .nil
    | cons second others => exact .cons (.hole first) (ih.code ", ")

/-! ## Conjunctions and groups -/

/-- Groups of conditions that are alike are alike. -/
theorem Condition.alike_group (k : Connective) {cs : List (Condition α)} {cs' : List (Condition β)}
    (h : List.Forall₂ (Condition.Alike P) cs cs') : (group k cs).Alike P (group k cs') := by
  induction h with
  | nil => cases k <;> exact .code _ .nil
  | cons first rest ih =>
    cases rest with
    | nil => exact PiecesAlike.between first "(" ")"
    | cons second others =>
      exact (PiecesAlike.between first "(" ")").append (PiecesAlike.code (connectiveCode k) ih)

/-- Conjunctions of conditions that are alike are alike. -/
theorem Condition.alike_all {cs : List (Condition α)} {cs' : List (Condition β)}
    (h : List.Forall₂ (Condition.Alike P) cs cs') : (all cs).Alike P (all cs') := by
  cases h with
  | nil => exact .code _ .nil
  | cons first rest =>
    cases rest with
    | nil => exact first
    | cons second others => exact alike_group .and (.cons first (.cons second others))

/-! ## Terms and tests -/

/-- Terms that are written as alike rows. -/
def Term.Alike (P : α → β → Prop) (t : Term α) (t' : Term β) : Prop :=
  PiecesAlike P t.pieces t'.pieces

/-- Parameters that are related are alike as terms. -/
theorem Term.alike_param {a : α} {b : β} (h : P a b) : (Term.param a).Alike P (.param b) :=
  .cons (.hole h) .nil

/-- Arrays of related values are alike. -/
theorem Term.alike_array {values : List α} {values' : List β} (h : List.Forall₂ P values values') :
    (Term.array values).Alike P (.array values') :=
  (piecesAlike_holes h).between "ARRAY[" "]"

/-- Terms that are alike are alike under the same cast. -/
theorem Term.Alike.cast {t : Term α} {t' : Term β} (h : t.Alike P t') (type : SqlType) :
    (Term.cast t type).Alike P (.cast t' type) :=
  h.append (.code _ (.code _ .nil))

section

variable {t right : Term α} {t' right' : Term β} (left : t.Alike P t')

include left

/-- A relation between terms that are alike is alike. -/
theorem alike_relation (r : Relation) (h : right.Alike P right') :
    (Condition.test (.relation t r right)).Alike P (.test (.relation t' r right')) :=
  left.append (.code _ (.code _ (.code _ h)))

/-- The membership of terms that are alike in lists of related values is alike. -/
theorem alike_inList {values : List α} {values' : List β} (h : List.Forall₂ P values values') :
    (Condition.test (.inList t values)).Alike P (.test (.inList t' values')) :=
  PiecesAlike.append (left.append (.code _ (piecesAlike_holes h))) (.code _ .nil)

/-- And so is the negated membership in lists. -/
theorem alike_notInList {values : List α} {values' : List β} (h : List.Forall₂ P values values') :
    (Condition.test (.notInList t values)).Alike P (.test (.notInList t' values')) :=
  PiecesAlike.append (left.append (.code _ (piecesAlike_holes h))) (.code _ .nil)

/-- The membership of terms that are alike in arrays that are alike is alike. -/
theorem alike_inArray (h : right.Alike P right') :
    (Condition.test (.inArray t right)).Alike P (.test (.inArray t' right')) :=
  PiecesAlike.append (left.append (.code _ h)) (.code _ .nil)

/-- And so is the negated membership in arrays. -/
theorem alike_notInArray (h : right.Alike P right') :
    (Condition.test (.notInArray t right)).Alike P (.test (.notInArray t' right')) :=
  PiecesAlike.append (left.append (.code _ h)) (.code _ .nil)

/-- The membership of terms that are alike in documents that are alike is alike. -/
theorem alike_inDocument (h : right.Alike P right') :
    (Condition.test (.inDocument t right)).Alike P (.test (.inDocument t' right')) :=
  PiecesAlike.append (left.append (.code _ h)) (.code _ .nil)

end

/-- Negations of conditions that are alike are alike. -/
theorem Condition.Alike.not {c : Condition α} {c' : Condition β} (h : c.Alike P c') :
    (Condition.not c).Alike P (.not c') :=
  PiecesAlike.between h "NOT (" ")"

/-- A row is like itself if values are related to themselves. -/
theorem piecesAlike_refl {P : α → α → Prop} (refl : ∀ a, P a a) (ps : List (Piece α)) :
    PiecesAlike P ps ps := by
  induction ps with
  | nil => exact .nil
  | cons piece rest ih =>
    cases piece with
    | code text => exact ih.code text
    | quoted text => exact .cons (.quoted text) ih
    | hole value => exact .cons (.hole (refl value)) ih

end FilterSql.Sql
