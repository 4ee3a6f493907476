import FilterSql.Operator

/-!
# Formulas with three truth values

A comparison in SQL is true, false or unknown, and the connectives follow Kleene: a conjunction
is false as soon as one side is, a disjunction true as soon as one side is, and what is decided
by neither side is unknown. A formula is built over atoms of any kind.
-/

set_option autoImplicit false

namespace FilterSql.Sql

/-- A truth value of SQL. -/
inductive Truth
  | no
  | unknown
  | yes
deriving Repr, DecidableEq

namespace Truth

/-- The truth value of a constant. -/
def ofBool : Bool → Truth
  | true => yes
  | false => no

/-- The negation. -/
def not : Truth → Truth
  | no => yes
  | unknown => unknown
  | yes => no

/-- The conjunction. -/
def and : Truth → Truth → Truth
  | no, _ | _, no => no
  | yes, yes => yes
  | _, _ => unknown

/-- The disjunction. -/
def or : Truth → Truth → Truth
  | yes, _ | _, yes => yes
  | no, no => no
  | _, _ => unknown

/-- What a connective makes of two truth values. -/
def join : Connective → Truth → Truth → Truth
  | .and => and
  | .or => or

end Truth

/-- What a connective makes of nothing at all. -/
def neutral : Connective → Bool
  | .and => true
  | .or => false

/-- The neutral constant of a connective may be left out. -/
theorem Truth.join_neutral (k : Connective) (x : Truth) : join k x (ofBool (neutral k)) = x := by
  cases k <;> cases x <;> rfl

/-- Two truth values may change places before the rest. -/
theorem Truth.join_left_comm (k : Connective) (x y z : Truth) :
    join k x (join k y z) = join k y (join k x z) := by
  cases k <;> cases x <;> cases y <;> cases z <;> rfl

/-- A truth value that is negated twice is the same again, the unknown one included. -/
theorem Truth.not_not (x : Truth) : x.not.not = x := by
  cases x <;> rfl

/-- De Morgan's law. -/
theorem Truth.not_and (x y : Truth) : (x.and y).not = x.not.or y.not := by
  cases x <;> cases y <;> rfl

/-- A formula over atoms. -/
inductive Formula (α : Type)
  | constant (truth : Bool)
  | atom (a : α)
  | not (φ : Formula α)
  | join (k : Connective) (left right : Formula α)
deriving Repr, DecidableEq

namespace Formula

variable {α : Type}

/-- The truth value of a formula under an assignment. -/
def eval (v : α → Truth) : Formula α → Truth
  | constant truth => .ofBool truth
  | atom a => v a
  | not φ => (φ.eval v).not
  | join k left right => .join k (left.eval v) (right.eval v)

/-- The formulas of a list under one connective. -/
def joinAll (k : Connective) : List (Formula α) → Formula α
  | [] => constant (neutral k)
  | φ :: rest => join k φ (joinAll k rest)

/-- The order of formulas under a connective does not matter. -/
theorem eval_joinAll_perm (v : α → Truth) (k : Connective) {φs ψs : List (Formula α)}
    (same : φs.Perm ψs) : (joinAll k φs).eval v = (joinAll k ψs).eval v := by
  induction same with
  | nil => rfl
  | cons φ _ ih => rw [joinAll, joinAll, eval, eval, ih]
  | swap φ ψ rest =>
    simp only [joinAll, eval]
    exact Truth.join_left_comm k _ _ _
  | trans _ _ ihFirst ihSecond => exact ihFirst.trans ihSecond

/-- The atoms of a formula, from left to right. -/
def atoms : Formula α → List α
  | constant _ => []
  | atom a => [a]
  | not φ => φ.atoms
  | join _ left right => left.atoms ++ right.atoms

/-- The comparisons of joined formulas are those of each, in their order. -/
theorem atoms_joinAll (k : Connective) (φs : List (Formula α)) :
    (joinAll k φs).atoms = φs.flatMap atoms := by
  induction φs with
  | nil => rfl
  | cons φ rest ih => rw [joinAll, atoms, ih, List.flatMap_cons]

end Formula

end FilterSql.Sql
