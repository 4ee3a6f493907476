import FilterSql.Proofs.Collections
import FilterSql.Proofs.Meaning
import FilterSql.Proofs.Sql.Opposite

/-!
# Negated operators

`$ne` negates `$eq`, and `$nin` negates `$in`. Each class of fields writes the negation in its own
way: another symbol, `NOT` before the whole, a quantifier, a constant for the empty list, or two
tests of a document. All of them are complements (`negated_conditions`): where one of two conditions
compiles the other does, with the same parameters, and one has the negated truth value of the other
in every reading of the atomic comparisons by which the negated spellings negate the plain ones.
-/

set_option autoImplicit false

namespace FilterSql

open Sql

/-- An operator and its negation. -/
inductive Operator.Negates : Operator → Operator → Prop
  | equality : Negates (.compare .ne) (.compare .eq)
  | membership : Negates .without .within

namespace Compile

open Condition

/-! ## Operands -/

section

variable {field : String} {o o' : Operator} {v : Value}

/-- Two operators take the same operands as scalars, and the same scalars. -/
theorem scalarOperand_agree :
    Agree (fun _ _ => True) Eq (scalarOperand field o v) (scalarOperand field o' v) := by
  unfold scalarOperand
  refine agree_ite Iff.rfl (.error trivial) ?_
  cases Param.ofScalar? v with
  | some p => exact .ok rfl
  | none => exact .error trivial

/-- Two operators take the same operands as texts, and the same texts. -/
theorem textOperand_agree :
    Agree (fun _ _ => True) Eq (textOperand field o v) (textOperand field o' v) := by
  unfold textOperand
  cases v.toText? with
  | some text => exact .ok rfl
  | none => exact agree_ite Iff.rfl (.error trivial) (.error trivial)

/-- Two operators take the same operands as lists, and the same lists. -/
theorem listOperand_agree :
    Agree (fun _ _ => True) Eq (listOperand field o v) (listOperand field o' v) := by
  cases v with
  | list items => exact .ok rfl
  | _ => exact .error trivial

/-! ## The builders -/

variable {n : Operator}

/-- On a plain column the negation is another symbol, another keyword or the other constant. -/
theorem columnOperation_opposite {config : Config} {name : String} (negates : n.Negates o) :
    Agree (fun _ _ => True) Opposite (columnOperation config field name o v)
      (columnOperation config field name n v) := by
  cases negates with
  | equality =>
    refine agree_ite Iff.rfl (.ok opposite_isNull) ?_
    refine scalarOperand_agree.bind ?_
    rintro p _ rfl
    exact .ok (opposite_relation trivial)
  | membership =>
    refine listOperand_agree.bind ?_
    rintro items _ rfl
    refine (agree_mapM_eq (fun _ => scalarOperand_agree) items).bind ?_
    rintro ps _ rfl
    cases ps with
    | nil => exact .ok (opposite_constant false)
    | cons p rest => exact .ok (opposite_inList (p :: rest))

/-- An array of identifiers begins with a value, and not with a name. -/
theorem isValue_uuidArray (ids : List Uuid) : (uuidArray ids).IsValue := by
  unfold uuidArray
  split <;> exact trivial

/-- On the collections the negation is another symbol, `NOT` before the whole, or the other
constant. -/
theorem collectionFragment_opposite (negates : n.Negates o) (ids : List Uuid) :
    Opposite (collectionFragment o ids) (collectionFragment n ids) := by
  cases negates with
  | equality => exact opposite_relation (isValue_uuidArray ids)
  | membership =>
    cases ids with
    | nil => exact opposite_constant false
    | cons id rest => exact opposite_not _

/-- An operator on the collections and its negation give opposite conditions, or are both refused.
-/
theorem collectionOperation_opposite (negates : n.Negates o) :
    Agree (fun _ _ => True) Opposite (collectionOperation field o v)
      (collectionOperation field n v) := by
  have same {α : Type} (x : Except CompileError α) : Agree (fun _ _ => True) Eq x x :=
    .of_refl (fun _ => trivial) x
  by_cases isList : ∃ items, v = .list items
  · obtain ⟨items, rfl⟩ := isList
    have takeLists : o ∈ collectionListOperators ∧ n ∈ collectionListOperators := by
      cases negates <;> decide
    rw [collectionOperation_list takeLists.1, collectionOperation_list takeLists.2]
    refine (same _).map ?_
    rintro ids _ rfl
    exact collectionFragment_opposite negates ids
  have notList : ∀ items, v ≠ .list items := fun items same => isList ⟨items, same⟩
  cases negates with
  | membership =>
    cases v with
    | list items => exact absurd rfl (notList items)
    | _ => exact .error trivial
  | equality =>
    by_cases null : v = .null
    · rw [null]
      exact .ok opposite_isNull
    · rw [collectionOperation_single (by decide : (_, Operator.within) ∈ _) null notList,
        collectionOperation_single (by decide : (_, Operator.without) ∈ _) null notList]
      refine (same _).map ?_
      rintro id _ rfl
      exact collectionFragment_opposite .membership [id]

/-- Two operators compare the parent with the same value. -/
theorem parentOperand_agree {o o' : Operator} :
    Agree (fun _ _ => True) (fun t t' => t = t' ∧ t.IsValue) (parentOperand field o v)
      (parentOperand field o' v) := by
  unfold parentOperand
  split
  · exact .ok ⟨rfl, trivial⟩
  · refine scalarOperand_agree.bind ?_
    rintro p _ rfl
    exact .ok ⟨rfl, trivial⟩

/-- Two operators look for the parent in the same array. -/
theorem parentArray_agree {o o' : Operator} {items : List Value} :
    Agree (fun _ _ => True) Eq (parentArray field o items) (parentArray field o' items) := by
  unfold parentArray
  split
  · exact .ok rfl
  · refine (agree_mapM_eq (fun _ => textOperand_agree) items).bind ?_
    rintro texts _ rfl
    exact .ok rfl

/-- On the parent the negation is another symbol, the other quantifier or the other constant. -/
theorem parentOperation_opposite (negates : n.Negates o) :
    Agree (fun _ _ => True) Opposite (parentOperation field o v)
      (parentOperation field n v) := by
  cases negates with
  | equality =>
    refine agree_ite Iff.rfl (.ok opposite_isNull) ?_
    refine parentOperand_agree.bind ?_
    rintro term _ ⟨rfl, isValue⟩
    exact .ok (opposite_relation isValue)
  | membership =>
    refine listOperand_agree.bind ?_
    rintro items _ rfl
    refine agree_ite Iff.rfl (.ok (opposite_constant false)) ?_
    refine parentArray_agree.bind ?_
    rintro array _ rfl
    exact .ok opposite_inArray

/-- The test for the JSON null and its negation are opposite by De Morgan's law. -/
theorem isJsonNull_opposite (accessor : Term Param) :
    Opposite (isJsonNull accessor) (isNotJsonNull accessor) := by
  have isValue : (jsonNull : Term Param).IsValue := trivial
  exact (opposite_isNull.symm.join (opposite_relation isValue)).paren

/-- On a path a membership is negated by its keyword, or by `NOT` before the whole. -/
theorem metadataMembership_opposite {config : Config} {path : List String} {items : List Value} :
    Agree (fun _ _ => True) Opposite (metadataMembership config field path o false items)
      (metadataMembership config field path o' true items) := by
  unfold metadataMembership
  cases config.metadataIn with
  | placeholderList =>
    refine (agree_mapM_eq (fun _ => textOperand_agree) items).bind ?_
    rintro texts _ rfl
    exact .ok (opposite_inList _)
  | jsonArrayElements =>
    refine (Agree.of_refl (fun _ => trivial) (jsonOperand field (.list items))).bind ?_
    rintro p _ rfl
    exact .ok (opposite_not _)

/-- On a path the negation is another symbol, another keyword, the two tests of a document turned
around, or the other constant. -/
theorem metadataOperation_opposite {config : Config} {path : List String}
    (negates : n.Negates o) :
    Agree (fun _ _ => True) Opposite (metadataOperation config path o v)
      (metadataOperation config path n v) := by
  cases negates with
  | equality =>
    refine agree_ite Iff.rfl (.ok (isJsonNull_opposite _)) (agree_ite Iff.rfl ?_ ?_)
    · refine (Agree.of_refl (fun _ => trivial) (jsonOperand _ v)).bind ?_
      rintro p _ rfl
      exact .ok (opposite_relation trivial)
    · refine scalarOperand_agree.bind ?_
      rintro p _ rfl
      exact .ok (opposite_relation trivial)
  | membership =>
    refine listOperand_agree.bind ?_
    rintro items _ rfl
    exact agree_ite Iff.rfl (.ok (opposite_constant false)) metadataMembership_opposite

/-- A leaf and the leaf with the negated operator give opposite conditions, or are both refused. -/
theorem Leaf.fragment_opposite (config : Config) (target : Target) (negates : n.Negates o) :
    Agree (fun _ _ => True) Opposite (Leaf.fragment config ⟨field, target, o, v⟩)
      (Leaf.fragment config ⟨field, target, n, v⟩) := by
  cases target with
  | column name => exact columnOperation_opposite negates
  | collection => exact collectionOperation_opposite negates
  | parent => exact parentOperation_opposite negates
  | metadata path => exact metadataOperation_opposite negates

/-! ## Conditions on a field -/

variable {config : Config} {levels : Nat} {key : String}

/-- The conditions that are written down for an operator and for its negation are opposite on every
field, or both are refused. -/
theorem fieldCondition_opposite (negates : n.Negates o) :
    Agree (fun _ _ => True) Opposite (fieldCondition config levels key (o.condition v))
      (fieldCondition config levels key (n.condition v)) := by
  cases addressed : config.target? key with
  | none =>
    rw [fieldCondition_of_none addressed, fieldCondition_of_none addressed]
    exact .error trivial
  | some target =>
    rw [fieldCondition_condition addressed, fieldCondition_condition addressed]
    exact Leaf.fragment_opposite config target negates

/-- The condition of a filter with one entry; its key may be no field at all. -/
theorem filterCondition_opposite (negates : n.Negates o) :
    Agree (fun _ _ => True) Opposite (filterCondition config (.single key (o.condition v)))
      (filterCondition config (.single key (n.condition v))) := by
  rw [filterCondition, filterCondition, Filter.single, Filter.single]
  by_cases isGroup : isKeywordKey key = true
  · rw [entriesCondition_keyword _ _ isGroup, entriesCondition_keyword _ _ isGroup]
    have same : Agree (fun _ _ => True) Eq (connectiveOfKey key) (connectiveOfKey key) :=
      .of_refl (fun _ => trivial) _
    refine same.bind ?_
    rintro k _ rfl
    -- An object is no group, whatever operator stands in it.
    cases config.maxDepth with
    | zero =>
      rw [groupCondition_zero, groupCondition_zero]
      exact .error trivial
    | succ levels =>
      have notList (o : Operator) : ∀ items, o.condition v ≠ .list items := by
        intro items same
        cases same
      rw [groupCondition_of_not_list (notList o), groupCondition_of_not_list (notList n)]
      exact .error trivial
  · rw [entriesCondition_field _ _ isGroup, entriesCondition_field _ _ isGroup]
    exact fieldCondition_opposite negates

end

end Compile

open Compile

/-- Two texts are read as formulas with opposite truth values, in every reading. -/
def OppositeTexts (text text' : String) : Prop :=
  ∃ φ φ', readText text.toList = some φ ∧ readText text'.toList = some φ' ∧
    ∀ v, ReadsNegations v → φ'.eval v = (φ.eval v).not

/-- The condition of a filter is read back from its text as the formula that it stands for. -/
theorem readText_filterCondition (compiler : Compiler) (f : Filter) :
    Gives (filterCondition compiler.config f) fun c => compiler.config.HasPlainColumns →
      ∀ next, readText (charsFrom next c.pieces) = some (c.formula next) := by
  intro c condition plain
  have isOver := filterCondition_over (plain.isPlainName compiler.valid) condition
  have chained : c.Chained := filterCondition_induction Condition.chained_all
    Condition.chained_group condition fun leaf _ _ built => leaf.fragment_chained built
  exact readText_charsFrom isOver chained

/-- Conditions with an operator and with its negation are opposite: both compile or both are
refused, they bind the same, and the one has the negated truth value of the other. -/
theorem negated_conditions {n o : Operator} (negates : n.Negates o) (key : String) (v : Value) :
    (∀ config levels, Agree (fun _ _ => True) Condition.Opposite
      (fieldCondition config levels key (o.condition v))
      (fieldCondition config levels key (n.condition v))) ∧
    ∀ (compiler : Compiler) (given : ParamList) (mode : Mode),
      Agree (fun _ _ => True)
        (fun s s' => s'.params = s.params ∧
          (mode = .condition → compiler.config.HasPlainColumns → OppositeTexts s.sql s'.sql))
        (compiler.compile (.single key (o.condition v)) given mode)
        (compiler.compile (.single key (n.condition v)) given mode) := by
  refine ⟨fun config levels => fieldCondition_opposite negates, fun compiler given mode => ?_⟩
  have opposite := @filterCondition_opposite o v n compiler.config key negates
  have read := (opposite.and_gives (readText_filterCondition compiler _)).and_gives_right
    (readText_filterCondition compiler _)
  rw [compile_eq, compile_eq]
  refine read.map ?_
  rintro c c' ⟨⟨⟨values, truth⟩, reads⟩, reads'⟩
  constructor
  · have same : holeValues c'.pieces = holeValues c.pieces := values
    cases mode <;>
      simp [statementOf, statementPieces, Filter.single, Filter.isEmpty, holeValues, same]
  · rintro rfl plain
    refine ⟨c.formula given.next, c'.formula given.next, ?_, ?_, fun v reading => ?_⟩
    · rw [statementOf, String.toList_ofList]
      exact reads plain given.next
    · rw [statementOf, String.toList_ofList]
      exact reads' plain given.next
    · exact truth v reading given.next

/-- Equality with null on a path. -/
def nullAge : String :=
  "(metadata->'author'->'age' IS NOT NULL AND metadata->'author'->'age' = 'null'::jsonb)"

/-- Its negation. -/
def notNullAge : String :=
  "(metadata->'author'->'age' IS NULL OR metadata->'author'->'age' != 'null'::jsonb)"

/-- The two tests of a path for null are opposite. -/
theorem nullAge_opposite :
    Operator.Negates (.compare .ne) (.compare .eq) ∧
      Compiler.default.compile (.single "author.age" ((Operator.compare .eq).condition .null))
        ⟨[]⟩ .condition = .ok ⟨nullAge, ⟨[]⟩⟩ ∧
      Compiler.default.compile (.single "author.age" ((Operator.compare .ne).condition .null))
        ⟨[]⟩ .condition = .ok ⟨notNullAge, ⟨[]⟩⟩ ∧
      ∃ φ φ', readText nullAge.toList = some φ ∧ readText notNullAge.toList = some φ' ∧
        φ.eval oddNegations = .no ∧ φ'.eval oddNegations = .yes := by
  have plain : Compiler.default.config.HasPlainColumns := by decide
  have eq : Compiler.default.compile (.single "author.age" ((Operator.compare .eq).condition .null))
      ⟨[]⟩ .condition = .ok ⟨nullAge, ⟨[]⟩⟩ := by
    decide +kernel
  have ne : Compiler.default.compile (.single "author.age" ((Operator.compare .ne).condition .null))
      ⟨[]⟩ .condition = .ok ⟨notNullAge, ⟨[]⟩⟩ := by
    decide +kernel
  have agree := (negated_conditions .equality "author.age" .null).2 Compiler.default ⟨[]⟩ .condition
  rw [eq, ne] at agree
  cases agree with
  | ok related =>
    obtain ⟨φ, φ', reading, reading', opposite⟩ := related.2 rfl plain
    have no : φ.eval oddNegations = .no := by
      have evaluated : (readText nullAge.toList).map (Formula.eval oddNegations) = some .no := by
        decide +kernel
      rw [reading] at evaluated
      exact Option.some.inj evaluated
    refine ⟨.equality, eq, ne, φ, φ', reading, reading', no, ?_⟩
    rw [opposite _ readsNegations_oddNegations, no]
    rfl

end FilterSql
