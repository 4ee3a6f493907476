import FilterSql.Compile.Statement
import FilterSql.Proofs.Compile.Leaf
import FilterSql.Proofs.Compile.Operand

/-!
# Which filters compile

A filter compiles exactly if it is in the grammar (`compile_ok_iff`). For each step of the
compiler there is a condition under which it succeeds, in terms of the steps that it makes in
turn. Along the levels that are left these conditions unfold the grammar: levels left and depth
reached add up to the limit of nesting.
-/

set_option autoImplicit false

namespace FilterSql

namespace Compile

/-! ## Shapes -/

/-- A key is that of an operator exactly if it spells this operator. -/
theorem ofKey?_eq_operator_iff {key : String} {o : Operator} :
    Keyword.ofKey? key = some (.operator o) ↔ key ∈ o.keys := by
  constructor
  · intro h
    unfold Keyword.ofKey? at h
    split at h <;> cases h <;> decide
  · intro mem
    cases o with
    | compare c => cases c <;> (cases List.mem_singleton.1 mem; rfl)
    | pattern p => cases p <;> (cases List.mem_singleton.1 mem; rfl)
    | contains =>
      simp only [Operator.keys, List.mem_cons, List.not_mem_nil, or_false] at mem
      rcases mem with rfl | rfl <;> rfl
    | _ =>
      cases List.mem_singleton.1 mem
      rfl

/-- A value conforms exactly if it has a shape with an operator and an operand that the operator
takes. -/
theorem conforms_iff (label : String) {onList : Operator} {Operand : Operator → Value → Prop}
    {v : Value} :
    Conforms onList Operand v ↔ ∃ spec o operand, Spec.parse label v = .ok spec ∧
      spec.operation? onList = some (o, operand) ∧ Operand o operand := by
  constructor
  · intro h
    cases h with
    | scalar isScalar operand =>
      have notObject := Value.ne_object_of_isScalar isScalar
      refine ⟨.literal v, .compare .eq, v, Spec.parse_literal_iff.2 ⟨rfl, notObject⟩, ?_, operand⟩
      rw [Spec.operation?, if_pos isScalar]
    | list operand => exact ⟨_, onList, _, rfl, rfl, operand⟩
    | operator isKey operand =>
      refine ⟨_, _, _, Spec.parse_operator_iff.2 ⟨_, rfl, ?_⟩, rfl, operand⟩
      exact ofKey?_eq_operator_iff.2 isKey
  · rintro ⟨spec, o, operand, parsed, operation, accepted⟩
    cases spec with
    | literal w =>
      obtain ⟨rfl, notObject⟩ := Spec.parse_literal_iff.1 parsed
      cases v with
      | object entries => exact absurd rfl (notObject entries)
      | list items =>
        cases operation
        exact .list accepted
      | _ =>
        cases operation
        exact .scalar rfl accepted
    | operator o' w =>
      obtain ⟨key, rfl, found⟩ := Spec.parse_operator_iff.1 parsed
      cases operation
      exact .operator (ofKey?_eq_operator_iff.1 found) accepted
    | path entries => cases operation

/-- A builder that is given the operator of a shape succeeds exactly for the values that conform,
if it succeeds exactly for the operands of each operator. -/
theorem shape_succeeds_iff {label : String} {onList : Operator}
    {Operand : Operator → Value → Prop} {build : Operator → Value → Except CompileError Fragment}
    {refusal : CompileError} (each : ∀ o operand, Succeeds (build o operand) ↔ Operand o operand)
    {v : Value} :
    Succeeds (Spec.parse label v >>= fun spec =>
      match spec.operation? onList with
      | some (o, operand) => build o operand
      | none => .error refusal) ↔ Conforms onList Operand v := by
  rw [conforms_iff label]
  constructor
  · rintro ⟨c, h⟩
    obtain ⟨spec, o, operand, parsed, operation, built⟩ := shape_ok h
    exact ⟨spec, o, operand, parsed, operation, (each o operand).1 ⟨c, built⟩⟩
  · rintro ⟨spec, o, operand, parsed, operation, accepted⟩
    refine succeeds_bind_iff.2 ⟨spec, parsed, ?_⟩
    rw [operation]
    exact (each o operand).2 accepted

/-! ## Fields -/

section

variable {config : Config}

/-- The children of a path are accepted exactly if each has a child path and is accepted there. -/
theorem childConditions_succeeds_iff {levels : Nat} {path : List String}
    {entries : List (String × Value)} :
    Succeeds (childConditions config levels path entries) ↔
      ∀ entry ∈ entries, "" ∉ segments entry.1 ∧
        Succeeds (metadataCondition config levels (joinSegments (path ++ segments entry.1))
          (path ++ segments entry.1) entry.2) := by
  induction entries with
  | nil => exact iff_of_true ⟨[], rfl⟩ (List.forall_mem_nil _)
  | cons entry rest ih =>
    obtain ⟨key, v⟩ := entry
    rw [childConditions, List.forall_mem_cons, ← ih]
    have segmented : (segments key).all (· ≠ "") = true ↔ "" ∉ segments key := by
      rw [List.all_eq_true]
      exact ⟨fun all mem => of_decide_eq_true (all "" mem) rfl,
        fun notMem s mem => decide_eq_true fun empty => notMem (empty ▸ mem)⟩
    by_cases nonempty : "" ∉ segments key
    · have child : childPath config.jsonColumn path key = .ok (path ++ segments key) := by
        rw [childPath, if_pos (segmented.2 nonempty)]
      rw [child, and_iff_right nonempty]
      exact succeeds_bind_bind_pure_iff
    · rw [childPath, if_neg (mt segmented.1 nonempty)]
      exact iff_of_false (not_succeeds_error _) fun accepted => nonempty accepted.1.1

/-- A value on a path is accepted exactly if it conforms, or is an object that continues the path
by children that are accepted on one level less. -/
theorem metadataCondition_succeeds_step {levels : Nat} {label : String} {path : List String}
    {v : Value} :
    Succeeds (metadataCondition config levels label path v) ↔
      Conforms .within (MetadataOperand config.metadataIn) v ∨
        ∃ entries rest, v = .object entries ∧ levels = rest + 1 ∧ entries ≠ [] ∧
          (∀ entry ∈ entries, isKeywordKey entry.1 = false) ∧
          Succeeds (childConditions config rest path entries) := by
  constructor
  · rintro ⟨c, h⟩
    rcases metadataCondition_ok h with
      ⟨spec, o, operand, parsed, operation, built⟩ |
      ⟨entries, rest, cs, rfl, parsed, same, built, -⟩
    · left
      have accepted := metadataOperation_succeeds_iff.1 ⟨c, built⟩
      exact (conforms_iff label).2 ⟨spec, o, operand, parsed, operation, accepted⟩
    · right
      obtain ⟨-, nonempty, isField⟩ := Spec.parse_path_iff.1 parsed
      exact ⟨entries, rest, rfl, same, nonempty, isField, cs, built⟩
  · rintro (conforms | ⟨entries, rest, rfl, rfl, nonempty, isField, children⟩)
    · obtain ⟨spec, o, operand, parsed, operation, accepted⟩ := (conforms_iff label).1 conforms
      rw [metadataCondition_of_operation parsed operation]
      exact metadataOperation_succeeds_iff.2 accepted
    · rw [metadataCondition_of_path (Spec.parse_path_iff.2 ⟨rfl, nonempty, isField⟩)]
      exact succeeds_bind_pure_iff.2 children

/-- A value on a path is accepted exactly if it is in the grammar at the depth that leaves as many
levels. -/
theorem metadataCondition_succeeds_iff {levels depth : Nat}
    (total : levels + depth = config.maxDepth) {label : String} {path : List String} {v : Value} :
    Succeeds (metadataCondition config levels label path v) ↔ MetadataGrammar config depth v := by
  induction levels generalizing depth label path v with
  | zero =>
    rw [metadataCondition_succeeds_step]
    constructor
    · rintro (conforms | ⟨_, _, _, same, -⟩)
      · exact .operand conforms
      · cases same
    · intro h
      cases h with
      | operand conforms => exact .inl conforms
      | path within _ _ _ _ => omega
  | succ rest ih =>
    have below : rest + (depth + 1) = config.maxDepth := by omega
    rw [metadataCondition_succeeds_step]
    constructor
    · rintro (conforms | ⟨entries, rest', rfl, same, nonempty, isField, children⟩)
      · exact .operand conforms
      · cases same
        have each := childConditions_succeeds_iff.1 children
        refine .path (by omega) nonempty isField (fun entry mem => (each entry mem).1) ?_
        exact fun entry mem => (ih below).1 (each entry mem).2
    · intro h
      cases h with
      | operand conforms => exact .inl conforms
      | path within nonempty isField segmented children =>
        refine .inr ⟨_, rest, rfl, rfl, nonempty, isField, childConditions_succeeds_iff.2 ?_⟩
        exact fun entry mem => ⟨segmented entry mem, (ih below).2 (children entry mem)⟩

/-- A field is accepted exactly if it is in the grammar. -/
theorem fieldCondition_succeeds_iff {levels depth : Nat} (total : levels + depth = config.maxDepth)
    {key : String} {v : Value} :
    Succeeds (fieldCondition config levels key v) ↔ FieldGrammar config depth key v := by
  unfold fieldCondition FieldGrammar
  cases config.target? key with
  | none => exact iff_of_false (not_succeeds_error _) id
  | some target =>
    cases target with
    | column name => exact shape_succeeds_iff fun _ _ => columnOperation_succeeds_iff
    | collection => exact shape_succeeds_iff fun _ _ => collectionOperation_succeeds_iff
    | parent => exact shape_succeeds_iff fun _ _ => parentOperation_succeeds_iff
    | metadata path => exact metadataCondition_succeeds_iff total

/-! ## Groups -/

/-- Fields are accepted exactly if each of them is. -/
theorem fieldConditions_succeeds_iff {levels : Nat} {entries : List (String × Value)} :
    Succeeds (fieldConditions config levels entries) ↔
      ∀ entry ∈ entries, isKeywordKey entry.1 = false →
        Succeeds (fieldCondition config levels entry.1 entry.2) := by
  induction entries with
  | nil => exact iff_of_true ⟨[], rfl⟩ (List.forall_mem_nil _)
  | cons entry rest ih =>
    obtain ⟨key, v⟩ := entry
    rw [fieldConditions, List.forall_mem_cons, ← ih]
    split
    · rename_i keyword
      simp [keyword]
    · rename_i notKeyword
      rw [succeeds_bind_bind_pure_iff]
      simp [notKeyword]

/-- Groups are accepted exactly if the key of each is that of a connective and its value is
accepted. -/
theorem groupConditions_succeeds_iff {levels : Nat} {entries : List (String × Value)} :
    Succeeds (groupConditions config levels entries) ↔
      ∀ entry ∈ entries, isKeywordKey entry.1 = true →
        ∃ k, Keyword.ofKey? entry.1 = some (.connective k) ∧
          Succeeds (groupCondition config levels k entry.2) := by
  induction entries with
  | nil => exact iff_of_true ⟨[], by rw [groupConditions]⟩ (List.forall_mem_nil _)
  | cons entry rest ih =>
    obtain ⟨key, v⟩ := entry
    rw [groupConditions, List.forall_mem_cons, ← ih]
    split
    · rename_i keyword
      rw [succeeds_bind_iff]
      simp only [succeeds_bind_bind_pure_iff, connectiveOfKey_eq_ok_iff, keyword, true_imp_iff,
        ← and_assoc, exists_and_right]
    · rename_i notKeyword
      simp [notKeyword]

/-- The elements of a group are accepted exactly if each is an object whose entries are. -/
theorem elementConditions_succeeds_iff {levels : Nat} {k : Connective} {items : List Value} :
    Succeeds (elementConditions config levels k items) ↔
      ∀ item ∈ items, ∃ entries, item = .object entries ∧
        Succeeds (groupConditions config levels entries) ∧
        Succeeds (fieldConditions config levels entries) := by
  induction items with
  | nil => exact iff_of_true ⟨[], by rw [elementConditions]⟩ (List.forall_mem_nil _)
  | cons item rest ih =>
    rw [List.forall_mem_cons, ← ih]
    cases item with
    | object entries =>
      rw [elementConditions, succeeds_bind_iff]
      simp only [succeeds_bind_bind_pure_iff, Value.object.injEq, exists_eq_left', exists_and_right,
        and_assoc]
      rfl
    | _ =>
      rw [elementConditions_of_not_object (by simp)]
      exact iff_of_false (not_succeeds_error _) (by simp)

/-- A group is accepted exactly if it is a list whose elements are accepted on one level less. -/
theorem groupCondition_succeeds_iff {levels : Nat} {k : Connective} {v : Value} :
    Succeeds (groupCondition config levels k v) ↔
      ∃ items rest, v = .list items ∧ levels = rest + 1 ∧
        Succeeds (elementConditions config rest k items) := by
  constructor
  · rintro ⟨c, h⟩
    obtain ⟨items, rest, cs, isList, same, elements, -⟩ := groupCondition_ok h
    exact ⟨items, rest, isList, same, cs, elements⟩
  · rintro ⟨items, rest, rfl, rfl, elements⟩
    rw [groupCondition.eq_def]
    exact succeeds_bind_pure_iff.2 elements

/-- The key of a connective is one of two. -/
theorem exists_connective_iff {key : String} :
    (∃ k, Keyword.ofKey? key = some (.connective k)) ↔ key ∈ ["$and", "$or"] := by
  constructor
  · rintro ⟨k, h⟩
    unfold Keyword.ofKey? at h
    split at h <;> cases h <;> decide
  · intro mem
    simp only [List.mem_cons, List.not_mem_nil, or_false] at mem
    rcases mem with rfl | rfl
    · exact ⟨.and, rfl⟩
    · exact ⟨.or, rfl⟩

/-- An entry that is a group is accepted exactly if it is in the grammar, provided that this holds
of entries on one level less. -/
theorem group_succeeds_iff_of_below {levels depth : Nat} (total : levels + depth = config.maxDepth)
    (below : ∀ rest, levels = rest + 1 → ∀ entries : List (String × Value),
      Succeeds (groupConditions config rest entries) ∧
          Succeeds (fieldConditions config rest entries) ↔
        ∀ entry ∈ entries, EntryGrammar config (depth + 1) entry.1 entry.2)
    {key : String} {v : Value} (keyword : isKeywordKey key = true) :
    (∃ k, Keyword.ofKey? key = some (.connective k) ∧
      Succeeds (groupCondition config levels k v)) ↔ EntryGrammar config depth key v := by
  -- The elements have one level less than the group, and of that level `below` speaks.
  constructor
  · rintro ⟨k, isConnective, group⟩
    obtain ⟨items, rest, rfl, same, elements⟩ := groupCondition_succeeds_iff.1 group
    have each := elementConditions_succeeds_iff.1 elements
    refine .group (exists_connective_iff.1 ⟨k, isConnective⟩) (by omega) ?_ ?_
    · intro item mem
      obtain ⟨entries, rfl, -⟩ := each item mem
      rfl
    · intro entries mem
      obtain ⟨_, isObject, accepted⟩ := each _ mem
      cases isObject
      exact (below rest same entries).1 accepted
  · intro h
    cases h with
    | field isField =>
      rw [keyword] at isField
      cases isField
    | group isGroup within objects elements =>
      obtain ⟨k, isConnective⟩ := exists_connective_iff.2 isGroup
      obtain ⟨rest, same⟩ := Nat.exists_eq_succ_of_ne_zero (show levels ≠ 0 by omega)
      refine ⟨k, isConnective, groupCondition_succeeds_iff.2 ⟨_, rest, rfl, same, ?_⟩⟩
      refine elementConditions_succeeds_iff.2 fun item mem => ?_
      obtain ⟨entries, rfl⟩ : ∃ entries, item = .object entries := by
        have isObject := objects item mem
        cases item with
        | object entries => exact ⟨entries, rfl⟩
        | _ => cases isObject
      exact ⟨entries, rfl, (below rest same entries).2 (elements entries mem)⟩

/-- The entries of a filter, or of an element of a group, are accepted exactly if each of them is in
the grammar at the depth that leaves as many levels. -/
theorem entries_succeed_iff {levels depth : Nat} (total : levels + depth = config.maxDepth)
    (entries : List (String × Value)) :
    Succeeds (groupConditions config levels entries) ∧
        Succeeds (fieldConditions config levels entries) ↔
      ∀ entry ∈ entries, EntryGrammar config depth entry.1 entry.2 := by
  induction levels using Nat.strongRecOn generalizing depth entries with
  | ind levels ih =>
    have group := @group_succeeds_iff_of_below config levels depth total fun rest same entries' =>
      ih rest (by omega) (by omega) entries'
    rw [groupConditions_succeeds_iff, fieldConditions_succeeds_iff]
    constructor
    · rintro ⟨groups, fields⟩ ⟨key, v⟩ mem
      cases keyword : isKeywordKey key with
      | false => exact .field keyword ((fieldCondition_succeeds_iff total).1 (fields _ mem keyword))
      | true => exact (group keyword).1 (groups _ mem keyword)
    · intro grammar
      refine ⟨fun entry mem keyword => (group keyword).2 (grammar entry mem), ?_⟩
      rintro ⟨key, v⟩ mem isField
      cases grammar _ mem with
      | field _ field => exact (fieldCondition_succeeds_iff total).2 field
      | group isGroup _ _ _ =>
        obtain ⟨k, isConnective⟩ := exists_connective_iff.2 isGroup
        rw [isKeywordKey_of_ofKey? isConnective] at isField
        cases isField

end

end Compile

open Compile

/-- A filter compiles exactly if all its entries are in the grammar, at depth zero. The given
parameters and the mode have no part in this. -/
theorem compile_ok_iff {compiler : Compiler} {f : Filter} {given : ParamList} {mode : Mode} :
    (∃ s, compiler.compile f given mode = .ok s) ↔
      ∀ entry ∈ f.entries, EntryGrammar compiler.config 0 entry.1 entry.2 := by
  rw [← entries_succeed_iff (Nat.add_zero compiler.config.maxDepth) f.entries]
  have condition : Succeeds (filterCondition compiler.config f) ↔
      Succeeds (groupConditions compiler.config compiler.config.maxDepth f.entries) ∧
        Succeeds (fieldConditions compiler.config compiler.config.maxDepth f.entries) :=
    succeeds_bind_bind_pure_iff
  rw [← condition]
  constructor
  · rintro ⟨s, h⟩
    obtain ⟨c, built, -⟩ := bind_eq_ok_iff.1 h
    exact ⟨c, built⟩
  · rintro ⟨c, built⟩
    refine ⟨_, bind_eq_ok_iff.2 ⟨c, built, rfl⟩⟩

end FilterSql
