import FilterSql.Proofs.Negation

/-!
# Lists of parents

A list of parents is bound as one array of texts: the canonical texts of its elements if all of them
are identifiers, and else the texts as they are given. Equality looks at its operand alone, and
binds the canonical text of an identifier, and any other scalar as a parameter of its own type.
`parent_membership` says for which elements of a list the two bind the same text.
-/

set_option autoImplicit false

namespace FilterSql

open Sql

/-- The conditions on the parent whose operand is a list: the bare list, and the two operators of
membership. -/
def parentListConditions (items : List Value) : List Value :=
  [.list items, Operator.within.condition (.list items), Operator.without.condition (.list items)]

/-- Equality binds the text that stands for the element in the array of the list: the element is a
string, and if it spells an identifier, then all elements do, or it is spelled canonically. -/
def BoundAlike (items : List Value) (item : Value) : Prop :=
  item.IsString ∧ ((∀ other ∈ items, other.IsUuid) ∨ ∀ id, item.Denotes id → item = .string id.text)

/-- The text that stands for an element in the array of a list: the canonical one if all elements
are identifiers, and else its own. -/
def StandsFor (items : List Value) (item : Value) (text : String) : Prop :=
  (∀ other ∈ items, other.IsUuid) ∧ (∃ id, item.Denotes id ∧ text = id.text) ∨
    ¬ (∀ other ∈ items, other.IsUuid) ∧ item.toText? = some text

/-- What equality binds for a scalar: the canonical text of an identifier, and what is no identifier
as it is. -/
def EqualityBinds (v : Value) (p : Param) : Prop :=
  (∀ id, v.Denotes id → p = .text id.text) ∧ (¬ v.IsUuid → Param.ofScalar? v = some p)

/-- A value denotes at most one identifier. -/
theorem Value.Denotes.unique {v : Value} {id id' : Uuid} (h : v.Denotes id) (h' : v.Denotes id') :
    id = id' := by
  obtain ⟨text, rfl, spells⟩ := h
  obtain ⟨_, same, spells'⟩ := h'
  cases same
  rw [← Uuid.ofText?_eq_some_iff] at spells spells'
  exact Option.some.inj (spells.symm.trans spells')

/-- The field of the parent addresses the parent, under every configuration. -/
theorem Config.target?_parent (config : Config) :
    config.target? Target.parentField = some .parent := by
  rw [Config.target?, Target.ofField?, if_neg (by decide), if_pos rfl]

namespace Compile

variable {field : String} {o : Operator}

/-! ## What is bound -/

/-- A scalar operand is bound as what it holds. -/
theorem scalarOperand_ok {v : Value} {p : Param} (h : scalarOperand field o v = .ok p) :
    Param.ofScalar? v = some p := by
  unfold scalarOperand at h
  split at h
  · cases h
  · split at h
    · rename_i q isParam
      cases h
      exact isParam
    · cases h

/-- An operand that is bound as text is bound as its own text. -/
theorem textOperand_ok {v : Value} {text : String} (h : textOperand field o v = .ok text) :
    v.toText? = some text := by
  unfold textOperand at h
  split at h
  · rename_i t isText
    cases h
    exact isText
  · split at h <;> cases h

/-- The parent may be compared with every scalar other than null, and one parameter is bound for it.
-/
theorem parentOperand_ok {v : Value} (plain : v.IsPlainScalar) :
    ∃ term p, parentOperand field o v = .ok term ∧ term.values = [p] ∧ EqualityBinds v p := by
  unfold parentOperand
  cases read : uuidOperand field v with
  | ok id =>
    have denotes := uuidOperand_eq_ok_iff.1 read
    refine ⟨_, _, rfl, rfl, fun id' denotes' => ?_, fun notUuid => ?_⟩
    · rw [denotes.unique denotes']
    · exact absurd (isUuid_iff.2 ⟨id, denotes⟩) notUuid
  | error e =>
    have noId : ∀ id, ¬ v.Denotes id := by
      intro id denotes
      rw [uuidOperand_eq_ok_iff.2 denotes] at read
      cases read
    obtain ⟨p, isParam⟩ := @scalarOperand_succeeds_iff field o v |>.2 plain
    refine ⟨.param p, p, ?_, rfl, fun id denotes => absurd denotes (noId id), fun _ => ?_⟩
    · simp only [isParam]
      rfl
    · exact scalarOperand_ok isParam

/-- The parent may be looked for in every list of scalars other than null. One array is bound for
it, with a text for each element. -/
theorem parentArray_ok {items : List Value} (plain : ∀ item ∈ items, item.IsPlainScalar) :
    ∃ term texts, parentArray field o items = .ok term ∧ term.values = [.textArray texts] ∧
      List.Forall₂ (StandsFor items) items texts := by
  unfold parentArray
  cases read : items.mapM (uuidOperand field) with
  | ok ids =>
    have all : ∀ item ∈ items, item.IsUuid := fun item mem =>
      (@uuidOperand_succeeds_iff field item).1 (succeeds_mapM_iff.1 ⟨ids, read⟩ item mem)
    refine ⟨_, _, rfl, rfl, List.forall₂_map_right_iff.2 ?_⟩
    exact (forall₂_denotes ids read).imp fun item id denotes => .inl ⟨all, id, denotes, rfl⟩
  | error e =>
    have notAll : ¬ ∀ item ∈ items, item.IsUuid := by
      intro all
      obtain ⟨ids, read'⟩ := succeeds_mapM_iff.2 fun item mem =>
        (@uuidOperand_succeeds_iff field item).2 (all item mem)
      rw [read'] at read
      cases read
    obtain ⟨texts, given⟩ := succeeds_mapM_iff.2 fun item mem =>
      (@textOperand_succeeds_iff field o item).2 (plain item mem)
    refine ⟨.cast (.param (.textArray texts)) .textArray, texts, ?_, rfl, ?_⟩
    · simp only [given]
      rfl
    · exact (gives_mapM_forall₂ _ _ texts given).imp fun item text isText =>
        .inr ⟨notAll, textOperand_ok isText⟩

/-- Where both are bound, equality and membership bind the same text exactly for the elements that
are bound alike. -/
theorem eq_text_iff_boundAlike {items : List Value} {item : Value} {p : Param} {text : String}
    (equality : EqualityBinds item p) (membership : StandsFor items item text) :
    p = .text text ↔ BoundAlike items item := by
  obtain ⟨onId, onOther⟩ := equality
  rcases membership with ⟨all, id, denotes, rfl⟩ | ⟨notAll, given⟩
  · have isString : item.IsString := denotes.imp fun _ spelled => spelled.1
    exact ⟨fun _ => ⟨isString, .inl all⟩, fun _ => onId id denotes⟩
  -- Where the list holds something else than identifiers, its texts are those that were given, so
  -- equality agrees with it on canonical spellings only.
  · cases item with
    | string spelling =>
      obtain rfl : spelling = text := Option.some.inj given
      by_cases isUuid : (Value.string spelling).IsUuid
      · obtain ⟨id, denotes⟩ := isUuid_iff.1 isUuid
        rw [onId id denotes]
        constructor
        · intro same
          refine ⟨⟨spelling, rfl⟩, .inr fun id' denotes' => ?_⟩
          rw [← denotes.unique denotes', Param.text.inj same]
        · rintro ⟨-, all | canonical⟩
          · exact absurd all notAll
          · rw [Value.string.inj (canonical id denotes)]
      · obtain rfl := Option.some.inj (onOther isUuid)
        refine ⟨fun _ => ⟨⟨spelling, rfl⟩, .inr fun id denotes => ?_⟩, fun _ => rfl⟩
        exact absurd (isUuid_iff.2 ⟨id, denotes⟩) isUuid
    | list items => cases given
    | object entries => cases given
    | null => cases given
    | _ =>
      have bound := Option.some.inj (onOther nofun)
      rw [← bound]
      exact ⟨nofun, nofun⟩

/-! ## The conditions -/

variable {config : Config} {levels : Nat}

/-- A bare list asks whether the parent is in it. -/
theorem fieldCondition_parent_list (items : List Value) :
    fieldCondition config levels Target.parentField (.list items) =
      parentOperation Target.parentField .within (.list items) := by
  rw [fieldCondition, config.target?_parent]
  rfl

/-- The condition that is written down for an operator applies this operator to the parent. -/
theorem fieldCondition_parent (o : Operator) (v : Value) :
    fieldCondition config levels Target.parentField (o.condition v) =
      parentOperation Target.parentField o v :=
  fieldCondition_condition config.target?_parent o v

/-- Equality with a scalar other than null compiles, and binds one parameter. -/
theorem parentEquality_ok {v : Value} (plain : v.IsPlainScalar) :
    ∃ c p, fieldCondition config levels Target.parentField ((Operator.compare .eq).condition v) =
        .ok c ∧ c.values = [p] ∧ EqualityBinds v p := by
  obtain ⟨term, p, operand, values, bound⟩ :=
    @parentOperand_ok Target.parentField (.compare .eq) v plain
  have notNull : ¬ v.isNull = true := mt isNull_iff.1 plain.2
  refine ⟨.test (.relation parentTerm (.compare .eq) term), p, ?_, ?_, bound⟩
  · rw [fieldCondition_parent, parentOperation, if_neg notNull, operand]
    rfl
  · rw [Condition.values_test, Test.values_relation, values]
    rfl

/-- Membership in a list of scalars other than null compiles in all three forms, and all bind the
same array. -/
theorem parentMembership_ok {items : List Value} (nonempty : items ≠ [])
    (plain : ∀ item ∈ items, item.IsPlainScalar) :
    ∃ texts, (∀ w ∈ parentListConditions items, ∃ c,
        fieldCondition config levels Target.parentField w = .ok c ∧
          c.values = [.textArray texts]) ∧
      List.Forall₂ (StandsFor items) items texts := by
  obtain ⟨array, texts, isArray, values, bound⟩ :=
    @parentArray_ok Target.parentField .within items plain
  have within : parentOperation Target.parentField .within (.list items) =
      .ok (.test (.inArray parentTerm array)) := by
    have notEmpty : ¬ items.isEmpty = true := by simpa using nonempty
    change (if items.isEmpty = true then _ else _) = _
    rw [if_neg notEmpty, isArray]
    rfl
  have boundWithin : (Condition.test (.inArray parentTerm array)).values = [.textArray texts] := by
    rw [Condition.values_test, Test.values_inArray, values]
    rfl
  refine ⟨texts, ?_, bound⟩
  -- The negation binds the same, so it is enough to know what `$in` binds.
  have opposite := @parentOperation_opposite Target.parentField _ (.list items) _ .membership
  rw [within] at opposite
  simp only [parentListConditions, List.forall_mem_cons, fieldCondition_parent_list,
    fieldCondition_parent]
  refine ⟨⟨_, within, boundWithin⟩, ⟨_, within, boundWithin⟩, ?_, List.forall_mem_nil _⟩
  cases without : parentOperation Target.parentField .without (.list items) with
  | error e =>
    rw [without] at opposite
    cases opposite
  | ok c =>
    rw [without] at opposite
    cases opposite with
    | ok related => exact ⟨c, rfl, related.1.trans boundWithin⟩

end Compile

open Compile

/-- A list of scalars is bound as one array with a text for each of them, by `$in`, by `$nin` and by
the bare list. The text that equality binds for an element is the one in the array exactly if the
element is a string, and, where it spells an identifier, either all elements do or it is spelled
canonically. -/
theorem parent_membership {items : List Value} (nonempty : items ≠ [])
    (plain : ∀ item ∈ items, item.IsPlainScalar) (compiler : Compiler) (given : ParamList)
    (mode : Mode) :
    ∃ texts, (∀ w ∈ parentListConditions items, ∃ s,
        compiler.compile (.single Target.parentField w) given mode = .ok s ∧
          s.params.items = given.items ++ [.textArray texts]) ∧
      List.Forall₂ (fun item text => ∃ s p,
        compiler.compile (.single Target.parentField ((Operator.compare .eq).condition item)) given
          mode = .ok s ∧
        s.params.items = given.items ++ [p] ∧ (p = .text text ↔ BoundAlike items item))
        items texts := by
  have isField : isKeywordKey Target.parentField = false := by decide
  obtain ⟨texts, conditions, bound⟩ :=
    @parentMembership_ok compiler.config compiler.config.maxDepth items nonempty plain
  refine ⟨texts, fun w mem => ?_, ?_⟩
  · obtain ⟨c, condition, values⟩ := conditions w mem
    rw [← values]
    exact compile_single_ok isField condition
  · refine ((List.forall₂_and_left _ _).2 ⟨plain, bound⟩).imp ?_
    rintro item text ⟨isPlain, standsFor⟩
    obtain ⟨c, p, condition, values, binds⟩ :=
      @parentEquality_ok compiler.config compiler.config.maxDepth item isPlain
    obtain ⟨s, compiled, params⟩ := compile_single_ok isField condition
    rw [values] at params
    exact ⟨s, p, compiled, params, eq_text_iff_boundAlike binds standsFor⟩

/-- An identifier in capitals, a name that is no identifier, and a number. -/
def mixedParents : List Value :=
  [.string "550E8400-E29B-41D4-A716-446655440000", .string "legacy-7", .signed 5]

/-- The list of the three parents, behind one parameter: equality binds the same text for the name
only. -/
theorem mixedParents_membership :
    mixedParents ≠ [] ∧ (∀ item ∈ mixedParents, item.IsPlainScalar) ∧
      ∃ texts, (∀ w ∈ parentListConditions mixedParents, ∃ s,
          Compiler.default.compile (.single Target.parentField w) ⟨[.null]⟩ .condition = .ok s ∧
            s.params.items = [.null] ++ [.textArray texts]) ∧
        List.Forall₂ (fun item text => ∃ s p,
          Compiler.default.compile
            (.single Target.parentField ((Operator.compare .eq).condition item)) ⟨[.null]⟩
            .condition = .ok s ∧
          s.params.items = [.null] ++ [p] ∧ (p = .text text ↔ BoundAlike mixedParents item))
          mixedParents texts := by
  have nonempty : mixedParents ≠ [] := List.cons_ne_nil _ _
  have plain : ∀ item ∈ mixedParents, item.IsPlainScalar := by
    simp [mixedParents, Value.IsPlainScalar, Value.isScalar, Value.kind]
  exact ⟨nonempty, plain, parent_membership nonempty plain Compiler.default ⟨[.null]⟩ .condition⟩

/-- Equality binds a number as a number, and an identifier by its canonical text; in a list with a
name the same elements are bound by the texts that are given. -/
theorem mixedParents_bound :
    Compiler.default.compile
        (.single Target.parentField ((Operator.compare .eq).condition (.signed 5))) ⟨[]⟩
        .condition = .ok ⟨"parent_id = $1", ⟨[.signed 5]⟩⟩ ∧
      Compiler.default.compile
        (.single Target.parentField (Operator.within.condition (.list [.signed 5]))) ⟨[]⟩
        .condition = .ok ⟨"parent_id = ANY($1::text[])", ⟨[.textArray ["5"]]⟩⟩ ∧
      Compiler.default.compile
        (.single Target.parentField ((Operator.compare .eq).condition
          (.string "550E8400-E29B-41D4-A716-446655440000"))) ⟨[]⟩ .condition =
        .ok ⟨"parent_id = $1::uuid", ⟨[.text "550e8400-e29b-41d4-a716-446655440000"]⟩⟩ ∧
      Compiler.default.compile
        (.single Target.parentField (Operator.within.condition (.list mixedParents))) ⟨[]⟩
        .condition = .ok ⟨"parent_id = ANY($1::text[])",
          ⟨[.textArray ["550E8400-E29B-41D4-A716-446655440000", "legacy-7", "5"]]⟩⟩ := by
  decide +kernel

end FilterSql
