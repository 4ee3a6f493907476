import FilterSql.Proofs.Agreement
import FilterSql.Proofs.SingleField
import FilterSql.Proofs.Uuid

/-!
# Conditions on the collections

The collections are compared with identifiers and with nothing else. Every parameter of a condition
is the canonical text of one of them, however they are spelled; a bare list asks for the same as two
operators with the list; one identifier asks for the same as a list of it; and a list is refused for
the first of its elements that is no identifier. `CollectionLaws` says all this of single
conditions, and `collection_laws` proves it.
-/

set_option autoImplicit false

namespace FilterSql

open Sql

/-- A value is the text of an identifier, in one of its spellings. -/
def Value.Denotes (v : Value) (id : Uuid) : Prop :=
  ∃ text : String, v = .string text ∧ id.Spells text.toList

/-- What refusals call a value that is no identifier: its text, or the name of its kind. -/
def Value.shown (v : Value) : String := v.toText?.getD v.kind.name

/-- The operand of a condition: a bare value, or what stands behind the key of an operator. -/
def Value.operand : Value → Value
  | .object [(_, v)] => v
  | v => v

/-- A value that is no object is an operand as it stands. -/
theorem Value.operand_of_bare {v : Value} (bare : ∀ entries, v ≠ .object entries) :
    v.operand = v := by
  cases v with
  | object entries => exact absurd rfl (bare entries)
  | _ => rfl

/-- The elements of an operand: those of a list, none for null, and else the operand itself. -/
def Value.elements : Value → List Value
  | .list items => items
  | .null => []
  | v => [v]

/-- A value other than null and a list is the one element that it names. -/
theorem Value.elements_of_single {v : Value} (notNull : v ≠ .null)
    (notList : ∀ items, v ≠ .list items) : v.elements = [v] := by
  cases v with
  | null => exact absurd rfl notNull
  | list items => exact absurd rfl (notList items)
  | _ => rfl

/-- Identifiers are spelled in another way: texts themselves, in lists, or behind operators. -/
inductive Respelled : Value → Value → Prop
  | same (v : Value) : Respelled v v
  | uuid {text text' : String} {id : Uuid} (spells : id.Spells text.toList)
    (spells' : id.Spells text'.toList) : Respelled (.string text) (.string text')
  | list {items items' : List Value} (each : List.Forall₂ Respelled items items') :
    Respelled (.list items) (.list items')
  | operand (key : String) {v v' : Value} (h : Respelled v v') :
    Respelled (.object [(key, v)]) (.object [(key, v')])

/-- A parameter is the canonical text of the identifier that a value denotes. -/
def BindsUuid (v : Value) (p : Param) : Prop :=
  ∃ (id : Uuid) (text : String), v.Denotes id ∧ p = .text text ∧ Uuid.IsCanonical text ∧
    text.length = 36 ∧ Uuid.ofText? text = some id ∧ id.text = text

/-- The operators that take lists of identifiers. -/
def collectionListOperators : List Operator :=
  [.compare .eq, .compare .ne, .within, .without, .overlap, .contains]

/-- The conditions whose operand is a given list: the bare list, and each operator that takes
lists, in every spelling of its key. -/
def listConditions (items : List Value) : List Value :=
  .list items :: collectionListOperators.flatMap fun o =>
    o.keys.map fun key => .object [(key, .list items)]

/-- The laws of conditions on the collections, for any way of compiling a condition: `compile` gives
the result for a value, and `Binds` says which parameters stand in a result. -/
structure CollectionLaws {α : Type} (key : String) (compile : Value → Except CompileError α)
    (Binds : α → List Param → Prop) : Prop where
  /-- One canonical text is bound for each element of the operand, in their order. -/
  canonical : ∀ v a, compile v = .ok a →
    ∃ ps, Binds a ps ∧ List.Forall₂ BindsUuid v.operand.elements ps
  /-- How identifiers are spelled does not matter. -/
  respelled : ∀ v w, Respelled v w → compile v = compile w
  /-- A bare list asks for membership, and for an overlap. -/
  list : ∀ items, compile (Operator.within.condition (.list items)) = compile (.list items) ∧
    compile (Operator.overlap.condition (.list items)) = compile (.list items)
  /-- A scalar asks for the same as the list of it. -/
  single : ∀ u : Value, u.isScalar = true → u ≠ .null →
    compile (Operator.within.condition (.list [u])) =
        compile ((Operator.compare .eq).condition u) ∧
      compile (Operator.overlap.condition (.list [u])) =
        compile ((Operator.compare .eq).condition u) ∧
      compile (Operator.without.condition (.list [u])) =
        compile ((Operator.compare .ne).condition u) ∧
      compile (Operator.contains.condition (.list [u])) = compile (Operator.contains.condition u)
  /-- A list is refused for the first of its elements that is no identifier. -/
  refused : ∀ before x after, (∀ y ∈ before, y.IsUuid) → ¬ x.IsUuid →
    ∀ w ∈ listConditions (before ++ x :: after), compile w = .error (.invalidUuid key x.shown)

namespace Compile

/-! ## Identifiers -/

section

variable {field : String}

/-- An operand is read as an identifier exactly if it denotes that identifier. -/
theorem uuidOperand_eq_ok_iff {v : Value} {id : Uuid} :
    uuidOperand field v = .ok id ↔ v.Denotes id := by
  constructor
  · intro h
    unfold uuidOperand at h
    split at h
    · rename_i text
      split at h
      · rename_i id' read
        cases h
        exact ⟨text, rfl, Uuid.ofText?_eq_some_iff.1 read⟩
      · cases h
    · cases h
  · rintro ⟨text, rfl, spells⟩
    simp only [uuidOperand, Uuid.ofText?_eq_some_iff.2 spells]

/-- A value is an identifier exactly if it denotes one. -/
theorem isUuid_iff {v : Value} : v.IsUuid ↔ ∃ id, v.Denotes id := by
  constructor
  · rintro ⟨text, id, rfl, read⟩
    exact ⟨id, text, rfl, Uuid.ofText?_eq_some_iff.1 read⟩
  · rintro ⟨id, text, rfl, spells⟩
    exact ⟨text, id, rfl, Uuid.ofText?_eq_some_iff.2 spells⟩

/-- An operand that denotes no identifier is refused, and shown in the refusal. -/
theorem uuidOperand_eq_error {v : Value} (h : ¬ v.IsUuid) :
    uuidOperand field v = .error (.invalidUuid field v.shown) := by
  unfold uuidOperand
  split
  · rename_i text
    split
    · rename_i id read
      exact absurd ⟨text, id, rfl, read⟩ h
    · rfl
  · rfl

/-- What a value denotes is bound as its canonical text. -/
theorem bindsUuid_text {v : Value} {id : Uuid} (h : v.Denotes id) : BindsUuid v (.text id.text) :=
  ⟨id, id.text, h, rfl, id.isCanonical_text, id.length_text, id.ofText?_text, rfl⟩

/-- The elements of a list that is read denote the identifiers, one by one. -/
theorem forall₂_denotes {items : List Value} :
    Gives (items.mapM (uuidOperand field)) (List.Forall₂ Value.Denotes items) := by
  intro ids h
  exact (gives_mapM_forall₂ _ _ ids h).imp fun _ _ => uuidOperand_eq_ok_iff.1

/-! ## The builder for the collections -/

/-- An array binds the canonical texts of its identifiers, in their order. -/
theorem values_uuidArray (ids : List Uuid) :
    (uuidArray ids).values = ids.map fun id => .text id.text := by
  unfold uuidArray
  cases ids with
  | nil => simp
  | cons id rest => simp

/-- What a relation of the collections to identifiers binds. -/
theorem values_relation_uuidArray (r : Relation) (ids : List Uuid) :
    (Condition.test (.relation collectionTerm r (uuidArray ids))).values =
      ids.map fun id => .text id.text := by
  rw [Condition.values_test, Test.values_relation, values_uuidArray, collectionTerm,
    Term.values_column, List.nil_append]

/-- Elements that denote identifiers bind the canonical texts of these, one by one. -/
theorem forall₂_bindsUuid {items : List Value} {ids : List Uuid}
    (h : List.Forall₂ Value.Denotes items ids) :
    List.Forall₂ BindsUuid items (ids.map fun id => .text id.text) :=
  List.forall₂_map_right_iff.2 (h.imp fun _ _ => bindsUuid_text)

/-- What an operator asks of the collections for a list of identifiers. -/
def collectionFragment : Operator → List Uuid → Fragment
  | .compare c, ids => .test (.relation collectionTerm (.compare c) (uuidArray ids))
  | .without, ids => if ids.isEmpty then .constant true else .not (overlapTest ids)
  | .contains, ids =>
    if ids.isEmpty then .constant true
    else .test (.relation collectionTerm .includes (uuidArray ids))
  | _, ids => if ids.isEmpty then .constant false else overlapTest ids

/-- The operators that take a single identifier, each with the operator that asks the same of a list
of it. -/
def singleOperators : List (Operator × Operator) :=
  [(.compare .eq, .within), (.compare .ne, .without), (.contains, .contains)]

/-- A condition on the collections binds the canonical texts of its identifiers, in their order. -/
theorem values_collectionFragment (o : Operator) (ids : List Uuid) :
    (collectionFragment o ids).values = ids.map fun id => .text id.text := by
  have orConstant {c : Fragment} (truth : Bool)
      (binds : c.values = ids.map fun id => .text id.text) :
      (if ids.isEmpty then .constant truth else c).values = ids.map fun id => .text id.text := by
    cases ids with
    | nil => exact Condition.values_constant truth
    | cons id rest => exact binds
  have relation (r : Relation) := values_relation_uuidArray r ids
  cases o with
  | compare c => exact relation (.compare c)
  | without => exact orConstant true ((Condition.values_not _).trans (relation .overlaps))
  | contains => exact orConstant true (relation .includes)
  | pattern p => exact orConstant false (relation .overlaps)
  | within => exact orConstant false (relation .overlaps)
  | overlap => exact orConstant false (relation .overlaps)

/-- An operator that takes lists reads all elements as identifiers, and builds its condition on
them. -/
theorem collectionOperation_list {o : Operator} (takesList : o ∈ collectionListOperators)
    (items : List Value) :
    collectionOperation field o (.list items) =
      (items.mapM (uuidOperand field)).map (collectionFragment o) := by
  simp only [collectionListOperators, List.mem_cons, List.not_mem_nil, or_false] at takesList
  rcases takesList with rfl | rfl | rfl | rfl | rfl | rfl <;>
    change (items.mapM (uuidOperand field) >>= _) = _ <;>
    cases items.mapM (uuidOperand field) <;> rfl

/-- Every other operator refuses a list, whatever its elements are. -/
theorem collectionOperation_list_refused {o : Operator} (refuses : o ∉ collectionListOperators)
    (items : List Value) :
    collectionOperation field o (.list items) =
      .error (.unsupportedOperator field o .arrayMembership) := by
  cases o with
  | compare c =>
    cases c with
    | eq | ne => exact absurd (by decide) refuses
    | _ => rfl
  | pattern p => rfl
  | _ => exact absurd (by decide) refuses

/-- An operator that takes a single identifier treats it like the list that holds just this one,
under the operator that is meant for lists. -/
theorem collectionOperation_single {o onList : Operator} (mem : (o, onList) ∈ singleOperators)
    {v : Value} (notNull : v ≠ .null) (notList : ∀ items, v ≠ .list items) :
    collectionOperation field o v =
      (uuidOperand field v).map fun id => collectionFragment onList [id] := by
  simp only [singleOperators, List.mem_cons, List.not_mem_nil, or_false, Prod.mk.injEq] at mem
  rcases mem with ⟨rfl, rfl⟩ | ⟨rfl, rfl⟩ | ⟨rfl, rfl⟩ <;> cases v
  case inl.null | inr.inl.null | inr.inr.null => exact absurd rfl notNull
  case inl.list | inr.inl.list | inr.inr.list => exact absurd rfl (notList _)
  all_goals
    change (uuidOperand field _ >>= _) = _
    cases uuidOperand field _ <;> rfl

/-- Every other operator refuses a single value: for want of a list if it takes lists, and else
because it is not supported. -/
theorem collectionOperation_single_refused {o : Operator}
    (refuses : ¬ ∃ onList, (o, onList) ∈ singleOperators) {v : Value} (notNull : v ≠ .null)
    (notList : ∀ items, v ≠ .list items) :
    collectionOperation field o v =
      .error (if o ∈ collectionListOperators then .invalidOperand field o (.notList v.kind)
        else .unsupportedOperator field o .arrayMembership) := by
  cases o with
  | compare c =>
    cases c with
    | eq => exact absurd ⟨.within, by decide⟩ refuses
    | ne => exact absurd ⟨.without, by decide⟩ refuses
    | _ => cases v <;> rfl
  | contains => exact absurd ⟨.contains, by decide⟩ refuses
  | pattern p => cases v <;> rfl
  | _ =>
    cases v with
    | list items => exact absurd rfl (notList items)
    | _ => rfl

/-- What a condition on the collections asks for once it compiles: whether they are null, or what an
operator asks of them for the identifiers that the operand spells. -/
theorem collectionOperation_ok {o : Operator} {v : Value} {c : Fragment}
    (h : collectionOperation field o v = .ok c) :
    v = .null ∧ c.values = [] ∨
      ∃ o' ids, v.elements.mapM (uuidOperand field) = .ok ids ∧ c = collectionFragment o' ids := by
  by_cases isList : ∃ items, v = .list items
  · obtain ⟨items, rfl⟩ := isList
    by_cases takesList : o ∈ collectionListOperators
    · rw [collectionOperation_list takesList] at h
      obtain ⟨ids, read, same⟩ := map_eq_ok_iff.1 h
      exact .inr ⟨o, ids, read, same.symm⟩
    · rw [collectionOperation_list_refused takesList] at h
      cases h
  have notList : ∀ items, v ≠ .list items := fun items same => isList ⟨items, same⟩
  by_cases null : v = .null
  · subst null
    cases o with
    | compare k => cases k <;> cases h <;> exact .inl ⟨rfl, rfl⟩
    | _ => cases h
  · by_cases takesOne : ∃ onList, (o, onList) ∈ singleOperators
    · obtain ⟨onList, mem⟩ := takesOne
      rw [collectionOperation_single mem null notList] at h
      obtain ⟨id, read, same⟩ := map_eq_ok_iff.1 h
      refine .inr ⟨onList, [id], ?_, same.symm⟩
      rw [Value.elements_of_single null notList, List.mapM_cons, read]
      rfl
    · rw [collectionOperation_single_refused takesOne null notList] at h
      cases h

/-- Two spellings of one operand are read as the same identifier, or refused alike. -/
theorem uuidOperand_respelled {v w : Value} (h : Respelled v w) :
    uuidOperand field v = uuidOperand field w := by
  cases h with
  | same => rfl
  | uuid spells spells' =>
    rw [uuidOperand_eq_ok_iff.2 ⟨_, rfl, spells⟩, uuidOperand_eq_ok_iff.2 ⟨_, rfl, spells'⟩]
  | list each => rfl
  | operand key => rfl

/-- Two spellings of one operand give the same condition on the collections, or the same refusal. -/
theorem collectionOperation_respelled (o : Operator) {v w : Value} (h : Respelled v w) :
    collectionOperation field o v = collectionOperation field o w := by
  cases h with
  | same => rfl
  | operand key => cases o with
    | compare c => cases c <;> rfl
    | _ => rfl
  | uuid spells spells' =>
    by_cases takesOne : ∃ onList, (o, onList) ∈ singleOperators
    · obtain ⟨onList, mem⟩ := takesOne
      have single (text : String) :=
        @collectionOperation_single field o onList mem (.string text) nofun nofun
      rw [single, single, uuidOperand_respelled (.uuid spells spells')]
    · have refused (text : String) :=
        @collectionOperation_single_refused field o takesOne (.string text) nofun nofun
      rw [refused, refused]
      rfl
  | list each =>
    by_cases takesList : o ∈ collectionListOperators
    · rw [collectionOperation_list takesList, collectionOperation_list takesList,
        mapM_congr_forall₂ each fun _ _ => uuidOperand_respelled]
    · rw [collectionOperation_list_refused takesList, collectionOperation_list_refused takesList]

/-! ## Conditions on a field -/

variable {config : Config} {levels : Nat}

/-- A field of the collections is compiled by the rules of the collections. -/
theorem fieldCondition_collection (isCollection : field ∈ Target.collectionFields) (v : Value) :
    fieldCondition config levels field v = Spec.parse field v >>= collectionCondition field := by
  rw [fieldCondition, config.target?_of_collection isCollection]

/-- A bare value is compared for equality, a bare list for an overlap. -/
theorem fieldCondition_bare (isCollection : field ∈ Target.collectionFields) {v : Value}
    (bare : ∀ entries, v ≠ .object entries) :
    fieldCondition config levels field v =
      collectionOperation field (if v.isScalar then .compare .eq else .overlap) v := by
  rw [fieldCondition_collection isCollection, Spec.parse_literal_iff.2 ⟨rfl, bare⟩]
  rfl

/-- A bare string is compared for equality. -/
theorem fieldCondition_string (isCollection : field ∈ Target.collectionFields) (text : String) :
    fieldCondition config levels field (.string text) =
      collectionOperation field (.compare .eq) (.string text) :=
  fieldCondition_bare isCollection nofun

/-- A bare list asks for an overlap. -/
theorem fieldCondition_list (isCollection : field ∈ Target.collectionFields) (items : List Value) :
    fieldCondition config levels field (.list items) =
      collectionOperation field .overlap (.list items) :=
  fieldCondition_bare isCollection nofun

/-- An object with the key of an operator applies this operator. -/
theorem fieldCondition_operator (isCollection : field ∈ Target.collectionFields) {key : String}
    {o : Operator} (isKey : key ∈ o.keys) (v : Value) :
    fieldCondition config levels field (.object [(key, v)]) = collectionOperation field o v := by
  rw [fieldCondition_collection isCollection,
    Spec.parse_operator_iff.2 ⟨key, rfl, ofKey?_eq_operator_iff.2 isKey⟩]
  rfl

/-- The condition that is written down for an operator applies this operator. -/
theorem fieldCondition_operation (isCollection : field ∈ Target.collectionFields) (o : Operator)
    (v : Value) :
    fieldCondition config levels field (o.condition v) = collectionOperation field o v :=
  fieldCondition_condition (config.target?_of_collection isCollection) o v

/-- What stands behind a key decides only if the key is that of an operator. -/
theorem fieldCondition_entry (isCollection : field ∈ Target.collectionFields) (key : String) :
    (∃ o, ∀ v, fieldCondition config levels field (.object [(key, v)]) =
      collectionOperation field o v) ∨
      ∃ e, ∀ v, fieldCondition config levels field (.object [(key, v)]) = .error e := by
  have shape (v : Value) := @fieldCondition_collection field config levels isCollection
    (.object [(key, v)])
  cases found : Keyword.ofKey? key with
  | none =>
    right
    cases keyword : isKeywordKey key with
    | true =>
      refine ⟨.unknownOperator field key, fun v => ?_⟩
      rw [shape, Spec.parse]
      simp only [Spec.ofEntries, List.map_cons, List.map_nil, List.filter_cons, keyword, if_true,
        List.filter_nil, found]
      rfl
    | false =>
      refine ⟨.invalidForm (.nestedInReserved field), fun v => ?_⟩
      rw [shape, Spec.parse_path_iff.2 ⟨rfl, List.cons_ne_nil _ _, by simpa using keyword⟩]
      rfl
  | some k =>
    cases k with
    | operator o =>
      exact .inl ⟨o, fieldCondition_operator isCollection (ofKey?_eq_operator_iff.1 found)⟩
    | connective c =>
      refine .inr ⟨.invalidForm (.connectiveOnField c field), fun v => ?_⟩
      have keyword := isKeywordKey_of_ofKey? found
      rw [shape, Spec.parse]
      simp only [Spec.ofEntries, List.map_cons, List.map_nil, List.filter_cons, keyword, if_true,
        List.filter_nil, found]
      rfl

/-- A condition on the collections that compiles is one of an operator and the operand. -/
theorem fieldCondition_collection_ok (isCollection : field ∈ Target.collectionFields) {v : Value}
    {c : Fragment} (h : fieldCondition config levels field v = .ok c) :
    ∃ o, collectionOperation field o v.operand = .ok c := by
  by_cases bare : ∀ entries, v ≠ .object entries
  · rw [fieldCondition_bare isCollection bare] at h
    rw [Value.operand_of_bare bare]
    exact ⟨_, h⟩
  · obtain ⟨entries, isObject⟩ := not_forall.1 bare
    obtain rfl := not_not.1 isObject
    rw [fieldCondition_collection isCollection] at h
    obtain ⟨spec, parsed, h⟩ := bind_eq_ok_iff.1 h
    obtain ⟨rfl, -⟩ | ⟨key, operand, o, rfl, -, rfl⟩ := Spec.ofEntries_ok parsed
    · cases h
    · exact ⟨o, h⟩

/-- The list of one value asks what the operator asks for the identifier that the value spells. -/
theorem fieldCondition_singleton (isCollection : field ∈ Target.collectionFields) {o : Operator}
    (takesList : o ∈ collectionListOperators) (u : Value) :
    fieldCondition config levels field (o.condition (.list [u])) =
      (uuidOperand field u).map fun id => collectionFragment o [id] := by
  rw [fieldCondition_operation isCollection, collectionOperation_list takesList, List.mapM_cons,
    List.mapM_nil]
  cases uuidOperand field u <;> rfl

/-- A scalar asks the same, under an operator that takes a single identifier. -/
theorem fieldCondition_single (isCollection : field ∈ Target.collectionFields)
    {o onList : Operator} (mem : (o, onList) ∈ singleOperators) {u : Value}
    (scalar : u.isScalar = true) (notNull : u ≠ .null) :
    fieldCondition config levels field (o.condition u) =
      (uuidOperand field u).map fun id => collectionFragment onList [id] := by
  rw [fieldCondition_operation isCollection,
    collectionOperation_single mem notNull (Value.ne_list_of_isScalar scalar)]

/-- Every condition with a list is refused for the first of its elements that is no identifier. -/
theorem fieldCondition_refused (isCollection : field ∈ Target.collectionFields)
    {before after : List Value} {x : Value} (uuids : ∀ y ∈ before, y.IsUuid) (notUuid : ¬ x.IsUuid)
    {w : Value} (mem : w ∈ listConditions (before ++ x :: after)) :
    fieldCondition config levels field w = .error (.invalidUuid field x.shown) := by
  have read : (before ++ x :: after).mapM (uuidOperand field) =
      .error (.invalidUuid field x.shown) :=
    mapM_append_error (fun y isBefore => uuidOperand_succeeds_iff.2 (uuids y isBefore))
      (uuidOperand_eq_error notUuid)
  have onList {o : Operator} (takesList : o ∈ collectionListOperators) :
      collectionOperation field o (.list (before ++ x :: after)) =
        .error (.invalidUuid field x.shown) := by
    rw [collectionOperation_list takesList, read]
    rfl
  obtain rfl | inOperator := List.mem_cons.1 mem
  · rw [fieldCondition_list isCollection]
    exact onList (by decide)
  · obtain ⟨o, takesList, inKeys⟩ := List.mem_flatMap.1 inOperator
    obtain ⟨key, isKey, rfl⟩ := List.mem_map.1 inKeys
    rw [fieldCondition_operator isCollection isKey]
    exact onList takesList

/-- The laws hold of the condition of a field, whatever else is compiled around it. -/
theorem fieldCondition_laws (isCollection : field ∈ Target.collectionFields) :
    CollectionLaws field (fieldCondition config levels field) fun c ps => c.values = ps where
  canonical := by
    intro v c h
    obtain ⟨o, h⟩ := fieldCondition_collection_ok isCollection h
    refine ⟨_, rfl, ?_⟩
    obtain ⟨null, binds⟩ | ⟨o', ids, read, rfl⟩ := collectionOperation_ok h
    · rw [null, binds]
      exact .nil
    · rw [values_collectionFragment]
      exact forall₂_bindsUuid (forall₂_denotes ids read)
  respelled := by
    intro v w h
    cases h with
    | same => rfl
    | uuid spells spells' =>
      rw [fieldCondition_string isCollection, fieldCondition_string isCollection]
      exact collectionOperation_respelled _ (.uuid spells spells')
    | list each =>
      rw [fieldCondition_list isCollection, fieldCondition_list isCollection]
      exact collectionOperation_respelled _ (.list each)
    | operand key h =>
      obtain ⟨o, condition⟩ | ⟨e, refused⟩ := fieldCondition_entry isCollection key
      · rw [condition, condition, collectionOperation_respelled o h]
      · rw [refused, refused]
  list := by
    intro items
    rw [fieldCondition_operation isCollection, fieldCondition_operation isCollection,
      fieldCondition_list isCollection]
    exact ⟨rfl, rfl⟩
  single := by
    intro u scalar notNull
    have list {o : Operator} (takesList : o ∈ collectionListOperators) :=
      @fieldCondition_singleton field config levels isCollection o takesList u
    have one {o onList : Operator} (mem : (o, onList) ∈ singleOperators) :=
      @fieldCondition_single field config levels isCollection o onList mem u scalar notNull
    have eq := @one (.compare .eq) .within (by decide)
    have ne := @one (.compare .ne) .without (by decide)
    have contains := @one .contains .contains (by decide)
    rw [eq, ne, contains]
    exact ⟨list (by decide), list (by decide), list (by decide), list (by decide)⟩
  refused := fun _ _ _ uuids notUuid _ mem => fieldCondition_refused isCollection uuids notUuid mem

/-- The names of the collections are no keywords. -/
theorem not_isKeywordKey_of_collection (isCollection : field ∈ Target.collectionFields) :
    isKeywordKey field = false := by
  revert field
  decide

end

end Compile

open Compile

/-- The laws hold of single conditions on the collections, and wherever such a condition stands in a
filter. -/
theorem collection_laws {key : String} (isCollection : key ∈ Target.collectionFields)
    (compiler : Compiler) (given : ParamList) (mode : Mode) :
    CollectionLaws key (fun v => compiler.compile (.single key v) given mode)
        (fun s ps => s.params.items = given.items ++ ps) ∧
      ∀ levels, CollectionLaws key (fieldCondition compiler.config levels key)
        fun c ps => c.values = ps := by
  have isField := not_isKeywordKey_of_collection isCollection
  have laws := @fieldCondition_laws key compiler.config compiler.config.maxDepth isCollection
  have congr {v w : Value} := @compile_single_congr compiler key given mode isField v w
  refine ⟨?_, fun levels => fieldCondition_laws isCollection⟩
  exact
    { canonical := by
        intro v s h
        rw [compile_single isField] at h
        obtain ⟨c, condition, rfl⟩ := map_eq_ok_iff.1 h
        obtain ⟨ps, rfl, binds⟩ := laws.canonical v c condition
        exact ⟨c.values, params_statementOf_single v c, binds⟩
      respelled := fun v w h => congr (laws.respelled v w h)
      list := fun items => (laws.list items).imp congr congr
      single := by
        intro u scalar notNull
        obtain ⟨within, overlap, without, contains⟩ := laws.single u scalar notNull
        exact ⟨congr within, congr overlap, congr without, congr contains⟩
      refused := by
        intro before x after uuids notUuid w mem
        rw [compile_single isField, laws.refused before x after uuids notUuid w mem]
        rfl }

/-- An identifier in braces and capitals. -/
def bracedId : Value := .string (braced "550E8400-E29B-41D4-A716-446655440000")

/-- The same identifier without hyphens. -/
def plainId : Value := .string "550e8400e29b41d4a716446655440000"

/-- The two spellings of one identifier compile to the same statement, with its canonical text; a
number behind it is refused. -/
theorem bracedId_laws :
    "collection_id" ∈ Target.collectionFields ∧
      Compiler.default.compile (.single "collection_id" (.list [bracedId])) ⟨[.null]⟩ .condition =
        .ok ⟨"collection_ids && ARRAY[$2]::uuid[]",
          ⟨[.null, .text "550e8400-e29b-41d4-a716-446655440000"]⟩⟩ ∧
      Compiler.default.compile (.single "collection_id" (.list [bracedId])) ⟨[.null]⟩ .condition =
        Compiler.default.compile (.single "collection_id" (.list [plainId])) ⟨[.null]⟩ .condition ∧
      Compiler.default.compile
          (.single "collection_id"
            (Operator.contains.condition (.list [bracedId, .signed 5, .null])))
          ⟨[.null]⟩ .condition = .error (.invalidUuid "collection_id" "5") := by
  have isCollection : "collection_id" ∈ Target.collectionFields := by decide
  have laws := (collection_laws isCollection Compiler.default ⟨[.null]⟩ .condition).1
  obtain ⟨id, plain⟩ : ∃ id, Uuid.ofText? "550e8400e29b41d4a716446655440000" = some id :=
    Option.isSome_iff_exists.1 (by decide +kernel)
  have braced : Uuid.ofText? (braced "550E8400-E29B-41D4-A716-446655440000") = some id :=
    Eq.trans (by decide +kernel) plain
  have respelled : Respelled bracedId plainId :=
    .uuid (Uuid.ofText?_eq_some_iff.1 braced) (Uuid.ofText?_eq_some_iff.1 plain)
  refine ⟨isCollection, by decide +kernel, laws.respelled _ _ (.list (.cons respelled .nil)),
    laws.refused [bracedId] (.signed 5) [.null] ?_ ?_ _ ?_⟩
  · exact List.forall_mem_singleton.2 ⟨_, id, rfl, braced⟩
  · rintro ⟨text, id, same, -⟩
    cases same
  · simp [listConditions, collectionListOperators, Operator.condition, Operator.keys, Operator.key]

end FilterSql
