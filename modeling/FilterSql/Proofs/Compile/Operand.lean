import FilterSql.Compile.Filter
import FilterSql.Proofs.Grammar
import FilterSql.Proofs.Result

/-!
# Operands that are accepted

What each builder asks of the operand of an operator. The four theorems on builders say that
the builder writes a condition exactly for the operands of its class of fields.
-/

set_option autoImplicit false

namespace FilterSql.Compile

open Value

/-! ## Single operands -/

/-- A value has a document exactly when all its numbers are finite, and so have the entries of an
object and the elements of a list. -/
theorem toJson_succeeds_iff :
    (∀ v : Value, Succeeds v.toJson ↔ ∀ x ∈ v.floats, x.isFinite = true) ∧
      (∀ entries : List (String × Value),
        Succeeds (entriesToJson entries) ↔ ∀ x ∈ entriesFloats entries, x.isFinite = true) ∧
      ∀ items : List Value,
        Succeeds (itemsToJson items) ↔ ∀ x ∈ itemsFloats items, x.isFinite = true := by
  refine Value.toJson.mutual_induct _ _ _ ?null ?bool ?signed ?unsigned ?finite ?infinite ?string
    ?list ?object ?noItems ?items ?noEntries ?entries
  case null => simp [toJson, floats]
  case bool => simp [toJson, floats]
  case signed => simp [toJson, floats]
  case unsigned => simp [toJson, floats]
  case finite =>
    intro x n found
    have finite : x.isFinite = true := by
      unfold Json.Number.ofFloat? at found
      split at found
      · assumption
      · cases found
    simp [toJson, found, floats, finite]
  case infinite =>
    intro x found
    have infinite : ¬ x.isFinite = true := by
      intro finite
      rw [Json.Number.ofFloat?, dif_pos finite] at found
      cases found
    simp [toJson, found, floats, infinite]
  case string => simp [toJson, floats]
  case list =>
    intro items ih
    rw [toJson, succeeds_bind_pure_iff, ih, floats]
  case object =>
    intro entries ih
    rw [toJson, succeeds_bind_pure_iff, ih, floats]
  case noItems => simp [itemsToJson, itemsFloats]
  case items =>
    intro item rest ihFirst ihRest
    rw [itemsToJson, succeeds_bind_bind_pure_iff, ihFirst, ihRest, itemsFloats,
      List.forall_mem_append]
  case noEntries => simp [entriesToJson, entriesFloats]
  case entries =>
    intro key value rest ihFirst ihRest
    rw [entriesToJson, succeeds_bind_bind_pure_iff, ihFirst, ihRest, entriesFloats,
      List.forall_mem_append]

/-- Exactly the scalars other than null have a parameter of their own. -/
theorem scalarOperand_succeeds_iff {field : String} {o : Operator} {v : Value} :
    Succeeds (scalarOperand field o v) ↔ v.IsPlainScalar := by
  unfold scalarOperand IsPlainScalar
  cases v <;> simp [isNull, kind, isScalar, Param.ofScalar?]

/-- Exactly the scalars other than null have a text. -/
theorem textOperand_succeeds_iff {field : String} {o : Operator} {v : Value} :
    Succeeds (textOperand field o v) ↔ v.IsPlainScalar := by
  unfold textOperand IsPlainScalar
  cases v with
  | bool b => cases b <;> simp [kind, isScalar, toText?]
  | _ => simp [isNull, kind, isScalar, toText?]

/-- Exactly the strings are patterns. -/
theorem patternOperand_succeeds_iff {field : String} {o : Operator} {autoWildcard : Bool}
    {v : Value} : Succeeds (patternOperand field o autoWildcard v) ↔ v.IsString := by
  unfold patternOperand IsString
  cases v <;> simp

/-- Exactly the strings that spell an identifier are identifiers. -/
theorem uuidOperand_succeeds_iff {field : String} {v : Value} :
    Succeeds (uuidOperand field v) ↔ v.IsUuid := by
  unfold uuidOperand IsUuid
  cases v with
  | string text => cases found : Uuid.ofText? text <;> simp [found]
  | _ => simp

/-- Exactly the values with finite numbers are JSON parameters. -/
theorem jsonOperand_succeeds_iff {field : String} {v : Value} :
    Succeeds (jsonOperand field v) ↔ v.IsFinite := by
  rw [IsFinite, ← toJson_succeeds_iff.1 v, jsonOperand]
  cases v.toJson <;> simp

/-- A scalar is null or one other than null. -/
theorem isScalar_iff {v : Value} : v.isScalar = true ↔ v = .null ∨ v.IsPlainScalar := by
  unfold IsPlainScalar
  cases v <;> simp [isScalar, kind]

/-- Only null is null. -/
theorem isNull_iff {v : Value} : v.isNull = true ↔ v = .null := by
  cases v <;> simp [isNull, kind]

/-- A string that spells an identifier is a scalar other than null. -/
theorem isPlainScalar_of_isUuid {v : Value} (h : v.IsUuid) : v.IsPlainScalar := by
  obtain ⟨text, id, rfl, -⟩ := h
  exact ⟨rfl, nofun⟩

/-- A list spells no identifier. -/
theorem not_isUuid_list {items : List Value} : ¬ (Value.list items).IsUuid := by
  rintro ⟨_, _, same, -⟩
  cases same

/-- Only a list is a list of anything. -/
theorem not_isListOf {P : Value → Prop} {v : Value} (notList : ∀ items, v ≠ .list items) :
    ¬ v.IsListOf P := by
  rintro ⟨items, same, -⟩
  exact notList items same

/-- The elements of a list decide about it. -/
theorem isListOf_list_iff {P : Value → Prop} {items : List Value} :
    (Value.list items).IsListOf P ↔ ∀ item ∈ items, P item := by
  simp [IsListOf]

/-- The numbers of a list are those of its elements. -/
theorem isFinite_list_iff {items : List Value} :
    (Value.list items).IsFinite ↔ ∀ item ∈ items, item.IsFinite := by
  rw [IsFinite, floats]
  induction items with
  | nil => simp [itemsFloats]
  | cons item rest ih =>
    rw [itemsFloats, List.forall_mem_append, List.forall_mem_cons, ih, IsFinite]

/-- The numbers of an object are those of what stands under its keys. -/
theorem isFinite_object_iff {entries : List (String × Value)} :
    (Value.object entries).IsFinite ↔ ∀ entry ∈ entries, entry.2.IsFinite := by
  rw [IsFinite, floats]
  induction entries with
  | nil => simp [entriesFloats]
  | cons entry rest ih =>
    rw [entriesFloats, List.forall_mem_append, List.forall_mem_cons, ih, IsFinite]

/-- Where null is taken apart, scalars are accepted if those other than null are. -/
theorem orNull_succeeds_iff {β : Type} {b : β} {x : Except CompileError β} {v : Value}
    (other : Succeeds x ↔ v.IsPlainScalar) :
    Succeeds (if v.isNull = true then .ok b else x) ↔ v.isScalar = true := by
  rw [isScalar_iff, ← isNull_iff]
  split
  · rename_i null
    simp [null]
  · rename_i notNull
    simp [notNull, other]

/-- A step on a list that is asked for succeeds exactly for lists of what it succeeds for. -/
theorem listOperand_succeeds_iff {β : Type} {field : String} {o : Operator}
    {f : List Value → Except CompileError β} {P : Value → Prop}
    (onList : ∀ items, Succeeds (f items) ↔ ∀ item ∈ items, P item) {v : Value} :
    Succeeds (listOperand field o v >>= f) ↔ v.IsListOf P := by
  unfold listOperand IsListOf
  cases v with
  | list items =>
    change Succeeds (f items) ↔ _
    rw [onList]
    simp
  | _ => simp [succeeds_bind_iff]

/-- A step on each element succeeds exactly if it does on all, whatever is made of the results. -/
theorem mapM_pure_succeeds_iff {β γ : Type} {f : Value → Except CompileError β} {g : List β → γ}
    {P : Value → Prop} (each : ∀ v, Succeeds (f v) ↔ P v) {items : List Value} :
    Succeeds (items.mapM f >>= fun bs => pure (g bs)) ↔ ∀ item ∈ items, P item := by
  rw [succeeds_bind_pure_iff, succeeds_mapM_iff]
  simp only [each]

/-- The empty list needs nothing of what is asked of others. -/
theorem orEmpty_succeeds_iff {β : Type} {empty : β} {x : Except CompileError β}
    {P : Value → Prop} {items : List Value}
    (other : items ≠ [] → (Succeeds x ↔ ∀ item ∈ items, P item)) :
    Succeeds (if items.isEmpty = true then pure empty else x) ↔ ∀ item ∈ items, P item := by
  cases items with
  | nil => simp
  | cons item rest =>
    rw [if_neg (by simp)]
    exact other (by simp)

/-! ## The operands of the builders -/

/-- The builder for plain columns writes a condition exactly for the operands of plain columns. -/
theorem columnOperation_succeeds_iff {config : Config} {field name : String} {o : Operator}
    {v : Value} : Succeeds (columnOperation config field name o v) ↔ ColumnOperand o v := by
  have scalar : ∀ {o : Operator} {make : Param → Fragment},
      Succeeds (scalarOperand field o v >>= fun p => pure (make p)) ↔ v.IsPlainScalar := by
    intro o make
    rw [succeeds_bind_pure_iff, scalarOperand_succeeds_iff]
  have within : ∀ {o : Operator} {make : List Param → Fragment},
      Succeeds (listOperand field o v >>= fun items =>
        items.mapM (scalarOperand field o) >>= fun ps => pure (make ps)) ↔
          v.IsListOf IsPlainScalar := by
    intro o make
    exact listOperand_succeeds_iff (P := IsPlainScalar) fun items =>
      mapM_pure_succeeds_iff fun _ => scalarOperand_succeeds_iff
  cases o with
  | compare c =>
    cases c with
    | eq => exact orNull_succeeds_iff scalar
    | ne => exact orNull_succeeds_iff scalar
    | lt => exact scalar
    | lte => exact scalar
    | gt => exact scalar
    | gte => exact scalar
  | pattern p =>
    rw [columnOperation, succeeds_bind_pure_iff, patternOperand_succeeds_iff, ColumnOperand]
  | within => exact within
  | without => exact within
  | overlap => exact iff_of_false (not_succeeds_error _) id
  | contains => exact iff_of_false (not_succeeds_error _) id

/-- The builder for the collections writes a condition exactly for the operands of collections. -/
theorem collectionOperation_succeeds_iff {field : String} {o : Operator} {v : Value} :
    Succeeds (collectionOperation field o v) ↔ CollectionOperand o v := by
  have single : ∀ {v : Value} {make : Uuid → Fragment}, (∀ items, v ≠ .list items) →
      (Succeeds (uuidOperand field v >>= fun id => pure (make id)) ↔
        v.IsUuid ∨ v.IsListOf IsUuid) := by
    intro v make notList
    rw [or_iff_left (not_isListOf notList), succeeds_bind_pure_iff, uuidOperand_succeeds_iff]
  have list : ∀ {items : List Value} {make : List Uuid → Fragment},
      Succeeds (items.mapM (uuidOperand field) >>= fun ids => pure (make ids)) ↔
        (Value.list items).IsUuid ∨ (Value.list items).IsListOf IsUuid := by
    intro items make
    rw [or_iff_right not_isUuid_list, isListOf_list_iff]
    exact mapM_pure_succeeds_iff fun _ => uuidOperand_succeeds_iff
  have within : ∀ {o : Operator} {make : List Uuid → Fragment},
      Succeeds (listOperand field o v >>= fun items =>
        items.mapM (uuidOperand field) >>= fun ids => pure (make ids)) ↔ v.IsListOf IsUuid := by
    intro o make
    exact listOperand_succeeds_iff (P := IsUuid) fun items =>
      mapM_pure_succeeds_iff fun _ => uuidOperand_succeeds_iff
  -- Equality and containment look at the kind of the operand; the other operators ask for a list.
  cases o with
  | compare c =>
    cases c with
    | eq =>
      cases v with
      | null => exact iff_of_true (succeeds_ok _) (.inl rfl)
      | list items =>
        rw [CollectionOperand, or_iff_right nofun]
        exact list
      | _ =>
        rw [CollectionOperand, or_iff_right nofun]
        exact single nofun
    | ne =>
      cases v with
      | null => exact iff_of_true (succeeds_ok _) (.inl rfl)
      | list items =>
        rw [CollectionOperand, or_iff_right nofun]
        exact list
      | _ =>
        rw [CollectionOperand, or_iff_right nofun]
        exact single nofun
    | _ => exact iff_of_false (by cases v <;> exact not_succeeds_error _) id
  | pattern p => exact iff_of_false (by cases v <;> exact not_succeeds_error _) id
  | within => exact within
  | without => exact within
  | overlap => exact within
  | contains =>
    cases v with
    | list items => exact list
    | _ => exact single nofun

/-- The parent is compared with any scalar other than null. -/
theorem parentOperand_succeeds_iff {field : String} {o : Operator} {v : Value} :
    Succeeds (parentOperand field o v) ↔ v.IsPlainScalar := by
  unfold parentOperand
  split
  · rename_i id found
    have isUuid : v.IsUuid := uuidOperand_succeeds_iff.1 ⟨id, found⟩
    simp [isPlainScalar_of_isUuid isUuid]
  · rw [succeeds_bind_pure_iff, scalarOperand_succeeds_iff]

/-- The parent is looked up among any scalars other than null. -/
theorem parentArray_succeeds_iff {field : String} {o : Operator} {items : List Value} :
    Succeeds (parentArray field o items) ↔ ∀ item ∈ items, item.IsPlainScalar := by
  unfold parentArray
  split
  · rename_i ids found
    have areUuids : ∀ item ∈ items, item.IsUuid := fun item mem =>
      uuidOperand_succeeds_iff.1 (succeeds_mapM_iff.1 ⟨ids, found⟩ item mem)
    simp only [succeeds_ok, true_iff]
    exact fun item mem => isPlainScalar_of_isUuid (areUuids item mem)
  · exact mapM_pure_succeeds_iff fun _ => textOperand_succeeds_iff

/-- The builder for the parent writes a condition exactly for the operands of the parent. -/
theorem parentOperation_succeeds_iff {field : String} {o : Operator} {v : Value} :
    Succeeds (parentOperation field o v) ↔ ParentOperand o v := by
  have scalar : ∀ {o : Operator} {make : Sql.Term Param → Fragment},
      Succeeds (parentOperand field o v >>= fun term => pure (make term)) ↔ v.IsPlainScalar := by
    intro o make
    rw [succeeds_bind_pure_iff, parentOperand_succeeds_iff]
  have array : ∀ {o : Operator} {make : Sql.Term Param → Fragment} {items : List Value},
      Succeeds (parentArray field o items >>= fun term => pure (make term)) ↔
        ∀ item ∈ items, item.IsPlainScalar := by
    intro o make items
    rw [succeeds_bind_pure_iff, parentArray_succeeds_iff]
  cases o with
  | compare c =>
    cases c with
    | eq => exact orNull_succeeds_iff scalar
    | ne => exact orNull_succeeds_iff scalar
    | lt => exact iff_of_false (not_succeeds_error _) id
    | lte => exact iff_of_false (not_succeeds_error _) id
    | gt => exact iff_of_false (not_succeeds_error _) id
    | gte => exact iff_of_false (not_succeeds_error _) id
  | pattern p => exact iff_of_false (not_succeeds_error _) id
  | within => exact listOperand_succeeds_iff fun _ => orEmpty_succeeds_iff fun _ => array
  | without => exact listOperand_succeeds_iff fun _ => orEmpty_succeeds_iff fun _ => array
  | overlap => exact iff_of_false (not_succeeds_error _) id
  | contains => exact iff_of_false (not_succeeds_error _) id

/-- Membership on metadata is written exactly for lists whose elements the strategy takes. -/
theorem metadataMembership_succeeds_iff {config : Config} {field : String} {path : List String}
    {o : Operator} {negated : Bool} {items : List Value} :
    Succeeds (metadataMembership config field path o negated items) ↔
      ∀ item ∈ items, MembershipItem config.metadataIn item := by
  unfold metadataMembership
  cases config.metadataIn with
  | placeholderList => exact mapM_pure_succeeds_iff fun _ => textOperand_succeeds_iff
  | jsonArrayElements =>
    simp only [succeeds_bind_pure_iff, jsonOperand_succeeds_iff, isFinite_list_iff, MembershipItem]

/-- The builder for paths writes a condition exactly for the operands of paths. -/
theorem metadataOperation_succeeds_iff {config : Config} {path : List String} {o : Operator}
    {v : Value} :
    Succeeds (metadataOperation config path o v) ↔ MetadataOperand config.metadataIn o v := by
  have scalar : ∀ {field : String} {o : Operator} {make : Param → Fragment},
      Succeeds (scalarOperand field o v >>= fun p => pure (make p)) ↔ v.IsPlainScalar := by
    intro field o make
    rw [succeeds_bind_pure_iff, scalarOperand_succeeds_iff]
  have document : ∀ {field : String} {make : Param → Fragment},
      Succeeds (jsonOperand field v >>= fun p => pure (make p)) ↔ v.IsFinite := by
    intro field make
    rw [succeeds_bind_pure_iff, jsonOperand_succeeds_iff]
  have within : ∀ {field : String} {o : Operator} {empty : Fragment} {negated : Bool},
      Succeeds (listOperand field o v >>= fun items => if items.isEmpty = true then pure empty
        else metadataMembership config field path o negated items) ↔
          v.IsListOf (MembershipItem config.metadataIn) := by
    intro field o empty negated
    exact listOperand_succeeds_iff fun items =>
      orEmpty_succeeds_iff fun _ => metadataMembership_succeeds_iff
  have equality : ∀ {field : String} {o : Operator} {null : Fragment}
      {make make' : Param → Fragment},
      Succeeds (if v.isNull = true then .ok null
        else if (!v.isScalar) = true then jsonOperand field v >>= fun p => pure (make p)
        else scalarOperand field o v >>= fun p => pure (make' p)) ↔
          v.isScalar = true ∨ v.IsFinite := by
    intro field o null make make'
    -- A list or an object must be a document, and null is taken apart from the other scalars.
    cases scalarOrNot : v.isScalar with
    | false =>
      have notNull : ¬ v.isNull = true := by
        rw [isNull_iff]
        rintro rfl
        cases scalarOrNot
      rw [if_neg notNull, if_pos Bool.not_false, document, or_iff_right Bool.false_ne_true]
    | true =>
      have isScalar : Succeeds (if v.isNull = true then .ok null
          else scalarOperand field o v >>= fun p => pure (make' p)) ↔ v.isScalar = true :=
        orNull_succeeds_iff scalar
      simp only [Bool.not_true, Bool.false_eq_true, if_false, isScalar, scalarOrNot, true_or]
  cases o with
  | compare c =>
    cases c with
    | eq => exact equality
    | ne => exact equality
    | lt => exact scalar
    | lte => exact scalar
    | gt => exact scalar
    | gte => exact scalar
  | pattern p =>
    rw [metadataOperation, succeeds_bind_pure_iff, patternOperand_succeeds_iff, MetadataOperand]
  | within => exact within
  | without => exact within
  | overlap => exact iff_of_false (not_succeeds_error _) id
  | contains => exact document

end FilterSql.Compile
