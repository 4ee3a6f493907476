import FilterSql.Proofs.Documents
import FilterSql.Proofs.ParentLists
import FilterSql.Proofs.Value.Place
import FilterSql.Proofs.Value.RoundTrip

/-!
# Whole numbers are bound exactly

A whole number of a document is held by a signed word where there is one, and else by an unsigned
one. On its way to the parameters it is neither rounded nor wrapped: it is bound as such a word, or
it stands in a bound text with all its decimal digits (`whole_numbers_exact`).
-/

set_option autoImplicit false

namespace FilterSql

open Sql

/-- A value that is a whole number of a document. -/
def Value.IsWhole (v : Value) (n : Int) : Prop :=
  ∃ least below, v = .ofNumber (.whole n least below)

/-- A parameter holds a whole number if it is the signed word of this value, or the unsigned one
where no signed word has this value, and if it is shown as the decimal digits. -/
def Param.Holds (p : Param) (n : Int) : Prop :=
  ((n < 0x8000000000000000 ∧ ∃ m : Int64, p = .signed m ∧ m.toInt = n) ∨
    (0x8000000000000000 ≤ n ∧ ∃ m : UInt64, p = .unsigned m ∧ (m.toNat : Int) = n)) ∧
  p.toJson.text = toString n

/-- What is bound for a list that holds whole numbers. On a column each of them is bound as a word,
on a path as its decimal digits, and for the parent the digits stand in an array of texts. -/
def Target.BindsItems (items : List Value) (ps : List Param) : Target → Prop
  | .column _ => List.Forall₂ (fun item p => ∀ n, item.IsWhole n → p.Holds n) items ps
  | .metadata _ =>
    List.Forall₂ (fun item p => ∀ n, item.IsWhole n → p = .text (toString n)) items ps
  | .parent => ∃ texts, ps = [.textArray texts] ∧
    List.Forall₂ (fun item text => ∀ n, item.IsWhole n → text = toString n) items texts
  | .collection => False

/-! ## Numbers as values -/

/-- The digits that a document has for a whole number are its decimal digits. -/
theorem Json.ofList_wholeChars (n : Int) : String.ofList (wholeChars n) = toString n := by
  cases n with
  | ofNat m =>
    have notNegative : ¬ (Int.ofNat m < 0) := Int.not_lt.2 (Int.natCast_nonneg m)
    rw [wholeChars, if_neg notNegative]
    rfl
  | negSucc m =>
    rw [wholeChars, if_pos (Int.negSucc_lt_zero m), String.ofList_cons]
    rfl

namespace Value.IsWhole

variable {v : Value} {n : Int} (whole : v.IsWhole n)

include whole

/-- A whole number is the signed word of this value, or the unsigned one where there is no signed
one. -/
theorem word :
    (n < 0x8000000000000000 ∧ ∃ m : Int64, v = .signed m ∧ m.toInt = n) ∨
      (0x8000000000000000 ≤ n ∧ ∃ m : UInt64, v = .unsigned m ∧ (m.toNat : Int) = n) := by
  obtain ⟨least, below, rfl⟩ := whole
  rw [ofNumber]
  split
  · rename_i fits
    exact .inl ⟨fits, _, rfl, Int64.toInt_ofInt_of_le least fits⟩
  · rename_i large
    refine .inr ⟨Int.not_lt.1 large, _, rfl, ?_⟩
    have size : UInt64.size = 0x10000000000000000 := rfl
    rw [UInt64.toNat_ofNat_of_lt' (by omega)]
    omega

/-- A whole number is of the kind of numbers. -/
theorem kind_eq : v.kind = .number := by
  rcases whole.word with ⟨-, m, rfl, -⟩ | ⟨-, m, rfl, -⟩ <;> rfl

/-- A whole number holds no floating point numbers. -/
theorem floats_eq : v.floats = [] := by
  rcases whole.word with ⟨-, m, rfl, -⟩ | ⟨-, m, rfl, -⟩ <;> rfl

/-- A whole number is not found to be null. -/
theorem isNull_eq : v.isNull = false := by
  rw [isNull, whole.kind_eq]
  rfl

/-- A whole number is a scalar. -/
theorem isScalar_eq : v.isScalar = true := by
  rw [isScalar, whole.kind_eq]
  rfl

/-- A whole number is no string. -/
theorem not_isString : ¬ v.IsString := by
  rintro ⟨text, rfl⟩
  cases whole.kind_eq

/-- A whole number spells no identifier, even if its digits would. -/
theorem not_isUuid : ¬ v.IsUuid := by
  rintro ⟨text, -, rfl, -⟩
  cases whole.kind_eq

/-- A whole number is not the null. -/
theorem ne_null : v ≠ .null := by
  rintro rfl
  cases whole.kind_eq

/-- A whole number is no list, of whatever. -/
theorem not_isListOf (P : Value → Prop) : ¬ v.IsListOf P := by
  rintro ⟨items, rfl, -⟩
  cases whole.kind_eq

/-- The text of a whole number is its decimal digits. -/
theorem toText?_eq : v.toText? = some (toString n) := by
  rw [← Json.ofList_wholeChars]
  rcases whole.word with ⟨-, m, rfl, rfl⟩ | ⟨-, m, rfl, rfl⟩ <;> rfl

/-- The document of a whole number is written with its decimal digits. -/
theorem toJson_eq : ∃ j, v.toJson = .ok j ∧ j.chars = Json.wholeChars n := by
  rcases whole.word with ⟨-, m, rfl, rfl⟩ | ⟨-, m, rfl, rfl⟩ <;> exact ⟨_, rfl, rfl⟩

/-- The parameter of a whole number holds it. -/
theorem ofScalar?_eq : ∃ p, Param.ofScalar? v = some p ∧ p.Holds n := by
  have shown := Json.ofList_wholeChars n
  rcases whole.word with ⟨fits, m, rfl, rfl⟩ | ⟨large, m, rfl, rfl⟩
  · exact ⟨.signed m, rfl, .inl ⟨fits, m, rfl, rfl⟩, shown⟩
  · exact ⟨.unsigned m, rfl, .inr ⟨large, m, rfl, rfl⟩, shown⟩

end Value.IsWhole

namespace Compile

variable {field : String} {o : Operator}

/-! ## Scalars -/

/-- A whole number is taken as a scalar, and bound as a parameter that holds it. -/
theorem scalarOperand_whole {v : Value} {n : Int} (whole : v.IsWhole n) :
    ∃ p, scalarOperand field o v = .ok p ∧ p.Holds n := by
  obtain ⟨p, isParam, holds⟩ := whole.ofScalar?_eq
  refine ⟨p, ?_, holds⟩
  simp only [scalarOperand, whole.isNull_eq, isParam, Bool.false_eq_true, if_false]

/-- What a scalar gives as a parameter holds it, if it is a whole number. -/
theorem holds_of_scalarOperand {v : Value} {p : Param} (h : scalarOperand field o v = .ok p)
    {n : Int} (whole : v.IsWhole n) : p.Holds n := by
  obtain ⟨q, given, holds⟩ := @scalarOperand_whole field o v n whole
  rw [h] at given
  exact Except.ok.inj given ▸ holds

/-- A whole number is taken as the text of its decimal digits. -/
theorem toString_of_textOperand {v : Value} {text : String} (h : textOperand field o v = .ok text)
    {n : Int} (whole : v.IsWhole n) : text = toString n :=
  Option.some.inj ((textOperand_ok h).symm.trans whole.toText?_eq)

/-- The parent is compared with a whole number as a scalar, without a cast. -/
theorem parentOperand_whole {v : Value} {n : Int} (whole : v.IsWhole n) :
    ∃ p, parentOperand field o v = .ok (.param p) ∧ p.Holds n := by
  obtain ⟨p, isParam, holds⟩ := @scalarOperand_whole field o v n whole
  refine ⟨p, ?_, holds⟩
  rw [parentOperand, uuidOperand_eq_error whole.not_isUuid]
  simp only [isParam]
  rfl

/-- What a comparison with a whole number binds. -/
def ComparesWith (n : Int) (o : Operator) (c : Fragment) : Prop :=
  (∃ k, o = .compare k) ∧ ∃ p, c.values = [p] ∧ p.Holds n

section

variable {config : Config} {v : Value} {n : Int} (whole : v.IsWhole n)

include whole

/-- On a plain column a whole number is compared as a parameter that holds it. -/
theorem columnOperation_whole {name : String} :
    Gives (columnOperation config field name o v) (ComparesWith n o) := by
  intro c built
  have allowed : ColumnOperand o v := columnOperation_succeeds_iff.1 ⟨c, built⟩
  cases o with
  | compare k =>
    obtain ⟨p, isParam, holds⟩ := @scalarOperand_whole field (.compare k) v n whole
    rw [columnOperation, if_neg (by simp [whole.isNull_eq]), isParam] at built
    cases built
    exact ⟨⟨k, rfl⟩, p, by simp, holds⟩
  | pattern q => exact absurd allowed whole.not_isString
  | within => exact absurd allowed (whole.not_isListOf _)
  | without => exact absurd allowed (whole.not_isListOf _)
  | overlap => exact allowed.elim
  | contains => exact allowed.elim

/-- No operator on the collections takes a whole number. -/
theorem not_collectionOperand_whole : ¬ CollectionOperand o v := by
  have notSingle := whole.not_isUuid
  have notList := whole.not_isListOf Value.IsUuid
  cases o with
  | compare k => cases k <;> simp [CollectionOperand, notSingle, notList, whole.ne_null]
  | _ => simp [CollectionOperand, notSingle, notList]

/-- The parent is compared with a whole number as a parameter that holds it. -/
theorem parentOperation_whole : Gives (parentOperation field o v) (ComparesWith n o) := by
  intro c built
  have allowed : ParentOperand o v := parentOperation_succeeds_iff.1 ⟨c, built⟩
  cases o with
  | compare k =>
    obtain ⟨p, isParam, holds⟩ := @parentOperand_whole field (.compare k) v n whole
    cases k with
    | eq =>
      rw [parentOperation, if_neg (by simp [whole.isNull_eq]), isParam] at built
      cases built
      exact ⟨⟨.eq, rfl⟩, p, by simp [parentTerm], holds⟩
    | ne =>
      rw [parentOperation, if_neg (by simp [whole.isNull_eq]), isParam] at built
      cases built
      exact ⟨⟨.ne, rfl⟩, p, by simp [parentTerm], holds⟩
    | _ => exact allowed.elim
  | within => exact absurd allowed (whole.not_isListOf _)
  | without => exact absurd allowed (whole.not_isListOf _)
  | _ => exact allowed.elim

/-- On a path a whole number is compared as a parameter that holds it, unless it is taken as a
document. -/
theorem metadataOperation_whole {path : List String}
    (notDocument : ¬ TakesDocument config.metadataIn o v) :
    Gives (metadataOperation config path o v) (ComparesWith n o) := by
  intro c built
  have allowed : MetadataOperand config.metadataIn o v :=
    metadataOperation_succeeds_iff.1 ⟨c, built⟩
  cases o with
  | compare k =>
    obtain ⟨p, isParam, holds⟩ :=
      @scalarOperand_whole (pathName config.jsonColumn path) (.compare k) v n whole
    rw [metadataOperation, if_neg (by simp [whole.isNull_eq]), if_neg (by simp [whole.isScalar_eq]),
      isParam] at built
    cases built
    exact ⟨⟨k, rfl⟩, p, by simp [values_typedAccessor], holds⟩
  | pattern q => exact absurd allowed whole.not_isString
  | within => exact absurd allowed (whole.not_isListOf _)
  | without => exact absurd allowed (whole.not_isListOf _)
  | overlap => exact allowed.elim
  | contains => exact absurd trivial notDocument

end

/-- A leaf with a whole number that is not taken as a document is a comparison, and binds the
number. -/
theorem Leaf.params_whole {config : Config} {leaf : Leaf} (built : Succeeds (leaf.fragment config))
    {n : Int} (whole : leaf.operand.IsWhole n) (notDocument : ¬ leaf.TakesDocument config) :
    (∃ k, leaf.operator = .compare k) ∧ ∃ p, leaf.params config = [p] ∧ p.Holds n := by
  obtain ⟨c, built⟩ := built
  rw [Leaf.params_of_ok built]
  obtain ⟨field, target, o, v⟩ := leaf
  cases target with
  | column name => exact columnOperation_whole whole c built
  | parent => exact parentOperation_whole whole c built
  | collection =>
    exact absurd (collectionOperation_succeeds_iff.1 ⟨c, built⟩) (not_collectionOperand_whole whole)
  | metadata path =>
    exact metadataOperation_whole whole (fun takes => notDocument ⟨⟨path, rfl⟩, takes⟩) c built

/-! ## Lists -/

section

variable {config : Config} {items : List Value}

/-- A list is no scalar. -/
theorem not_isPlainScalar_list : ¬ (Value.list items).IsPlainScalar := by
  rintro ⟨isScalar, -⟩
  cases isScalar

/-- A list is no string. -/
theorem not_isString_list : ¬ (Value.list items).IsString := by
  rintro ⟨text, same⟩
  cases same

/-- A list is taken on a plain column by membership and its negation, which bind each element. -/
theorem columnOperation_items {name : String} :
    Gives (columnOperation config field name o (.list items)) fun c =>
      (o = .within ∨ o = .without) ∧ (Target.column name).BindsItems items c.values := by
  intro c built
  have allowed : ColumnOperand o (.list items) := columnOperation_succeeds_iff.1 ⟨c, built⟩
  have member {truth : Bool} {test : List Param → Sql.Test Param}
      (values : ∀ ps, (Condition.test (test ps)).values = ps)
      (h : (items.mapM (scalarOperand field o) >>= fun ps =>
        pure (if ps.isEmpty then .constant truth else .test (test ps))) = .ok c) :
      (Target.column name).BindsItems items c.values := by
    obtain ⟨ps, given, h⟩ := bind_eq_ok_iff.1 h
    have same : c.values = ps := by
      cases h
      cases ps with
      | nil => simp
      | cons p rest => exact values _
    rw [same]
    exact (gives_mapM_forall₂ _ _ ps given).imp fun item p isParam n whole =>
      holds_of_scalarOperand isParam whole
  cases o with
  | within => exact ⟨.inl rfl, member (by simp) built⟩
  | without => exact ⟨.inr rfl, member (by simp) built⟩
  | compare k =>
    cases k with
    | eq => cases allowed
    | ne => cases allowed
    | _ => exact absurd allowed not_isPlainScalar_list
  | pattern q => exact absurd allowed not_isString_list
  | overlap => exact allowed.elim
  | contains => exact allowed.elim

/-- No operator on the collections takes a list that holds a whole number. -/
theorem not_collectionOperand_items {item : Value} (mem : item ∈ items) {n : Int}
    (whole : item.IsWhole n) : ¬ CollectionOperand o (.list items) := by
  have notUuids : ¬ (Value.list items).IsListOf Value.IsUuid := by
    rw [isListOf_list_iff]
    exact fun all => whole.not_isUuid (all item mem)
  have notSingle := @not_isUuid_list items
  cases o with
  | compare k => cases k <;> simp [CollectionOperand, notSingle, notUuids]
  | _ => simp [CollectionOperand, notSingle, notUuids]

/-- The array of a list for the parent holds the decimal digits of each whole number. -/
theorem parentArray_items (plain : ∀ item ∈ items, item.IsPlainScalar) :
    ∃ term texts, parentArray field o items = .ok term ∧ term.values = [.textArray texts] ∧
      List.Forall₂ (fun item text => ∀ n, item.IsWhole n → text = toString n) items texts := by
  obtain ⟨term, texts, array, values, each⟩ := @parentArray_ok field o items plain
  refine ⟨term, texts, array, values, each.imp fun item text stands n whole => ?_⟩
  rcases stands with ⟨-, id, denotes, -⟩ | ⟨-, isText⟩
  · exact absurd (isUuid_iff.2 ⟨id, denotes⟩) whole.not_isUuid
  · exact Option.some.inj (isText.symm.trans whole.toText?_eq)

/-- A list with elements is taken for the parent by membership and its negation, which bind one
array. -/
theorem parentOperation_items (nonempty : items ≠ []) :
    Gives (parentOperation field o (.list items)) fun c =>
      (o = .within ∨ o = .without) ∧ Target.parent.BindsItems items c.values := by
  intro c built
  have allowed : ParentOperand o (.list items) := parentOperation_succeeds_iff.1 ⟨c, built⟩
  have member {test : Term Param → Sql.Test Param} {truth : Bool}
      (values : ∀ term, (Condition.test (test term)).values = term.values)
      (plain : (Value.list items).IsListOf Value.IsPlainScalar)
      (h : (if items.isEmpty = true then pure (.constant truth)
        else parentArray field o items >>= fun term => pure (.test (test term))) = .ok c) :
      Target.parent.BindsItems items c.values := by
    obtain ⟨term, texts, array, ofTerm, each⟩ :=
      @parentArray_items field o items (isListOf_list_iff.1 plain)
    rw [if_neg (by simpa using nonempty), array] at h
    cases h
    exact ⟨texts, (values term).trans ofTerm, each⟩
  cases o with
  | within => exact ⟨.inl rfl, member (by simp [parentTerm]) allowed built⟩
  | without => exact ⟨.inr rfl, member (by simp [parentTerm]) allowed built⟩
  | compare k => cases k <;> cases allowed
  | _ => exact allowed.elim

/-- A membership that lists placeholders binds the decimal digits of each whole number. -/
theorem metadataMembership_items {path : List String} {negated : Bool}
    (strategy : config.metadataIn = .placeholderList) :
    Gives (metadataMembership config field path o negated items) fun c =>
      (Target.metadata path).BindsItems items c.values := by
  intro c built
  rw [metadataMembership, strategy] at built
  obtain ⟨texts, given, built⟩ := bind_eq_ok_iff.1 built
  cases built
  have values : (Condition.test (if negated = true
      then .notInList (.paren (textAccessor config.jsonColumn path)) (texts.map Param.text)
      else .inList (.paren (textAccessor config.jsonColumn path)) (texts.map .text))).values =
        texts.map .text := by
    split <;> simp [values_textAccessor]
  rw [values, Target.BindsItems, List.forall₂_map_right_iff]
  exact (gives_mapM_forall₂ _ _ texts given).imp fun item text isText n whole =>
    congrArg Param.text (toString_of_textOperand isText whole)

/-- A list with elements that is not taken as a document is taken on a path by membership and its
negation. -/
theorem metadataOperation_items {path : List String} (nonempty : items ≠ [])
    (notDocument : ¬ TakesDocument config.metadataIn o (.list items)) :
    Gives (metadataOperation config path o (.list items)) fun c =>
      (o = .within ∨ o = .without) ∧ (Target.metadata path).BindsItems items c.values := by
  intro c built
  have allowed : MetadataOperand config.metadataIn o (.list items) :=
    metadataOperation_succeeds_iff.1 ⟨c, built⟩
  have strategy (member : o = .within ∨ o = .without) : config.metadataIn = .placeholderList := by
    cases chosen : config.metadataIn with
    | placeholderList => rfl
    | jsonArrayElements =>
      rcases member with rfl | rfl <;> simp [TakesDocument, chosen, nonempty] at notDocument
  have notEmpty : ¬ items.isEmpty = true := by simpa using nonempty
  cases o with
  | within =>
    change (if items.isEmpty = true then _ else _) = _ at built
    rw [if_neg notEmpty] at built
    exact ⟨.inl rfl, metadataMembership_items (strategy (.inl rfl)) c built⟩
  | without =>
    change (if items.isEmpty = true then _ else _) = _ at built
    rw [if_neg notEmpty] at built
    exact ⟨.inr rfl, metadataMembership_items (strategy (.inr rfl)) c built⟩
  | compare k =>
    have notEquality : k.isEquality ≠ true := fun equality =>
      notDocument (takesDocument_compare_iff.2 ⟨equality, rfl⟩)
    cases k with
    | eq => exact absurd rfl notEquality
    | ne => exact absurd rfl notEquality
    | _ => exact absurd allowed not_isPlainScalar_list
  | pattern q => exact absurd allowed not_isString_list
  | overlap => exact allowed.elim
  | contains => exact absurd trivial notDocument

end

/-- A leaf with a list that holds a whole number, and is not taken as a document, asks for
membership and binds the whole numbers of the list. -/
theorem Leaf.params_items {config : Config} {leaf : Leaf} (built : Succeeds (leaf.fragment config))
    {items : List Value} (isList : leaf.operand = .list items) {item : Value} (mem : item ∈ items)
    {n : Int} (whole : item.IsWhole n) (notDocument : ¬ leaf.TakesDocument config) :
    (leaf.operator = .within ∨ leaf.operator = .without) ∧
      leaf.target.BindsItems items (leaf.params config) := by
  obtain ⟨c, built⟩ := built
  rw [Leaf.params_of_ok built]
  obtain ⟨field, target, o, v⟩ := leaf
  subst isList
  have nonempty : items ≠ [] := List.ne_nil_of_mem mem
  cases target with
  | column name => exact columnOperation_items c built
  | parent => exact parentOperation_items nonempty c built
  | collection =>
    have allowed := collectionOperation_succeeds_iff.1 ⟨c, built⟩
    exact absurd allowed (not_collectionOperand_items mem whole)
  | metadata path =>
    have notTaken := fun takes => notDocument ⟨⟨path, rfl⟩, takes⟩
    exact metadataOperation_items nonempty notTaken c built

/-! ## Documents -/

section

variable {config : Config} {v w : Value} {n m : Int}

/-- An operand that is taken as a document still is one with another whole number at a place. -/
theorem takesDocument_fill {place : Place} {strategy : MetadataIn} (whole : v.IsWhole n)
    (whole' : w.IsWhole m) (takes : TakesDocument strategy o (place.fill v))
    (allowed : MetadataOperand strategy o (place.fill v)) :
    TakesDocument strategy o (place.fill w) ∧ MetadataOperand strategy o (place.fill w) := by
  -- What an operator asks of its operand goes by the kind, by the floating point numbers and by
  -- whether a list is empty. None of these changes with a number inside.
  have sameKind : (place.fill w).kind = (place.fill v).kind :=
    place.kind_fill (whole'.kind_eq.trans whole.kind_eq.symm)
  have sameFloats : (place.fill w).floats = (place.fill v).floats :=
    place.floats_fill (whole'.floats_eq.trans whole.floats_eq.symm)
  have sameScalar : (place.fill w).isScalar = (place.fill v).isScalar := by
    rw [Value.isScalar, sameKind, Value.isScalar]
  have sameFinite : (place.fill w).IsFinite ↔ (place.fill v).IsFinite := by
    rw [Value.IsFinite, sameFloats, Value.IsFinite]
  have member (takes : strategy = .jsonArrayElements ∧ place.fill v ≠ .list [])
      (allowed : (place.fill v).IsListOf (MembershipItem strategy)) :
      (strategy = .jsonArrayElements ∧ place.fill w ≠ .list []) ∧
        (place.fill w).IsListOf (MembershipItem strategy) := by
    obtain ⟨rfl, -⟩ := takes
    cases place with
    | here => exact absurd allowed (whole.not_isListOf _)
    | entry before key inner after => exact absurd allowed (not_isListOf (by simp [Place.fill]))
    | item before inner after =>
      have finite := isFinite_list_iff.2 (isListOf_list_iff.1 allowed)
      refine ⟨⟨rfl, by simp [Place.fill]⟩, ?_⟩
      exact isListOf_list_iff.2 (isFinite_list_iff.1 (sameFinite.2 finite))
  cases o with
  | compare k =>
    rw [takesDocument_compare_iff] at takes ⊢
    rw [sameScalar]
    have finite (operand : (place.fill v).isScalar = true ∨ (place.fill v).IsFinite) :
        (place.fill w).IsFinite :=
      sameFinite.2 (operand.resolve_left (by simp [takes.2]))
    refine ⟨takes, ?_⟩
    cases k with
    | eq => exact .inr (finite allowed)
    | ne => exact .inr (finite allowed)
    | _ => cases takes.1
  | contains => exact ⟨trivial, sameFinite.2 allowed⟩
  | within => exact member takes allowed
  | without => exact member takes allowed
  | _ => exact takes.elim

/-- A leaf whose operand is taken as a document binds a text in which a whole number at a place of
the operand stands with its decimal digits. The text around them is the same for all whole numbers.
-/
theorem Leaf.params_place {leaf : Leaf} (built : Succeeds (leaf.fragment config))
    (takes : leaf.TakesDocument config) {place : Place} (kept : place.Kept)
    (atPlace : leaf.operand = place.fill v) (whole : v.IsWhole n) :
    ∃ before after : String, Json.Delimited before.toList after.toList ∧
      ∀ w m, Value.IsWhole w m → Leaf.params config { leaf with operand := place.fill w } =
        [.json (before ++ toString m ++ after)] := by
  obtain ⟨field, target, o, operand⟩ := leaf
  subst atPlace
  obtain ⟨⟨path, rfl⟩, takes⟩ := takes
  have allowed : MetadataOperand config.metadataIn o (place.fill v) :=
    metadataOperation_succeeds_iff.1 built
  obtain ⟨label, p, document, -⟩ := (Leaf.params_document built).1 ⟨⟨path, rfl⟩, takes⟩
  have succeeds : Succeeds (place.fill v).toJson :=
    (toJson_succeeds_iff.1 _).2 (jsonOperand_succeeds_iff.1 ⟨p, document⟩)
  obtain ⟨opening, closing, delimited, around⟩ := Place.toJson_fill kept succeeds
  refine ⟨.ofList opening, .ofList closing, by simpa using delimited, fun w m whole' => ?_⟩
  obtain ⟨j, isDocument, digits⟩ := whole'.toJson_eq
  obtain ⟨filled, isFilled, chars⟩ := around w j isDocument
  obtain ⟨takes', allowed'⟩ := takesDocument_fill whole whole' takes allowed
  have built' : Succeeds (Leaf.fragment config ⟨field, .metadata path, o, place.fill w⟩) :=
    metadataOperation_succeeds_iff.2 allowed'
  obtain ⟨label', q, document', params⟩ :=
    (Leaf.params_document built').1 ⟨⟨path, rfl⟩, takes'⟩
  simp only [jsonOperand, isFilled, Except.ok.injEq] at document'
  rw [params, ← document', Json.text, chars, digits, String.ofList_append, String.ofList_append,
    Json.ofList_wholeChars]

end

end Compile

open Compile

/-- What a leaf binds for the whole numbers in its operand. By itself such a number is compared
with, and bound as a parameter that holds it. In a list it is asked for as a member, and bound as
the target demands. In a document it stands in the text with its decimal digits, between characters
that are the same whatever the number is. -/
structure BindsWhole (config : Config) (leaf : Leaf) : Prop where
  compared : ∀ n, leaf.operand.IsWhole n → ¬ leaf.TakesDocument config →
    (∃ c, leaf.operator = .compare c) ∧ ∃ p, leaf.params config = [p] ∧ p.Holds n
  listed : ∀ items, leaf.operand = .list items → (∃ item ∈ items, ∃ n, item.IsWhole n) →
    ¬ leaf.TakesDocument config →
    (leaf.operator = .within ∨ leaf.operator = .without) ∧
      leaf.target.BindsItems items (leaf.params config)
  written : leaf.TakesDocument config → ∀ (place : Place) (v : Value) (n : Int), place.Kept →
    leaf.operand = place.fill v → v.IsWhole n →
    ∃ before after : String, Json.Delimited before.toList after.toList ∧
      leaf.params config = [.json (before ++ toString n ++ after)] ∧
      ∀ (w : Value) (m : Int), w.IsWhole m →
        Leaf.params config { leaf with operand := place.fill w } =
          [.json (before ++ toString m ++ after)]

/-- Whole numbers reach the parameters as they are. The parameters of a compiled filter are, behind
the given ones, those of its leaves, one leaf after another, and each leaf binds the whole numbers
in its operand exactly, over the whole range of signed and unsigned words. -/
theorem whole_numbers_exact {compiler : Compiler} {f : Filter} {given : ParamList} {mode : Mode}
    {s : Statement} (h : compiler.compile f given mode = .ok s) :
    ∃ leaves : List Leaf, (∀ leaf, leaf ∈ leaves ↔ LeafOf compiler.config f.entries leaf) ∧
      s.params.items = given.items ++ leaves.flatMap (Leaf.params compiler.config) ∧
      ∀ leaf ∈ leaves, BindsWhole compiler.config leaf := by
  obtain ⟨leaves, ofFilter, built, params⟩ := compile_params h
  refine ⟨leaves, ofFilter, params, fun leaf mem => ⟨?_, ?_, ?_⟩⟩
  · intro n whole notDocument
    exact Leaf.params_whole (built leaf mem) whole notDocument
  · rintro items isList ⟨item, isItem, n, whole⟩ notDocument
    exact Leaf.params_items (built leaf mem) isList isItem whole notDocument
  · intro takes place v n kept atPlace whole
    obtain ⟨before, after, delimited, digits⟩ :=
      Leaf.params_place (built leaf mem) takes kept atPlace whole
    refine ⟨before, after, delimited, ?_, digits⟩
    have here := digits v n whole
    rwa [← atPlace] at here

/-- Numbers at the ends of the ranges of words, in a comparison, in lists and in a document. -/
def extremes : Filter :=
  ⟨[("m.size", .object [("$gt", .unsigned 18446744073709551615)]),
    ("status", .list [.signed (-9223372036854775808), .unsigned 9223372036854775808]),
    ("parent_id", .list [.signed 9223372036854775807, .string "x"]),
    ("m.k", .object [("$contains", .object [("n", .list [.unsigned 9223372036854775809])])])]⟩

/-- The statement of `extremes`. -/
def extremesStatement : Statement :=
  ⟨"((metadata->'m'->>'size')::numeric > $1) AND (status IN ($2, $3)) AND " ++
      "(parent_id = ANY($4::text[])) AND (metadata->'m'->'k' @> $5::jsonb)",
    ⟨[.unsigned 18446744073709551615, .signed (-9223372036854775808),
      .unsigned 9223372036854775808, .textArray ["9223372036854775807", "x"],
      .json (braced "\"n\":[9223372036854775809]")]⟩⟩

/-- The comparison and the document bind their numbers with all digits. -/
theorem extremes_exact :
    Compiler.default.compile extremes ⟨[]⟩ .condition = .ok extremesStatement ∧
      ∃ comparison document : Leaf,
        LeafOf Compiler.default.config extremes.entries comparison ∧
        LeafOf Compiler.default.config extremes.entries document ∧
        (∃ p, comparison.params Compiler.default.config = [p] ∧ p.Holds 18446744073709551615) ∧
        ∃ before after : String, document.params Compiler.default.config =
          [.json (before ++ toString (9223372036854775809 : Int) ++ after)] := by
  have compiled : Compiler.default.compile extremes ⟨[]⟩ .condition =
      .ok extremesStatement := by decide +kernel
  obtain ⟨leaves, isLeaf, -, each⟩ := whole_numbers_exact compiled
  let size : List String := ["m", "size"]
  let key : List String := ["m", "k"]
  let operand : Value := .object [("n", .list [.unsigned 9223372036854775809])]
  let comparison : Leaf := ⟨pathName "metadata" size, .metadata size, .compare .gt,
    .unsigned 18446744073709551615⟩
  let document : Leaf := ⟨pathName "metadata" key, .metadata key, .contains, operand⟩
  have ofFilter : LeafOf Compiler.default.config extremes.entries comparison := by
    have addressed : Compiler.default.config.target? "m.size" = some (.metadata size) := by
      decide +kernel
    have parsed : Spec.parse "m.size" (.object [("$gt", .unsigned 18446744073709551615)]) =
        .ok (.operator (.compare .gt) (.unsigned 18446744073709551615)) := rfl
    exact .metadata List.mem_cons_self (by decide) addressed (.here parsed rfl)
  have ofFilter' : LeafOf Compiler.default.config extremes.entries document := by
    have addressed : Compiler.default.config.target? "m.k" = some (.metadata key) := by
      decide +kernel
    have parsed : Spec.parse "m.k" (.object [("$contains", operand)]) =
        .ok (.operator .contains operand) := Spec.parse_operator_iff.2 ⟨"$contains", rfl, rfl⟩
    have mem : ("m.k", .object [("$contains", operand)]) ∈ extremes.entries := by
      simp [extremes, operand]
    exact .metadata mem (by decide) addressed (.here parsed rfl)
  have whole : comparison.operand.IsWhole 18446744073709551615 := ⟨by decide, by decide, rfl⟩
  have notDocument : ¬ comparison.TakesDocument Compiler.default.config := by
    rintro ⟨-, takes⟩
    exact takes
  obtain ⟨-, bound⟩ := (each comparison ((isLeaf _).2 ofFilter)).compared _ whole notDocument
  let place : Place := .entry [] "n" (.item [] .here []) []
  have kept : place.Kept := ⟨List.not_mem_nil, trivial⟩
  have whole' : (Value.unsigned 9223372036854775809).IsWhole 9223372036854775809 :=
    ⟨by decide, by decide, rfl⟩
  obtain ⟨before, after, -, text, -⟩ := (each document ((isLeaf _).2 ofFilter')).written
    ⟨⟨key, rfl⟩, trivial⟩ place _ _ kept rfl whole'
  exact ⟨compiled, comparison, document, ofFilter, ofFilter', bound, before, after, text⟩

end FilterSql
