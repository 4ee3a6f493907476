import FilterSql.Proofs.Collections
import FilterSql.Proofs.Compile.Operand
import FilterSql.Proofs.Compile.Text
import FilterSql.Proofs.Simulation
import FilterSql.Proofs.Sql.Likeness

/-!
# Operands have no part in the text

Values are alike if they have the same keys and lengths throughout and scalars of the same kinds,
where strings that spell identifiers are a kind of their own. Filters that are alike compile to the
same text with as many parameters, or are refused alike (`compile_alike`): what is compared in a
statement is found in its parameters only.
-/

set_option autoImplicit false

namespace FilterSql

namespace Value

mutual

/-- Whether two values have the same kinds in the same places: objects the same keys in the same
order, lists the same length, and strings spell an identifier both or neither. -/
def alike : Value → Value → Bool
  | .string s, .string t => (Uuid.ofText? s).isSome == (Uuid.ofText? t).isSome
  | .list xs, .list ys => itemsAlike xs ys
  | .object xs, .object ys => entriesAlike xs ys
  | v, w => v.isScalar && v.kind = w.kind

/-- Whether two lists have the same length, and elements that are alike. -/
def itemsAlike : List Value → List Value → Bool
  | [], [] => true
  | v :: vs, w :: ws => alike v w && itemsAlike vs ws
  | _, _ => false

/-- Whether two lists of entries have the same keys, and values that are alike. -/
def entriesAlike : List (String × Value) → List (String × Value) → Bool
  | [], [] => true
  | (k, v) :: vs, (l, w) :: ws => k == l && alike v w && entriesAlike vs ws
  | _, _ => false

end

/-- Values that are alike have the same kind. -/
theorem kind_eq_of_alike {v w : Value} (h : alike v w = true) : v.kind = w.kind := by
  cases v <;> cases w <;> simp_all [alike, kind, isScalar]

/-- Values that are alike, all of whose numbers are finite. -/
structure Similar (v w : Value) : Prop where
  alike : alike v w = true
  finite : v.IsFinite
  finite' : w.IsFinite

/-- Lists that are alike have elements that are, one by one. -/
theorem Similar.items {xs ys : List Value} (h : Similar (.list xs) (.list ys)) :
    List.Forall₂ Similar xs ys := by
  obtain ⟨sameShape, finite, finite'⟩ := h
  rw [Compile.isFinite_list_iff] at finite finite'
  rw [Value.alike] at sameShape
  induction xs generalizing ys with
  | nil =>
    cases ys with
    | nil => exact .nil
    | cons w ws => cases sameShape
  | cons v vs ih =>
    cases ys with
    | nil => cases sameShape
    | cons w ws =>
      rw [itemsAlike, Bool.and_eq_true] at sameShape
      obtain ⟨first, rest⟩ := List.forall_mem_cons.1 finite
      obtain ⟨first', rest'⟩ := List.forall_mem_cons.1 finite'
      exact .cons ⟨sameShape.1, first, first'⟩ (ih sameShape.2 rest rest')

/-- Lists whose elements are alike, one by one, are alike. -/
theorem similar_list {xs ys : List Value} (h : List.Forall₂ Similar xs ys) :
    Similar (.list xs) (.list ys) := by
  induction h with
  | nil => exact ⟨rfl, nofun, nofun⟩
  | cons first _ ih =>
    have finite := Compile.isFinite_list_iff.1 ih.finite
    have finite' := Compile.isFinite_list_iff.1 ih.finite'
    refine ⟨?_, ?_, ?_⟩
    · rw [Value.alike, itemsAlike, first.alike]
      simpa [Value.alike] using ih.alike
    · exact Compile.isFinite_list_iff.2 (List.forall_mem_cons.2 ⟨first.finite, finite⟩)
    · exact Compile.isFinite_list_iff.2 (List.forall_mem_cons.2 ⟨first.finite', finite'⟩)

/-- Objects that are alike have the same keys, and values that are alike. -/
theorem Similar.entries {xs ys : List (String × Value)} (h : Similar (.object xs) (.object ys)) :
    List.Forall₂ (EntryLike Similar) xs ys := by
  obtain ⟨sameShape, finite, finite'⟩ := h
  rw [Compile.isFinite_object_iff] at finite finite'
  rw [Value.alike] at sameShape
  induction xs generalizing ys with
  | nil =>
    cases ys with
    | nil => exact .nil
    | cons w ws => cases sameShape
  | cons entry vs ih =>
    cases ys with
    | nil => cases sameShape
    | cons entry' ws =>
      obtain ⟨key, v⟩ := entry
      obtain ⟨key', w⟩ := entry'
      simp only [entriesAlike, Bool.and_eq_true, beq_iff_eq] at sameShape
      obtain ⟨⟨rfl, same⟩, others⟩ := sameShape
      obtain ⟨first, rest⟩ := List.forall_mem_cons.1 finite
      obtain ⟨first', rest'⟩ := List.forall_mem_cons.1 finite'
      exact .cons (.mk key ⟨same, first, first'⟩) (ih others rest rest')

/-- To be alike goes by the structure of values, so specifications are parsed alike. -/
theorem similar_structural : Structural Similar :=
  ⟨fun h => kind_eq_of_alike h.alike, Similar.items, Similar.entries⟩

/-- Two values that are alike are both null, or both lists, or neither of them is either. -/
theorem Similar.cases {v w : Value} (h : Similar v w) :
    (v = .null ∧ w = .null) ∨
      (∃ items items', v = .list items ∧ w = .list items' ∧ List.Forall₂ Similar items items') ∨
      (v ≠ .null ∧ w ≠ .null ∧ (∀ items, v ≠ .list items) ∧ ∀ items, w ≠ .list items) := by
  have kind := similar_structural.kind h
  cases v with
  | null =>
    cases w with
    | null => exact .inl ⟨rfl, rfl⟩
    | _ => cases kind
  | list items =>
    cases w with
    | list items' => exact .inr (.inl ⟨items, items', rfl, rfl, h.items⟩)
    | _ => cases kind
  | _ =>
    refine .inr (.inr ⟨nofun, ?_, nofun, ?_⟩)
    · rintro rfl
      cases kind
    · rintro items rfl
      cases kind

end Value

/-- Refusals that are equal, except that the texts that spell no identifier may differ. -/
inductive SameRefusal : CompileError → CompileError → Prop
  | refl (e : CompileError) : SameRefusal e e
  | invalidUuid (field text text' : String) :
    SameRefusal (.invalidUuid field text) (.invalidUuid field text')

namespace Compile

open Value Sql

variable {α β : Type}

/-- Fragments of the same text. -/
abbrev SameText : Fragment → Fragment → Prop := Condition.Alike fun _ _ => True

/-- Steps that agree, whatever they give. -/
abbrev Alongside (x : Except CompileError α) (y : Except CompileError β) : Prop :=
  Agree SameRefusal (fun _ _ => True) x y

/-- Lists of the same length. -/
abbrev SameLength : List α → List β → Prop := List.Forall₂ fun _ _ => True

/-! ## Operands -/

section

variable {field : String} {o : Operator} {v w : Value} (similar : Similar v w)

include similar

/-- Of two values that are alike, both are null or neither. -/
theorem isNull_similar : v.isNull = true ↔ w.isNull = true := by
  rw [isNull, isNull, similar_structural.kind similar]

/-- Of two values that are alike, both are scalars or neither. -/
theorem isScalar_similar : v.isScalar = w.isScalar := by
  rw [isScalar, isScalar, similar_structural.kind similar]

/-- Operands that are alike are scalars alike, or refused alike. -/
theorem scalarOperand_similar : Alongside (scalarOperand field o v) (scalarOperand field o w) := by
  have kind := similar_structural.kind similar
  have hasParam : ∀ v : Value, (Param.ofScalar? v).isSome = v.isScalar := by
    intro v
    cases v <;> rfl
  have same : (Param.ofScalar? v).isSome = (Param.ofScalar? w).isSome := by
    rw [hasParam, hasParam, isScalar_similar similar]
  unfold scalarOperand
  refine agree_ite (isNull_similar similar) (.error (.refl _)) ?_
  cases left : Param.ofScalar? v <;> cases right : Param.ofScalar? w <;> rw [left, right] at same
  · rw [kind]
    exact .error (.refl _)
  · cases same
  · cases same
  · exact .ok trivial

/-- Operands that are alike have texts alike, or are refused alike. -/
theorem textOperand_similar : Alongside (textOperand field o v) (textOperand field o w) := by
  have kind := similar_structural.kind similar
  have hasText : ∀ v : Value, v.toText?.isSome = (v.isScalar && !v.isNull) := by
    intro v
    cases v with
    | bool b => cases b <;> rfl
    | _ => rfl
  have same : v.toText?.isSome = w.toText?.isSome := by
    rw [hasText, hasText, isScalar_similar similar, isNull, isNull, kind]
  unfold textOperand
  cases left : v.toText? <;> cases right : w.toText? <;> rw [left, right] at same
  · rw [kind]
    exact agree_ite (isNull_similar similar) (.error (.refl _)) (.error (.refl _))
  · cases same
  · cases same
  · exact .ok trivial

/-- Operands that are alike are patterns alike, or refused alike. -/
theorem patternOperand_similar {autoWildcard : Bool} :
    Alongside (patternOperand field o autoWildcard v) (patternOperand field o autoWildcard w) := by
  have kind := similar_structural.kind similar
  have refused : ∀ {v : Value}, v.kind ≠ .string → patternOperand field o autoWildcard v =
      .error (.invalidOperand field o (.notString v.kind)) := by
    intro v notString
    cases v with
    | string s => exact absurd rfl notString
    | _ => rfl
  by_cases isString : v.kind = .string
  · cases v with
    | string s =>
      cases w with
      | string t => exact .ok trivial
      | _ => cases kind
    | _ => cases isString
  · rw [refused isString, refused (kind ▸ isString), kind]
    exact .error (.refl _)

/-- Operands that are alike are lists whose elements are alike, or refused alike. -/
theorem listOperand_similar :
    Agree SameRefusal (List.Forall₂ Similar) (listOperand field o v) (listOperand field o w) := by
  have kind := similar_structural.kind similar
  have refused : ∀ {v : Value}, v.kind ≠ .list → listOperand field o v =
      .error (.invalidOperand field o (.notList v.kind)) := by
    intro v notList
    cases v with
    | list items => exact absurd rfl notList
    | _ => rfl
  by_cases isList : v.kind = .list
  · cases v with
    | list xs =>
      cases w with
      | list ys => exact .ok similar.items
      | _ => cases kind
    | _ => cases isList
  · rw [refused isList, refused (kind ▸ isList), kind]
    exact .error (.refl _)

/-- Operands that are alike spell identifiers alike. The refusals may show different values. -/
theorem uuidOperand_similar : Alongside (uuidOperand field v) (uuidOperand field w) := by
  have kind := similar_structural.kind similar
  cases v with
  | string s =>
    cases w with
    | string t =>
      have same : (Uuid.ofText? s).isSome = (Uuid.ofText? t).isSome := by
        simpa [Value.alike] using similar.alike
      unfold uuidOperand
      simp only
      cases left : Uuid.ofText? s <;> cases right : Uuid.ofText? t <;> rw [left, right] at same
      · exact .error (.invalidUuid field s t)
      · cases same
      · cases same
      · exact .ok trivial
    | _ => cases kind
  | _ =>
    cases w with
    | string t => cases kind
    | _ => exact .error (.invalidUuid field _ _)

/-- Operands that are alike are documents alike, since their numbers are finite. -/
theorem jsonOperand_similar : Alongside (jsonOperand field v) (jsonOperand field w) := by
  obtain ⟨p, left⟩ := jsonOperand_succeeds_iff.2 similar.finite
  obtain ⟨q, right⟩ := jsonOperand_succeeds_iff.2 similar.finite'
  rw [left, right]
  exact .ok trivial

end

section

variable {field : String} {o : Operator} {items items' : List Value}
  (similar : List.Forall₂ Similar items items')

include similar

/-- What makes similar lists of what is given for similar elements agrees. -/
theorem mapM_similar {f : Value → Except CompileError α}
    (each : ∀ {v w}, Similar v w → Alongside (f v) (f w)) :
    Agree SameRefusal SameLength (items.mapM f) (items'.mapM f) :=
  agree_mapM similar fun _ _ => each

/-- Text that is written for a list of given length. -/
theorem sameText_mapM {f : Value → Except CompileError α} {make : List α → Fragment}
    (each : ∀ {v w}, Similar v w → Alongside (f v) (f w))
    (sameText : ∀ {as bs : List α}, SameLength as bs → SameText (make as) (make bs)) :
    Agree SameRefusal SameText (items.mapM f >>= fun as => pure (make as))
      (items'.mapM f >>= fun as => pure (make as)) :=
  (mapM_similar similar each).bind fun _ _ same => .ok (sameText same)

end

/-! ## The four builders -/

/-- A condition has the text that it has. -/
theorem sameText_refl (c : Fragment) : SameText c c := piecesAlike_refl (fun _ => trivial) _

/-- A term has the text that it has. -/
theorem sameTerm_refl (t : Term Param) : t.Alike (fun _ _ => True) t :=
  piecesAlike_refl (fun _ => trivial) _

/-- What is written for a list that may be empty. -/
theorem sameText_orConstant {as : List α} {bs : List β} (same : SameLength as bs) (truth : Bool)
    {c c' : Fragment} (other : SameText c c') :
    SameText (if as.isEmpty = true then .constant truth else c)
      (if bs.isEmpty = true then .constant truth else c') := by
  cases same with
  | nil => exact sameText_refl _
  | cons _ _ => exact other

/-- Arrays of equally many identifiers have the same text. -/
theorem sameTerm_uuidArray {ids ids' : List Uuid} (same : SameLength ids ids') :
    (uuidArray ids).Alike (fun _ _ => True) (uuidArray ids') := by
  unfold uuidArray
  cases same with
  | nil => exact sameTerm_refl _
  | cons first rest =>
    apply Term.Alike.cast
    apply Term.alike_array
    exact List.forall₂_map_left_iff.2 (List.forall₂_map_right_iff.2 (.cons first rest))

/-- What an operator asks of the collections for a list of identifiers has a text that depends on
the number of them only. -/
theorem collectionFragment_sameText (o : Operator) {ids ids' : List Uuid}
    (same : SameLength ids ids') :
    SameText (collectionFragment o ids) (collectionFragment o ids') := by
  have relation (r : Relation) :
      SameText (.test (.relation collectionTerm r (uuidArray ids)))
        (.test (.relation collectionTerm r (uuidArray ids'))) :=
    alike_relation (sameTerm_refl _) r (sameTerm_uuidArray same)
  cases o with
  | compare c => exact relation (.compare c)
  | without => exact sameText_orConstant same true (relation .overlaps).not
  | contains => exact sameText_orConstant same true (relation .includes)
  | pattern p => exact sameText_orConstant same false (relation .overlaps)
  | within => exact sameText_orConstant same false (relation .overlaps)
  | overlap => exact sameText_orConstant same false (relation .overlaps)

section

variable {field : String} {o : Operator} {v w : Value} (similar : Similar v w)

include similar

/-- Operands that are alike give the same text on a plain column, or the same refusal. -/
theorem columnOperation_similar {config : Config} {name : String} :
    Agree SameRefusal SameText (columnOperation config field name o v)
      (columnOperation config field name o w) := by
  have param : ∀ (r : Relation) (p q : Param),
      SameText (.test (.relation (.column name) r (.param p)))
        (.test (.relation (.column name) r (.param q))) :=
    fun r p q => alike_relation (sameTerm_refl _) r (Term.alike_param trivial)
  have within (make : List Param → Fragment)
      (sameText : ∀ {ps qs : List Param}, SameLength ps qs → SameText (make ps) (make qs)) :
      Agree SameRefusal SameText
        (listOperand field o v >>= fun items =>
          items.mapM (scalarOperand field o) >>= fun ps => pure (make ps))
        (listOperand field o w >>= fun items =>
          items.mapM (scalarOperand field o) >>= fun ps => pure (make ps)) :=
    (listOperand_similar similar).bind fun items items' related =>
      sameText_mapM related scalarOperand_similar sameText
  cases o with
  | compare c =>
    rw [columnOperation, columnOperation]
    refine agree_ite (by simp [isNull_similar similar]) (.ok (sameText_refl _)) ?_
    exact (scalarOperand_similar similar).bind fun p q _ => .ok (param _ p q)
  | pattern p =>
    exact (patternOperand_similar similar).bind fun s t _ => .ok (param _ _ _)
  | within =>
    exact within _ fun same => sameText_orConstant same false (alike_inList (sameTerm_refl _) same)
  | without =>
    exact within _ fun same =>
      sameText_orConstant same true (alike_notInList (sameTerm_refl _) same)
  | overlap => exact .error (.refl _)
  | contains => exact .error (.refl _)

/-- Operands that are alike give the same text on the collections, or the same refusal up to the
value that it shows. -/
theorem collectionOperation_similar :
    Agree SameRefusal SameText (collectionOperation field o v) (collectionOperation field o w) := by
  rcases similar.cases with ⟨rfl, rfl⟩ | ⟨items, items', rfl, rfl, each⟩ |
    ⟨notNull, notNull', notList, notList'⟩
  · refine (Agree.of_refl SameRefusal.refl _).mono ?_
    rintro c _ rfl
    exact sameText_refl c
  · by_cases takesList : o ∈ collectionListOperators
    · rw [collectionOperation_list takesList, collectionOperation_list takesList]
      exact (mapM_similar each uuidOperand_similar).map fun _ _ => collectionFragment_sameText o
    · rw [collectionOperation_list_refused takesList, collectionOperation_list_refused takesList]
      exact .error (.refl _)
  · by_cases takesOne : ∃ onList, (o, onList) ∈ singleOperators
    · obtain ⟨onList, mem⟩ := takesOne
      rw [collectionOperation_single mem notNull notList,
        collectionOperation_single mem notNull' notList']
      exact (uuidOperand_similar similar).map fun id id' _ =>
        collectionFragment_sameText onList (.cons trivial .nil)
    · rw [collectionOperation_single_refused takesOne notNull notList,
        collectionOperation_single_refused takesOne notNull' notList',
        similar_structural.kind similar]
      exact .error (.refl _)

/-- The parent is compared in the same text with operands that are alike. -/
theorem parentOperand_similar :
    Agree SameRefusal (Term.Alike fun _ _ => True) (parentOperand field o v)
      (parentOperand field o w) := by
  -- The cast depends on whether the value is refused as an identifier, and so are both or neither.
  have asUuid : Alongside (uuidOperand field v) (uuidOperand field w) := uuidOperand_similar similar
  unfold parentOperand
  generalize uuidOperand field v = x at asUuid
  generalize uuidOperand field w = y at asUuid
  cases asUuid with
  | ok => exact .ok ((Term.alike_param trivial).cast .uuid)
  | error => exact (scalarOperand_similar similar).bind fun p q _ => .ok (Term.alike_param trivial)

end

/-- Lists that are alike are cast to the same type, as identifiers or as texts. -/
theorem parentArray_similar {field : String} {o : Operator} {items items' : List Value}
    (similar : List.Forall₂ Similar items items') :
    Agree SameRefusal (Term.Alike fun _ _ => True) (parentArray field o items)
      (parentArray field o items') := by
  have asUuids : Agree SameRefusal SameLength (items.mapM (uuidOperand field))
      (items'.mapM (uuidOperand field)) := mapM_similar similar uuidOperand_similar
  unfold parentArray
  generalize items.mapM (uuidOperand field) = x at asUuids
  generalize items'.mapM (uuidOperand field) = y at asUuids
  cases asUuids with
  | ok => exact .ok ((Term.alike_param trivial).cast .uuidArray)
  | error =>
    exact (mapM_similar similar textOperand_similar).bind fun _ _ _ =>
      .ok ((Term.alike_param trivial).cast .textArray)

/-- Of two lists that are alike, both are empty or neither. -/
theorem isEmpty_similar {items items' : List Value} (similar : List.Forall₂ Similar items items') :
    items.isEmpty = true ↔ items'.isEmpty = true := by
  rw [List.isEmpty_iff_length_eq_zero, List.isEmpty_iff_length_eq_zero, similar.length_eq]

/-- Lists that are alike give the same membership on a path. -/
theorem metadataMembership_similar {config : Config} {field : String} {path : List String}
    {o : Operator} {negated : Bool} {items items' : List Value}
    (similar : List.Forall₂ Similar items items') :
    Agree SameRefusal SameText (metadataMembership config field path o negated items)
      (metadataMembership config field path o negated items') := by
  unfold metadataMembership
  cases config.metadataIn with
  | placeholderList =>
    refine (mapM_similar similar textOperand_similar).bind fun texts texts' same => .ok ?_
    have params : SameLength (texts.map Param.text) (texts'.map Param.text) :=
      List.forall₂_map_left_iff.2 (List.forall₂_map_right_iff.2 same)
    cases negated with
    | true => exact alike_notInList (sameTerm_refl _) params
    | false => exact alike_inList (sameTerm_refl _) params
  | jsonArrayElements =>
    refine (jsonOperand_similar (similar_list similar)).bind fun p q _ => .ok ?_
    have membership : SameText
        (.test (.inDocument (jsonAccessor config.jsonColumn path) (.cast (.param p) .jsonb)))
        (.test (.inDocument (jsonAccessor config.jsonColumn path) (.cast (.param q) .jsonb))) :=
      alike_inDocument (sameTerm_refl _) ((Term.alike_param trivial).cast .jsonb)
    cases negated with
    | true => exact membership.not
    | false => exact membership

section

variable {field : String} {o : Operator} {v w : Value} (similar : Similar v w)

include similar

/-- Operands that are alike give the same text on the parent, or the same refusal. -/
theorem parentOperation_similar :
    Agree SameRefusal SameText (parentOperation field o v) (parentOperation field o w) := by
  have compared (c : Comparison) (null : Fragment) :
      Agree SameRefusal SameText
        (if v.isNull then .ok null
          else parentOperand field o v >>= fun term =>
            pure (.test (.relation parentTerm (.compare c) term)))
        (if w.isNull then .ok null
          else parentOperand field o w >>= fun term =>
            pure (.test (.relation parentTerm (.compare c) term))) :=
    agree_ite (isNull_similar similar) (.ok (sameText_refl _)) <|
      (parentOperand_similar similar).bind fun _ _ same =>
        .ok (alike_relation (sameTerm_refl _) _ same)
  have within (empty : Fragment) (make : Term Param → Fragment)
      (sameText : ∀ {t t' : Term Param}, t.Alike (fun _ _ => True) t' →
        SameText (make t) (make t')) :
      Agree SameRefusal SameText
        (listOperand field o v >>= fun items => if items.isEmpty = true then pure empty
          else parentArray field o items >>= fun term => pure (make term))
        (listOperand field o w >>= fun items => if items.isEmpty = true then pure empty
          else parentArray field o items >>= fun term => pure (make term)) :=
    (listOperand_similar similar).bind fun items items' related =>
      agree_ite (isEmpty_similar related) (.ok (sameText_refl _)) <|
        (parentArray_similar related).bind fun _ _ same => .ok (sameText same)
  cases o with
  | compare c =>
    cases c with
    | eq => exact compared .eq _
    | ne => exact compared .ne _
    | _ => exact .error (.refl _)
  | pattern p => exact .error (.refl _)
  | within => exact within _ _ fun same => alike_inArray (sameTerm_refl _) same
  | without => exact within _ _ fun same => alike_notInArray (sameTerm_refl _) same
  | overlap => exact .error (.refl _)
  | contains => exact .error (.refl _)

/-- Operands that are alike give the same text on a path, or the same refusal. -/
theorem metadataOperation_similar {config : Config} {path : List String} :
    Agree SameRefusal SameText (metadataOperation config path o v)
      (metadataOperation config path o w) := by
  have kind := similar_structural.kind similar
  have document (r : Relation) (p q : Param) :
      SameText
        (.test (.relation (jsonAccessor config.jsonColumn path) r (.cast (.param p) .jsonb)))
        (.test (.relation (jsonAccessor config.jsonColumn path) r (.cast (.param q) .jsonb))) :=
    alike_relation (sameTerm_refl _) r ((Term.alike_param trivial).cast .jsonb)
  have within (empty : Fragment) (negated : Bool) :
      Agree SameRefusal SameText
        (listOperand (pathName config.jsonColumn path) o v >>= fun items =>
          if items.isEmpty = true then pure empty
          else metadataMembership config (pathName config.jsonColumn path) path o negated items)
        (listOperand (pathName config.jsonColumn path) o w >>= fun items =>
          if items.isEmpty = true then pure empty
          else metadataMembership config (pathName config.jsonColumn path) path o negated items) :=
    (listOperand_similar similar).bind fun items items' related =>
      agree_ite (isEmpty_similar related) (.ok (sameText_refl _))
        (metadataMembership_similar related)
  cases o with
  | compare c =>
    rw [metadataOperation, metadataOperation]
    refine agree_ite (by simp [isNull_similar similar]) (.ok (sameText_refl _)) ?_
    refine agree_ite (by simp [isScalar_similar similar]) ?_ ?_
    · exact (jsonOperand_similar similar).bind fun p q _ => .ok (document _ p q)
    · refine (scalarOperand_similar similar).bind fun p q _ => .ok ?_
      have typed : (typedAccessor config.jsonColumn path v : Term Param) =
          typedAccessor config.jsonColumn path w := by
        rw [typedAccessor, typedAccessor, kind]
      rw [typed]
      exact alike_relation (sameTerm_refl _) _ (Term.alike_param trivial)
  | pattern p =>
    exact (patternOperand_similar similar).bind fun s t _ =>
      .ok (alike_relation (sameTerm_refl _) _ (Term.alike_param trivial))
  | within => exact within _ false
  | without => exact within _ true
  | overlap => exact .error (.refl _)
  | contains => exact (jsonOperand_similar similar).bind fun p q _ => .ok (document _ p q)

end

/-- Leaves with similar operands are written alike. -/
theorem similar_simulates (config : Config) :
    Simulates config config Similar SameRefusal SameText where
  structural := similar_structural
  refl := .refl
  jsonColumn := rfl
  target _ := rfl
  tooDeep := .refl _
  leaf field target o v w similar := by
    cases target with
    | column name => exact columnOperation_similar similar
    | collection => exact collectionOperation_similar similar
    | parent => exact parentOperation_similar similar
    | metadata path => exact metadataOperation_similar similar
  all := Condition.alike_all
  group := Condition.alike_group

end Compile

open Compile Value Sql

/-! ## Statements -/

/-- Filters that are alike, with finite numbers only, compile behind equally many parameters to
statements of the same text with equally many parameters, or are refused alike. -/
theorem compile_alike {compiler : Compiler} {f f' : Filter} {given given' : ParamList} {mode : Mode}
    (size : given.size = given'.size) (alike : f.toValue.alike f'.toValue = true)
    (finite : f.toValue.IsFinite) (finite' : f'.toValue.IsFinite) :
    Agree SameRefusal (fun s s' => s.sql = s'.sql ∧ s.params.size = s'.params.size)
      (compiler.compile f given mode) (compiler.compile f' given' mode) := by
  have entries : List.Forall₂ (EntryLike Similar) f.entries f'.entries :=
    Similar.entries ⟨alike, finite, finite'⟩
  have conditions := filterCondition_agree (similar_simulates compiler.config) rfl entries
  have isEmpty : f.isEmpty = f'.isEmpty := by
    rw [Filter.isEmpty, Filter.isEmpty, Bool.eq_iff_iff, List.isEmpty_iff_length_eq_zero,
      List.isEmpty_iff_length_eq_zero, entries.length_eq]
  have next : given.next = given'.next := by rw [ParamList.next, ParamList.next, size]
  rw [compile_eq, compile_eq]
  refine conditions.map fun c c' sameText => ?_
  have pieces : PiecesAlike (fun _ _ => True) (statementPieces mode f c)
      (statementPieces mode f' c') := by
    cases mode with
    | condition => exact sameText
    | whereClause =>
      rw [statementPieces, statementPieces, isEmpty]
      split
      · exact .nil
      · exact sameText.code "WHERE "
  constructor
  · rw [statementOf, statementOf, pieces.charsFrom_eq, next]
  · have holes := pieces.holeValues.length_eq
    simp only [statementOf, ParamList.size, List.length_append, holes]
    exact congrArg (· + _) size

/-- A search with a nested path, a list of identifiers and a list for the parent. -/
def search (size : Value) (id parent text : String) : Filter :=
  ⟨[("a", .object [("size", size), ("text", .object [("$ilike", .string text)])]),
    ("$or", .list [.object [("collection_id", .list [.string id])],
      .object [("parent_id", .list [.string parent, .string text])]])]⟩

/-- A search with short texts, none of them with a quote. -/
def firstSearch : Filter := search (.signed 7) "00000000-0000-0000-0000-000000000000" "x" "%"

/-- A search that is alike, with another spelling of an identifier and with quotes. -/
def secondSearch : Filter :=
  search (.unsigned 9000) "ffffffffffffffffffffffffffffffff" "' OR $1" "it's"

/-- The statement of `firstSearch` behind one parameter. -/
def firstStatement : Statement :=
  ⟨"((collection_ids && ARRAY[$2]::uuid[]) OR (parent_id = ANY($3::text[]))) AND " ++
      "(((metadata->'a'->>'size')::numeric = $4) AND (metadata->'a'->>'text' ILIKE $5))",
    ⟨[.null, .text "00000000-0000-0000-0000-000000000000", .textArray ["x", "%"], .signed 7,
      .text "%"]⟩⟩

/-- Neither the representation of a number nor what a text says shows in the statement. -/
theorem secondSearch_alike :
    firstSearch.toValue.alike secondSearch.toValue = true ∧ firstSearch.toValue.IsFinite ∧
      secondSearch.toValue.IsFinite ∧
      Compiler.default.compile firstSearch ⟨[.null]⟩ .condition = .ok firstStatement ∧
      ∃ s, Compiler.default.compile secondSearch ⟨[.bool true]⟩ .condition = .ok s ∧
        s.sql = firstStatement.sql ∧ s.params.size = 5 := by
  have alike : firstSearch.toValue.alike secondSearch.toValue = true := by decide +kernel
  have finite : firstSearch.toValue.IsFinite := nofun
  have finite' : secondSearch.toValue.IsFinite := nofun
  have compiled : Compiler.default.compile firstSearch ⟨[.null]⟩ .condition =
      .ok firstStatement := by decide +kernel
  have agree : Agree SameRefusal (fun s s' => s.sql = s'.sql ∧ s.params.size = s'.params.size)
      (Compiler.default.compile firstSearch ⟨[.null]⟩ .condition)
      (Compiler.default.compile secondSearch ⟨[.bool true]⟩ .condition) :=
    compile_alike rfl alike finite finite'
  rw [compiled] at agree
  generalize second : Compiler.default.compile secondSearch ⟨[.bool true]⟩ .condition = x at agree
  cases agree with
  | ok same => exact ⟨alike, finite, finite', compiled, _, rfl, same.1.symm, same.2.symm⟩

end FilterSql
