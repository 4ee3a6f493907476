import FilterSql.Proofs.Compile.Leaf
import FilterSql.Proofs.Sql.Form

/-!
# The form of what the compiler writes

The fragment of a leaf mentions the column of its target, and quotes the segments of its path
and two constants only (`Leaf.fragment_over`). It is chained (`Leaf.fragment_chained`). From the
leaves both facts pass to the condition of a filter.
-/

set_option autoImplicit false

namespace FilterSql.Compile

open Sql

/-! ## Accessors -/

section

variable {α : Type} {name : String} {path : List String} {column literal : String → Prop}

/-- The accessor of a document mentions its column and the segments of its path. -/
theorem over_jsonAccessor (isColumn : column name) (segments : ∀ s ∈ path, literal s) :
    (jsonAccessor name path : Term α).Over column literal := by
  have step : ∀ (base : Term α) (path : List String), base.Over column literal →
      (∀ s ∈ path, literal s) → (path.foldl .member base).Over column literal := by
    intro base path
    induction path generalizing base with
    | nil => exact fun h _ => h
    | cons s rest ih =>
      intro h segments
      apply ih
      · exact ⟨h, segments s List.mem_cons_self⟩
      · exact fun s' mem => segments s' (List.mem_cons_of_mem _ mem)
  exact step _ path isColumn segments

/-- The accessor of a text mentions its column and the segments of its path. -/
theorem over_textAccessor (isColumn : column name) (segments : ∀ s ∈ path, literal s) :
    (textAccessor name path : Term α).Over column literal := by
  unfold textAccessor
  split
  · exact isColumn
  · rename_i key last
    refine ⟨over_jsonAccessor isColumn fun s mem => segments s (List.dropLast_subset path mem), ?_⟩
    exact segments key (List.mem_of_getLast? last)

/-- A cast mentions nothing more. -/
theorem over_typedAccessor (isColumn : column name) (segments : ∀ s ∈ path, literal s)
    {operand : Value} : (typedAccessor name path operand : Term α).Over column literal := by
  unfold typedAccessor
  split <;> exact over_textAccessor isColumn segments

end

/-! ## The four builders -/

/-- A fragment that mentions only such columns, quotes only such texts, and is chained. -/
def HasForm (column literal : String → Prop) (c : Fragment) : Prop :=
  c.Over column literal ∧ c.Chained

section

variable {column literal : String → Prop}

/-- A constant mentions and quotes nothing. -/
theorem hasForm_constant (truth : Bool) : HasForm column literal (.constant truth) :=
  ⟨trivial, trivial⟩

/-- A test has the form of its terms, and is chained as it stands. -/
theorem hasForm_test {t : Test Param} (h : t.Over column literal) :
    HasForm column literal (.test t) := ⟨h, trivial⟩

/-- A constant may stand in place of a fragment. -/
theorem HasForm.orConstant {c : Fragment} (h : HasForm column literal c) (truth : Bool) {p : Prop}
    [Decidable p] : HasForm column literal (if p then .constant truth else c) := by
  split
  · exact hasForm_constant truth
  · exact h

/-- A condition on a plain column mentions the column and quotes nothing. -/
theorem columnOperation_form {config : Config} {field name : String} {o : Operator}
    {operand : Value} :
    Gives (columnOperation config field name o operand) (HasForm (· = name) fun _ => False) := by
  cases o with
  | compare comparison =>
    rw [columnOperation]
    refine gives_ite (gives_ok (hasForm_test ?_)) ?_
    · split <;> rfl
    · exact gives_bind_of_forall fun p => gives_pure (hasForm_test ⟨rfl, trivial⟩)
  | pattern p => exact gives_bind_of_forall fun text => gives_pure (hasForm_test ⟨rfl, trivial⟩)
  | within =>
    refine gives_bind_of_forall fun items => gives_bind_of_forall fun values => gives_pure ?_
    refine HasForm.orConstant ?_ false
    exact hasForm_test rfl
  | without =>
    refine gives_bind_of_forall fun items => gives_bind_of_forall fun values => gives_pure ?_
    refine HasForm.orConstant ?_ true
    exact hasForm_test rfl
  | overlap => exact gives_error _
  | contains => exact gives_error _

/-- An array of identifiers quotes nothing but the empty array. -/
theorem over_uuidArray (ids : List Uuid) : (uuidArray ids).Over column (· = noElements) := by
  unfold uuidArray
  split
  · rfl
  · trivial

/-- A condition on the collections mentions their column and quotes nothing but the empty array. -/
theorem collectionOperation_form {field : String} {o : Operator} {operand : Value} :
    Gives (collectionOperation field o operand)
      (HasForm (· = Target.collectionColumn) (· = noElements)) := by
  have relation : ∀ r ids, HasForm (· = Target.collectionColumn) (· = noElements)
      (.test (.relation collectionTerm r (uuidArray ids))) :=
    fun _ ids => hasForm_test ⟨rfl, over_uuidArray ids⟩
  have negated : ∀ ids, HasForm (· = Target.collectionColumn) (· = noElements)
      (.not (overlapTest ids)) := fun ids => relation .overlaps ids
  unfold collectionOperation
  split
  · exact gives_ok (hasForm_test rfl)
  · exact gives_ok (hasForm_test rfl)
  · exact gives_bind_of_forall fun ids => gives_pure (relation _ ids)
  · exact gives_bind_of_forall fun ids => gives_pure (relation _ ids)
  · exact gives_bind_of_forall fun id => gives_pure (relation _ [id])
  · exact gives_bind_of_forall fun id => gives_pure (negated [id])
  · refine gives_bind_of_forall fun items => gives_bind_of_forall fun ids => gives_pure ?_
    exact (relation _ ids).orConstant false
  · refine gives_bind_of_forall fun items => gives_bind_of_forall fun ids => gives_pure ?_
    exact (relation _ ids).orConstant false
  · refine gives_bind_of_forall fun items => gives_bind_of_forall fun ids => gives_pure ?_
    exact (negated ids).orConstant true
  · exact gives_bind_of_forall fun ids => gives_pure ((relation _ ids).orConstant true)
  · exact gives_bind_of_forall fun id => gives_pure (relation _ [id])
  · exact gives_error _
  · exact gives_error _

/-- What the parent is compared with mentions no column and quotes nothing. -/
theorem parentOperand_over {field : String} {o : Operator} {operand : Value} :
    Gives (parentOperand field o operand) (·.Over column literal) := by
  unfold parentOperand
  split
  · exact gives_ok trivial
  · exact gives_bind_of_forall fun p => gives_pure trivial

/-- The array of a list mentions no column and quotes nothing. -/
theorem parentArray_over {field : String} {o : Operator} {items : List Value} :
    Gives (parentArray field o items) (·.Over column literal) := by
  unfold parentArray
  split
  · exact gives_ok trivial
  · exact gives_bind_of_forall fun texts => gives_pure trivial

/-- A condition on the parent mentions its column and quotes nothing. -/
theorem parentOperation_form {field : String} {o : Operator} {operand : Value} :
    Gives (parentOperation field o operand)
      (HasForm (· = Target.parentField) fun _ => False) := by
  unfold parentOperation
  split
  · refine gives_ite (gives_ok (hasForm_test rfl)) ?_
    exact gives_bind parentOperand_over fun term isOver =>
      gives_pure (hasForm_test ⟨rfl, isOver⟩)
  · refine gives_ite (gives_ok (hasForm_test rfl)) ?_
    exact gives_bind parentOperand_over fun term isOver =>
      gives_pure (hasForm_test ⟨rfl, isOver⟩)
  · refine gives_bind_of_forall fun items => gives_ite ?_ ?_
    · exact gives_pure (hasForm_constant false)
    · exact gives_bind parentArray_over fun term isOver =>
        gives_pure (hasForm_test ⟨rfl, isOver⟩)
  · refine gives_bind_of_forall fun items => gives_ite ?_ ?_
    · exact gives_pure (hasForm_constant true)
    · exact gives_bind parentArray_over fun term isOver =>
        gives_pure (hasForm_test ⟨rfl, isOver⟩)
  · exact gives_error _

end

section

variable {config : Config} {path : List String}

/-- The form of conditions on a path: they mention the JSON column, and quote the segments of the
path and the JSON null. -/
def HasPathForm (config : Config) (path : List String) : Fragment → Prop :=
  HasForm (· = config.jsonColumn) fun text => text ∈ path ∨ text = "null"

/-- Membership on a path has the form of conditions on it. -/
theorem metadataMembership_form {field : String} {o : Operator} {negated : Bool}
    {items : List Value} :
    Gives (metadataMembership config field path o negated items) (HasPathForm config path) := by
  unfold metadataMembership
  split
  · refine gives_bind_of_forall fun texts => gives_pure ?_
    have overText : (textAccessor config.jsonColumn path : Term Param).Over (· = config.jsonColumn)
        fun text => text ∈ path ∨ text = "null" := over_textAccessor rfl fun s mem => .inl mem
    cases negated
    · exact hasForm_test overText
    · exact hasForm_test overText
  · refine gives_bind_of_forall fun p => gives_pure ?_
    have overJson : (jsonAccessor config.jsonColumn path : Term Param).Over (· = config.jsonColumn)
        fun text => text ∈ path ∨ text = "null" := over_jsonAccessor rfl fun s mem => .inl mem
    cases negated
    · exact hasForm_test ⟨overJson, trivial⟩
    · exact ⟨⟨overJson, trivial⟩, trivial⟩

/-- A condition on a path mentions the JSON column, and quotes the segments of the path and the
JSON null. -/
theorem metadataOperation_form {o : Operator} {operand : Value} :
    Gives (metadataOperation config path o operand) (HasPathForm config path) := by
  have overJson : (jsonAccessor config.jsonColumn path : Term Param).Over (· = config.jsonColumn)
      fun text => text ∈ path ∨ text = "null" := over_jsonAccessor rfl fun s mem => .inl mem
  have overText : (textAccessor config.jsonColumn path : Term Param).Over (· = config.jsonColumn)
      fun text => text ∈ path ∨ text = "null" := over_textAccessor rfl fun s mem => .inl mem
  have overTyped : (typedAccessor config.jsonColumn path operand : Term Param).Over
      (· = config.jsonColumn) fun text => text ∈ path ∨ text = "null" := by
    refine over_typedAccessor ?_ ?_
    · rfl
    · exact fun s mem => .inl mem
  cases o with
  | compare comparison =>
    simp only [metadataOperation]
    refine gives_ite (gives_ok ?_) (gives_ite ?_ ?_)
    · -- The tests for the JSON null are the only fragments with a connective of their own.
      split
      · exact ⟨⟨overJson, overJson, .inr rfl⟩, fun _ => rfl, fun _ _ => rfl, trivial, trivial⟩
      · exact ⟨⟨overJson, overJson, .inr rfl⟩, fun _ => rfl, fun _ _ => rfl, trivial, trivial⟩
    · exact gives_bind_of_forall fun p => gives_pure (hasForm_test ⟨overJson, trivial⟩)
    · exact gives_bind_of_forall fun p => gives_pure (hasForm_test ⟨overTyped, trivial⟩)
  | pattern p =>
    exact gives_bind_of_forall fun text => gives_pure (hasForm_test ⟨overText, trivial⟩)
  | within =>
    refine gives_bind_of_forall fun items => gives_ite ?_ ?_
    · exact gives_pure (hasForm_constant false)
    · exact metadataMembership_form
  | without =>
    refine gives_bind_of_forall fun items => gives_ite ?_ ?_
    · exact gives_pure (hasForm_constant true)
    · exact metadataMembership_form
  | overlap => exact gives_error _
  | contains => exact gives_bind_of_forall fun p => gives_pure (hasForm_test ⟨overJson, trivial⟩)

end

/-! ## Leaves and filters -/

/-- The texts that a leaf may quote: the segments of its path, and the two constants. -/
def Leaf.Quotes (leaf : Leaf) (text : String) : Prop :=
  text ∈ leaf.target.path ∨ text = "null" ∨ text = noElements

/-- The fragment of a leaf mentions the column of its target only, and quotes only what the leaf
may quote. -/
theorem Leaf.fragment_over {config : Config} {leaf : Leaf} {c : Fragment}
    (h : leaf.fragment config = .ok c) :
    c.Over (· = leaf.target.columnName config.jsonColumn) leaf.Quotes := by
  obtain ⟨field, target, o, operand⟩ := leaf
  cases target with
  | column name => exact (columnOperation_form c h).1.mono (fun _ same => same) fun _ => False.elim
  | collection =>
    exact (collectionOperation_form c h).1.mono (fun _ same => same) fun _ same => .inr (.inr same)
  | parent => exact (parentOperation_form c h).1.mono (fun _ same => same) fun _ => False.elim
  | metadata path =>
    refine (metadataOperation_form c h).1.mono (fun _ same => same) fun text quoted => ?_
    rcases quoted with segment | null
    · exact .inl segment
    · exact .inr (.inl null)

/-- The fragment of a leaf is chained. -/
theorem Leaf.fragment_chained {config : Config} {leaf : Leaf} {c : Fragment}
    (h : leaf.fragment config = .ok c) : c.Chained := by
  obtain ⟨field, target, o, operand⟩ := leaf
  cases target with
  | column name => exact (columnOperation_form c h).2
  | collection => exact (collectionOperation_form c h).2
  | parent => exact (parentOperation_form c h).2
  | metadata path => exact (metadataOperation_form c h).2

end FilterSql.Compile
