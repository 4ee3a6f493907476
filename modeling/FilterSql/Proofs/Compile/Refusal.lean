import FilterSql.Proofs.Compile.Leaf

/-!
# Why leaves are refused

A leaf is refused for its operator or its operand, and the refusal names the field that the leaf
was given for (`Leaf.fragment_refuses`). So the limit of nesting has no part in a leaf: it is
looked at where groups are joined and paths are continued, and nowhere else.
-/

set_option autoImplicit false

namespace FilterSql

/-- The refusals that are about the operator of a field or its operand. -/
inductive CompileError.OnOperand (field : String) : CompileError → Prop
  | unsupportedOperator (o : Operator) (fieldClass : FieldClass) :
    OnOperand field (.unsupportedOperator field o fieldClass)
  | invalidOperand (o : Operator) (fault : OperandFault) :
    OnOperand field (.invalidOperand field o fault)
  | invalidUuid (value : String) : OnOperand field (.invalidUuid field value)
  | notSerializable (cause : NonFinite) : OnOperand field (.notSerializable field cause)

namespace Compile

open Sql CompileError

section

variable {field : String} {o : Operator} {v : Value}

/-! ## Operands -/

/-- A scalar is refused under the name of its field. -/
theorem scalarOperand_refuses : Refuses (scalarOperand field o v) (OnOperand field) := by
  unfold scalarOperand
  apply refuses_ite
  · exact refuses_error (.invalidOperand o _)
  · split
    · exact refuses_ok _
    · exact refuses_error (.invalidOperand o _)

/-- A scalar that is bound as text is refused under the name of its field. -/
theorem textOperand_refuses : Refuses (textOperand field o v) (OnOperand field) := by
  unfold textOperand
  split
  · exact refuses_ok _
  · apply refuses_ite
    · exact refuses_error (.invalidOperand o _)
    · exact refuses_error (.invalidOperand o _)

/-- A pattern is refused under the name of its field. -/
theorem patternOperand_refuses {autoWildcard : Bool} :
    Refuses (patternOperand field o autoWildcard v) (OnOperand field) := by
  unfold patternOperand
  split
  · exact refuses_ok _
  · exact refuses_error (.invalidOperand o _)

/-- A list is refused under the name of its field. -/
theorem listOperand_refuses : Refuses (listOperand field o v) (OnOperand field) := by
  unfold listOperand
  split
  · exact refuses_ok _
  · exact refuses_error (.invalidOperand o _)

/-- An identifier is refused under the name of its field. -/
theorem uuidOperand_refuses : Refuses (uuidOperand field v) (OnOperand field) := by
  unfold uuidOperand
  split
  · split
    · exact refuses_ok _
    · exact refuses_error (.invalidUuid _)
  · exact refuses_error (.invalidUuid _)

/-- A document is refused under the name of its field. -/
theorem jsonOperand_refuses : Refuses (jsonOperand field v) (OnOperand field) := by
  unfold jsonOperand
  split
  · exact refuses_ok _
  · exact refuses_error (.notSerializable _)

/-! ## The four builders -/

/-- A condition on a plain column is refused for its operator or its operand. -/
theorem columnOperation_refuses {config : Config} {name : String} :
    Refuses (columnOperation config field name o v) (OnOperand field) := by
  have members : Refuses (listOperand field o v >>= fun items =>
      items.mapM (scalarOperand field o)) (OnOperand field) :=
    listOperand_refuses.bind fun items _ => refuses_mapM fun item _ => scalarOperand_refuses
  cases o with
  | compare c =>
    rw [columnOperation]
    apply refuses_ite
    · exact refuses_ok _
    · exact scalarOperand_refuses.bind fun p _ => refuses_pure _
  | pattern p => exact patternOperand_refuses.bind fun text _ => refuses_pure _
  | within =>
    rw [columnOperation, ← bind_assoc]
    exact members.bind fun values _ => refuses_pure _
  | without =>
    rw [columnOperation, ← bind_assoc]
    exact members.bind fun values _ => refuses_pure _
  | overlap => exact refuses_error (.unsupportedOperator _ _)
  | contains => exact refuses_error (.unsupportedOperator _ _)

/-- A condition on the collections is refused for its operator or its operand. -/
theorem collectionOperation_refuses :
    Refuses (collectionOperation field o v) (OnOperand field) := by
  have ids : ∀ items : List Value, Refuses (items.mapM (uuidOperand field)) (OnOperand field) :=
    fun items => refuses_mapM fun item _ => uuidOperand_refuses
  unfold collectionOperation
  split
  · exact refuses_ok _
  · exact refuses_ok _
  · exact (ids _).bind fun ids _ => refuses_pure _
  · exact (ids _).bind fun ids _ => refuses_pure _
  · exact uuidOperand_refuses.bind fun id _ => refuses_pure _
  · exact uuidOperand_refuses.bind fun id _ => refuses_pure _
  · exact listOperand_refuses.bind fun items _ => (ids items).bind fun ids _ => refuses_pure _
  · exact listOperand_refuses.bind fun items _ => (ids items).bind fun ids _ => refuses_pure _
  · exact listOperand_refuses.bind fun items _ => (ids items).bind fun ids _ => refuses_pure _
  · exact (ids _).bind fun ids _ => refuses_pure _
  · exact uuidOperand_refuses.bind fun id _ => refuses_pure _
  · exact refuses_error (.unsupportedOperator _ _)
  · exact refuses_error (.unsupportedOperator _ _)

/-- What the parent is compared with is refused only as a scalar, never as an identifier. -/
theorem parentOperand_refuses : Refuses (parentOperand field o v) (OnOperand field) := by
  unfold parentOperand
  split
  · exact refuses_ok _
  · exact scalarOperand_refuses.bind fun p _ => refuses_pure _

/-- A list for the parent is refused for one of its elements. -/
theorem parentArray_refuses {items : List Value} :
    Refuses (parentArray field o items) (OnOperand field) := by
  unfold parentArray
  split
  · exact refuses_ok _
  · exact (refuses_mapM fun item _ => textOperand_refuses).bind fun texts _ => refuses_pure _

/-- A condition on the parent is refused for its operator or its operand. -/
theorem parentOperation_refuses : Refuses (parentOperation field o v) (OnOperand field) := by
  unfold parentOperation
  split
  · apply refuses_ite
    · exact refuses_ok _
    · exact parentOperand_refuses.bind fun term _ => refuses_pure _
  · apply refuses_ite
    · exact refuses_ok _
    · exact parentOperand_refuses.bind fun term _ => refuses_pure _
  · refine listOperand_refuses.bind fun items _ => refuses_ite (refuses_pure _) ?_
    exact parentArray_refuses.bind fun term _ => refuses_pure _
  · refine listOperand_refuses.bind fun items _ => refuses_ite (refuses_pure _) ?_
    exact parentArray_refuses.bind fun term _ => refuses_pure _
  · exact refuses_error (.unsupportedOperator _ _)

/-- A membership is refused for an element of its list, or for the list as a document. -/
theorem metadataMembership_refuses {config : Config} {path : List String} {negated : Bool}
    {items : List Value} :
    Refuses (metadataMembership config field path o negated items) (OnOperand field) := by
  unfold metadataMembership
  split
  · exact (refuses_mapM fun item _ => textOperand_refuses).bind fun texts _ => refuses_pure _
  · exact jsonOperand_refuses.bind fun p _ => refuses_pure _

/-- A condition on a path is refused for its operator or its operand, under the name of the path. -/
theorem metadataOperation_refuses {config : Config} {path : List String} :
    Refuses (metadataOperation config path o v) (OnOperand (pathName config.jsonColumn path)) := by
  cases o with
  | compare c =>
    rw [metadataOperation]
    refine refuses_ite (refuses_ok _) (refuses_ite ?_ ?_)
    · exact jsonOperand_refuses.bind fun p _ => refuses_pure _
    · exact scalarOperand_refuses.bind fun p _ => refuses_pure _
  | pattern p => exact patternOperand_refuses.bind fun text _ => refuses_pure _
  | within =>
    refine listOperand_refuses.bind fun items _ => refuses_ite (refuses_pure _) ?_
    exact metadataMembership_refuses
  | without =>
    refine listOperand_refuses.bind fun items _ => refuses_ite (refuses_pure _) ?_
    exact metadataMembership_refuses
  | overlap => exact refuses_error (.unsupportedOperator _ _)
  | contains => exact jsonOperand_refuses.bind fun p _ => refuses_pure _

end

/-- The name of a leaf in refusals: its field, or the name of its path inside the JSON column. -/
def Leaf.name (config : Config) (leaf : Leaf) : String :=
  match leaf.target with
  | .metadata path => pathName config.jsonColumn path
  | _ => leaf.field

/-- A leaf is refused for its operator or its operand, under its own name. -/
theorem Leaf.fragment_refuses {config : Config} {leaf : Leaf} :
    Refuses (leaf.fragment config) (OnOperand (leaf.name config)) := by
  obtain ⟨field, target, o, operand⟩ := leaf
  cases target with
  | column name => exact columnOperation_refuses
  | collection => exact collectionOperation_refuses
  | parent => exact parentOperation_refuses
  | metadata path => exact metadataOperation_refuses

end Compile

end FilterSql
