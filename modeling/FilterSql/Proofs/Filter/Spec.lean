import FilterSql.Filter.Spec

/-!
# The shapes of conditions

Which values have which shape. The field of a condition is only named in refusals: it has no
part in whether a value has a shape, or in which shape it has.
-/

set_option autoImplicit false

namespace FilterSql

/-- The keys of operators and connectives have the form of keywords. -/
theorem isKeywordKey_of_ofKey? {key : String} {k : Keyword} (h : Keyword.ofKey? key = some k) :
    isKeywordKey key = true := by
  unfold Keyword.ofKey? at h
  split at h <;> first | rfl | cases h

/-- Scalars are no lists. -/
theorem Value.ne_list_of_isScalar {v : Value} (h : v.isScalar = true) (items : List Value) :
    v ≠ .list items := by
  rintro rfl
  cases h

/-- Scalars are no objects. -/
theorem Value.ne_object_of_isScalar {v : Value} (h : v.isScalar = true)
    (entries : List (String × Value)) : v ≠ .object entries := by
  rintro rfl
  cases h

namespace Spec

/-- The keywords among the keys of entries are none exactly when no key has the form of one. -/
theorem keywordKeys_eq_nil_iff {entries : List (String × Value)} :
    (entries.map Prod.fst).filter isKeywordKey = [] ↔
      ∀ entry ∈ entries, isKeywordKey entry.1 = false := by
  simp [List.filter_eq_nil_iff]

/-- Entries continue a path if there are some and no key has the form of a keyword. They have no
other shape than this one and that of a single operator. -/
theorem ofEntries_ok {field : String} {entries : List (String × Value)} {spec : Spec}
    (h : ofEntries field entries = .ok spec) :
    (spec = .path entries ∧ entries ≠ [] ∧ ∀ entry ∈ entries, isKeywordKey entry.1 = false) ∨
      ∃ key operand o, entries = [(key, operand)] ∧ Keyword.ofKey? key = some (.operator o) ∧
        spec = .operator o operand := by
  simp only [ofEntries] at h
  split at h
  · cases h
  · rename_i nonempty noKeys
    cases h
    exact .inl ⟨rfl, nonempty, keywordKeys_eq_nil_iff.1 noKeys⟩
  · rename_i key operand _
    split at h
    · cases h
    · cases h
    · rename_i o found
      cases h
      exact .inr ⟨key, operand, o, rfl, found, rfl⟩
  · split at h <;> cases h

/-- A value continues a path if it is an object with some keys, none of the form of a keyword. -/
theorem parse_path_iff {field : String} {v : Value} {entries : List (String × Value)} :
    parse field v = .ok (.path entries) ↔
      v = .object entries ∧ entries ≠ [] ∧ ∀ entry ∈ entries, isKeywordKey entry.1 = false := by
  constructor
  · intro h
    cases v with
    | object entries' =>
      obtain ⟨same, nonempty, noKeys⟩ | ⟨_, _, _, _, _, same⟩ := ofEntries_ok h
      · cases same
        exact ⟨rfl, nonempty, noKeys⟩
      · cases same
    | _ => cases h
  · rintro ⟨rfl, nonempty, noKeys⟩
    simp only [parse, ofEntries, keywordKeys_eq_nil_iff.2 noKeys]

/-- A value is an operator with its operand if it is an object whose only key is that of the
operator. -/
theorem parse_operator_iff {field : String} {v : Value} {o : Operator} {operand : Value} :
    parse field v = .ok (.operator o operand) ↔
      ∃ key, v = .object [(key, operand)] ∧ Keyword.ofKey? key = some (.operator o) := by
  constructor
  · intro h
    cases v with
    | object entries =>
      obtain ⟨same, _⟩ | ⟨key, operand', o', rfl, found, same⟩ := ofEntries_ok h
      · cases same
      · cases same
        exact ⟨key, rfl, found⟩
    | _ => cases h
  · rintro ⟨key, rfl, found⟩
    have keyword := isKeywordKey_of_ofKey? found
    simp [parse, ofEntries, keyword, found]

/-- A value is bare if it is no object. -/
theorem parse_literal_iff {field : String} {v w : Value} :
    parse field v = .ok (.literal w) ↔ v = w ∧ ∀ entries, v ≠ .object entries := by
  constructor
  · intro h
    cases v with
    | object entries =>
      obtain ⟨same, _⟩ | ⟨_, _, _, _, _, same⟩ := ofEntries_ok h <;> cases same
    | _ =>
      cases h
      exact ⟨rfl, fun _ same => by cases same⟩
  · rintro ⟨rfl, bare⟩
    cases v with
    | object entries => exact absurd rfl (bare entries)
    | _ => rfl

/-- The shape of a value does not depend on the name that is given to refusals. -/
theorem parse_ok_relabel {field field' : String} {v : Value} {spec : Spec}
    (h : parse field v = .ok spec) : parse field' v = .ok spec := by
  cases spec with
  | literal w => exact parse_literal_iff.2 (parse_literal_iff.1 h)
  | operator o operand => exact parse_operator_iff.2 (parse_operator_iff.1 h)
  | path entries => exact parse_path_iff.2 (parse_path_iff.1 h)

/-- The shape of a value, if it has one. -/
def of? (v : Value) : Option Spec := (parse "" v).toOption

/-- A value that is parsed has the shape that it is parsed to, under whatever name it was parsed. -/
theorem of?_eq_some {field : String} {v : Value} {spec : Spec} (h : parse field v = .ok spec) :
    of? v = some spec := by
  have unnamed : parse "" v = .ok spec := parse_ok_relabel h
  rw [of?, unnamed]
  rfl

end Spec

end FilterSql
