import FilterSql.Proofs.Json.RoundTrip

/-!
# The text of arrays and objects

An array is written as its elements, and an object as its members, separated by commas and between
brackets. So the text around one of the parts does not depend on that part.
-/

set_option autoImplicit false

namespace FilterSql.Json

/-- A row of parts, of which there is a first, is written with commas between them. -/
theorem written_moreParts {α : Type} (written : α → List Char) (close : Char) (x : α)
    (xs : List α) : written x ++ moreParts written close xs =
      [','].intercalate ((x :: xs).map written) ++ [close] := by
  induction xs generalizing x with
  | nil => simp [moreParts]
  | cons y ys ih => simp [moreParts, ih y]

/-- An array is written between brackets, with commas between its elements. -/
theorem chars_array (items : List Json) :
    chars (.array items) = '[' :: [','].intercalate (items.map chars) ++ [']'] := by
  cases items with
  | nil => rfl
  | cons item rest =>
    rw [chars, moreItems_eq, List.cons_append, written_moreParts, List.cons_append]

/-- An object is written between braces, with commas between its members. -/
theorem chars_object (members : List (String × Json)) :
    chars (.object members) = '{' :: [','].intercalate (members.map memberChars) ++ ['}'] := by
  cases members with
  | nil => rfl
  | cons member rest =>
    have row := written_moreParts memberChars '}' member rest
    rw [memberChars, ← moreMembers_eq] at row
    rw [chars, List.cons_append, List.cons_append, row, List.cons_append]

/-- The text of an array is that of its elements between brackets, with commas between them. -/
theorem text_array (items : List Json) :
    (Json.array items).text = "[" ++ ",".intercalate (items.map text) ++ "]" := by
  have parts : (items.map text).map String.toList = items.map chars := by
    simp [text, Function.comp_def]
  apply String.toList_inj.1
  simp [text, chars_array, parts]

/-! ## Around one of the parts -/

/-- What is written around one of the parts of a row is the same whatever the part is. It ends and
begins with a separator, unless the part is the first or the last. -/
theorem intercalate_around {α : Type} (sep : List α) (before after : List (List α)) :
    ∃ opening closing, (opening = [] ∨ ∃ init, opening = init ++ sep) ∧
      (closing = [] ∨ ∃ rest, closing = sep ++ rest) ∧
      ∀ part, sep.intercalate (before ++ part :: after) = opening ++ part ++ closing := by
  induction before with
  | nil =>
    cases after with
    | nil => exact ⟨[], [], .inl rfl, .inl rfl, fun part => by simp⟩
    | cons next rest =>
      exact ⟨[], sep ++ sep.intercalate (next :: rest), .inl rfl, .inr ⟨_, rfl⟩,
        fun part => by simp⟩
  | cons first rest ih =>
    obtain ⟨opening, closing, ends, begins, around⟩ := ih
    refine ⟨first ++ sep ++ opening, closing, .inr ?_, begins, fun part => ?_⟩
    · rcases ends with rfl | ⟨init, rfl⟩
      · exact ⟨first, by simp⟩
      · exact ⟨first ++ sep ++ init, by simp⟩
    · rw [List.cons_append, List.intercalate_cons_of_ne_nil (by simp), around part]
      simp

/-- What may stand around a value in a document: nothing, or characters that are part of no value
next to it. -/
structure Delimited (opening closing : List Char) : Prop where
  ends : ∀ c ∈ opening.getLast?, c ∈ ['[', ',', ':']
  begins : ∀ c ∈ closing.head?, c ∈ [',', ']', '}']

/-- What stands around a value in a part of a document stands around it in the document, together
with what is around the part. -/
theorem Delimited.nest {opening closing opening' closing' : List Char}
    (outer : Delimited opening closing) (inner : Delimited opening' closing') :
    Delimited (opening ++ opening') (closing' ++ closing) := by
  constructor
  · intro c last
    rw [List.getLast?_append] at last
    cases found : opening'.getLast? with
    | none => exact outer.ends c (by simpa [found] using last)
    | some d => exact inner.ends c (by simpa [found] using last)
  · intro c first
    rw [List.head?_append] at first
    cases found : closing'.head? with
    | none => exact outer.begins c (by simpa [found] using first)
    | some d => exact inner.begins c (by simpa [found] using first)

/-- An element is written as it is alone, between characters that do not depend on it. -/
theorem chars_array_around (xs ys : List Json) :
    ∃ opening closing, Delimited opening closing ∧
      ∀ j, chars (.array (xs ++ j :: ys)) = opening ++ j.chars ++ closing := by
  obtain ⟨first, last, ends, begins, around⟩ :=
    intercalate_around [','] (xs.map chars) (ys.map chars)
  refine ⟨'[' :: first, last ++ [']'], ⟨?_, ?_⟩, fun j => ?_⟩
  · rcases ends with rfl | ⟨init, rfl⟩
    · simp
    · rw [← List.cons_append, List.getLast?_concat]
      simp
  · rcases begins with rfl | ⟨rest, rfl⟩ <;> simp
  · rw [chars_array, List.map_append, List.map_cons, around]
    simp

/-- The value of a member is written as it is alone, between characters that do not depend on it. -/
theorem chars_object_around (xs ys : List (String × Json)) (key : String) :
    ∃ opening closing, Delimited opening closing ∧
      ∀ j, chars (.object (xs ++ (key, j) :: ys)) = opening ++ j.chars ++ closing := by
  obtain ⟨first, last, -, begins, around⟩ :=
    intercalate_around [','] (xs.map memberChars) (ys.map memberChars)
  refine ⟨'{' :: first ++ quote key ++ [':'], last ++ ['}'], ⟨?_, ?_⟩, fun j => ?_⟩
  · rw [List.getLast?_concat]
    simp
  · rcases begins with rfl | ⟨rest, rfl⟩ <;> simp
  · rw [chars_object, List.map_append, List.map_cons, around, memberChars]
    simp

end FilterSql.Json
