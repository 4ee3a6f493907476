import FilterSql.Proofs.Json.Text
import FilterSql.Proofs.Value.Document

/-!
# Places in values

A place in a value is a way down to one of its parts, through elements of lists and entries of
objects. In the text of a document, a part stands as it is written alone, and what stands around it
is the same whatever the part is (`Place.toJson_fill`), unless a later entry with the same key takes
its place.
-/

set_option autoImplicit false

namespace FilterSql

/-- A place in a value, with what stands around it. -/
inductive Place
  | here
  | item (before : List Value) (inner : Place) (after : List Value)
  | entry (before : List (String × Value)) (key : String) (inner : Place)
    (after : List (String × Value))

namespace Place

/-- The value with a given part at a place. -/
def fill : Place → Value → Value
  | .here, v => v
  | .item before inner after, v => .list (before ++ inner.fill v :: after)
  | .entry before key inner after, v => .object (before ++ (key, inner.fill v) :: after)

/-- What stands at a place is not replaced by a later entry with the same key. -/
def Kept : Place → Prop
  | .here => True
  | .item _ inner _ => inner.Kept
  | .entry _ key inner after => key ∉ Members.keys after ∧ inner.Kept

/-- Values of the same kind may stand at a place of values of the same kind. -/
theorem kind_fill (place : Place) {v w : Value} (same : v.kind = w.kind) :
    (place.fill v).kind = (place.fill w).kind := by
  cases place with
  | here => exact same
  | item before inner after => rfl
  | entry before key inner after => rfl

end Place

namespace Value

/-- The floating point numbers of two lists stand behind one another. -/
theorem itemsFloats_append (xs ys : List Value) :
    itemsFloats (xs ++ ys) = itemsFloats xs ++ itemsFloats ys := by
  induction xs with
  | nil => rfl
  | cons x xs ih => rw [List.cons_append, itemsFloats, itemsFloats, ih, List.append_assoc]

/-- The floating point numbers of entries behind others stand behind theirs. -/
theorem entriesFloats_append (xs ys : List (String × Value)) :
    entriesFloats (xs ++ ys) = entriesFloats xs ++ entriesFloats ys := by
  induction xs with
  | nil => rfl
  | cons x xs ih =>
    obtain ⟨key, v⟩ := x
    rw [List.cons_append, entriesFloats, entriesFloats, ih, List.append_assoc]

/-- Entries become members with the same keys. -/
theorem keys_entriesToJson {entries : List (String × Value)} {members : List (String × Json)}
    (h : entriesToJson entries = .ok members) : Members.keys members = Members.keys entries := by
  have each := toJson_shows.2.1 entries members h
  clear h
  induction each with
  | nil => rfl
  | cons first _ ih =>
    rw [Members.keys, List.map_cons, ← first.1]
    exact congrArg _ ih

/-- An element is written as one among the others, which do not depend on it. -/
theorem itemsToJson_around {before after : List Value} {v : Value} {js : List Json}
    (h : itemsToJson (before ++ v :: after) = .ok js) :
    Succeeds v.toJson ∧ ∃ xs ys, ∀ w x, w.toJson = .ok x →
      itemsToJson (before ++ w :: after) = .ok (xs ++ x :: ys) := by
  induction before generalizing js with
  | nil =>
    rw [List.nil_append, itemsToJson] at h
    obtain ⟨j, document, h⟩ := bind_eq_ok_iff.1 h
    obtain ⟨others, documents, -⟩ := bind_eq_ok_iff.1 h
    refine ⟨⟨j, document⟩, [], others, fun w x isDocument => ?_⟩
    rw [List.nil_append, itemsToJson, isDocument, documents]
    rfl
  | cons first rest ih =>
    rw [List.cons_append, itemsToJson] at h
    obtain ⟨j, document, h⟩ := bind_eq_ok_iff.1 h
    obtain ⟨others, documents, -⟩ := bind_eq_ok_iff.1 h
    obtain ⟨succeeds, xs, ys, around⟩ := ih documents
    refine ⟨succeeds, j :: xs, ys, fun w x isDocument => ?_⟩
    rw [List.cons_append, itemsToJson, document, around w x isDocument]
    rfl

/-- The value of an entry is written as one among the others, which do not depend on it. -/
theorem entriesToJson_around {before after : List (String × Value)} {key : String} {v : Value}
    {members : List (String × Json)}
    (h : entriesToJson (before ++ (key, v) :: after) = .ok members) :
    Succeeds v.toJson ∧ ∃ xs ys, Members.keys ys = Members.keys after ∧ ∀ w x, w.toJson = .ok x →
      entriesToJson (before ++ (key, w) :: after) = .ok (xs ++ (key, x) :: ys) := by
  induction before generalizing members with
  | nil =>
    rw [List.nil_append, entriesToJson] at h
    obtain ⟨j, document, h⟩ := bind_eq_ok_iff.1 h
    obtain ⟨others, documents, -⟩ := bind_eq_ok_iff.1 h
    have sameKeys := keys_entriesToJson documents
    refine ⟨⟨j, document⟩, [], others, sameKeys, fun w x isDocument => ?_⟩
    rw [List.nil_append, entriesToJson, isDocument, documents]
    rfl
  | cons first rest ih =>
    obtain ⟨k, u⟩ := first
    rw [List.cons_append, entriesToJson] at h
    obtain ⟨j, document, h⟩ := bind_eq_ok_iff.1 h
    obtain ⟨others, documents, -⟩ := bind_eq_ok_iff.1 h
    obtain ⟨succeeds, xs, ys, sameKeys, around⟩ := ih documents
    refine ⟨succeeds, (k, j) :: xs, ys, sameKeys, fun w x isDocument => ?_⟩
    rw [List.cons_append, entriesToJson, document, around w x isDocument]
    rfl

end Value

namespace Place

/-- Values with the same floating point numbers may stand at a place of values with the same. -/
theorem floats_fill (place : Place) {v w : Value} (same : v.floats = w.floats) :
    (place.fill v).floats = (place.fill w).floats := by
  induction place with
  | here => exact same
  | item before inner after ih =>
    simp only [fill, Value.floats, Value.itemsFloats_append, Value.itemsFloats, ih]
  | entry before key inner after ih =>
    simp only [fill, Value.floats, Value.entriesFloats_append, Value.entriesFloats, ih]

/-- In the text of a document, what stands at a place is written as it is alone, and what is written
around it does not depend on it. -/
theorem toJson_fill {place : Place} (kept : place.Kept) {v : Value}
    (h : Succeeds (place.fill v).toJson) :
    ∃ opening closing, Json.Delimited opening closing ∧ ∀ w j, w.toJson = .ok j →
      ∃ whole, (place.fill w).toJson = .ok whole ∧ whole.chars = opening ++ j.chars ++ closing := by
  induction place with
  | here => exact ⟨[], [], ⟨nofun, nofun⟩, fun w j document => ⟨j, document, by simp⟩⟩
  | item before inner after ih =>
    obtain ⟨list, document⟩ := h
    rw [fill, Value.toJson] at document
    obtain ⟨js, documents, -⟩ := bind_eq_ok_iff.1 document
    obtain ⟨succeeds, xs, ys, among⟩ := Value.itemsToJson_around documents
    obtain ⟨opening, closing, inside, around⟩ := ih kept succeeds
    obtain ⟨first, last, outside, row⟩ := Json.chars_array_around xs ys
    refine ⟨first ++ opening, closing ++ last, outside.nest inside, fun w j document => ?_⟩
    obtain ⟨part, isPart, chars⟩ := around w j document
    refine ⟨.array (xs ++ part :: ys), ?_, by simp [row, chars]⟩
    rw [fill, Value.toJson, among _ part isPart]
    rfl
  | entry before key inner after ih =>
    obtain ⟨isLast, kept⟩ := kept
    obtain ⟨object, document⟩ := h
    rw [fill, Value.toJson] at document
    obtain ⟨members, documents, -⟩ := bind_eq_ok_iff.1 document
    obtain ⟨succeeds, xs, ys, sameKeys, among⟩ := Value.entriesToJson_around documents
    rw [← sameKeys] at isLast
    obtain ⟨xs', ys', collapsed⟩ := Members.collapse_around xs ys isLast
    obtain ⟨opening, closing, inside, around⟩ := ih kept succeeds
    obtain ⟨first, last, outside, row⟩ := Json.chars_object_around xs' ys' key
    refine ⟨first ++ opening, closing ++ last, outside.nest inside, fun w j document => ?_⟩
    obtain ⟨part, isPart, chars⟩ := around w j document
    refine ⟨.object (xs' ++ (key, part) :: ys'), ?_, by simp [row, chars]⟩
    rw [fill, Value.toJson, among _ part isPart]
    exact congrArg (fun members => Except.ok (Json.object members)) (collapsed part)

end Place

end FilterSql
