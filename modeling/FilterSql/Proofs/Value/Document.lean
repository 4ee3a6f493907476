import FilterSql.Compile.Operand
import FilterSql.Proofs.Grammar
import FilterSql.Proofs.Json.Members
import FilterSql.Proofs.Json.RoundTrip
import FilterSql.Proofs.Result
import Mathlib.Data.List.Forall2

/-!
# Values as documents

A value loses two things when it becomes a document: whether a number was signed or unsigned, where
a signed word holds it, and the values that a repeated key had before its last one. What is left is
the normal form of the value, and the document means exactly that (`Shows`). If the value has no
floating point numbers and is not nested too deeply, the normal form is read back from the text of
the document (`jsonOperand_decodes`).
-/

set_option autoImplicit false

namespace FilterSql

namespace Value

mutual

/-- The normal form of a value: numbers are signed where a signed word holds them, and each key of
an object stands once, at its first position with its last value. -/
def normal : Value → Value
  | .unsigned n => .ofUInt64 n
  | .list items => .list (normalItems items)
  | .object entries => .object (Members.collapse (normalEntries entries))
  | v => v

/-- The normal forms of the elements of a list. -/
def normalItems : List Value → List Value
  | [] => []
  | item :: rest => normal item :: normalItems rest

/-- The entries of an object with the normal forms of their values, repeated keys included. -/
def normalEntries : List (String × Value) → List (String × Value)
  | [] => []
  | (key, value) :: rest => (key, normal value) :: normalEntries rest

end

mutual

/-- How many lists and objects are nested in a value. -/
def nesting : Value → Nat
  | .list items => itemsNesting items + 1
  | .object entries => entriesNesting entries + 1
  | _ => 0

/-- How many lists and objects are nested in the elements of a list. -/
def itemsNesting : List Value → Nat
  | [] => 0
  | item :: rest => max (nesting item) (itemsNesting rest)

/-- How many lists and objects are nested in the entries of an object. -/
def entriesNesting : List (String × Value) → Nat
  | [] => 0
  | (_, value) :: rest => max (nesting value) (entriesNesting rest)

end

/-- A document shows a value: it means the normal form of the value and has no repeated keys, and it
is as exact as the value is. -/
structure Shows (v : Value) (j : Json) : Prop where
  value : ofJson j = v.normal
  collapsed : j.collapse = j
  exact : v.floats = [] → ∀ levels, v.nesting ≤ levels → j.Exact levels

/-! ## Scalars -/

/-- A signed number is shown as it is. -/
theorem shows_signed (n : Int64) : Shows (.signed n) (.number (.ofInt64 n)) := by
  refine ⟨?_, by rw [Json.collapse], fun _ _ _ => .whole⟩
  have inRange : n.toInt < 0x8000000000000000 := n.toInt_lt
  rw [ofJson, Json.Number.ofInt64, ofNumber, if_pos inRange, Int64.ofInt_toInt]
  rfl

/-- An unsigned number is shown as it is, and is read back signed where a signed word holds it. -/
theorem shows_unsigned (n : UInt64) : Shows (.unsigned n) (.number (.ofUInt64 n)) := by
  refine ⟨?_, by rw [Json.collapse], fun _ _ _ => .whole⟩
  have sameWord : Int64.ofInt n.toNat = n.toInt64 := by
    rw [Int64.ofInt_eq_ofNat, ← UInt64.toInt64_ofNat', UInt64.ofNat_toNat]
  have inRange : (n.toNat : Int) < 0x8000000000000000 ↔ n.toNat < 0x8000000000000000 := by omega
  simp only [ofJson, Json.Number.ofUInt64, ofNumber, normal, ofUInt64, inRange, sameWord,
    Int.toNat_natCast, UInt64.ofNat_toNat]

/-- A floating point number is shown if documents can hold it. -/
theorem shows_float {x : Float} {n : Json.Number} (found : Json.Number.ofFloat? x = some n) :
    Shows (.float x) (.number n) := by
  refine ⟨?_, by rw [Json.collapse], fun noFloats => by simp [floats] at noFloats⟩
  rw [Json.Number.ofFloat?] at found
  split at found
  · cases found
    rfl
  · cases found

/-! ## Lists and objects -/

/-- A list is shown by the array of what shows its elements. -/
theorem shows_list {items : List Value} {js : List Json} (each : List.Forall₂ Shows items js) :
    Shows (.list items) (.array js) := by
  refine ⟨?_, ?_, ?_⟩
  · rw [ofJson, normal]
    congr 1
    induction each with
    | nil => rfl
    | cons first _ ih => rw [ofItems, normalItems, first.value, ih]
  · rw [Json.collapse]
    congr 1
    induction each with
    | nil => rfl
    | cons first _ ih => rw [Json.collapseItems, first.collapsed, ih]
  · intro noFloats levels within
    rw [floats] at noFloats
    rw [nesting] at within
    obtain ⟨levels, rfl⟩ := Nat.exists_eq_succ_of_ne_zero (Nat.ne_of_gt (Nat.zero_lt_of_lt within))
    refine .array ?_
    induction each with
    | nil => exact List.forall_mem_nil _
    | cons first _ ih =>
      rw [itemsFloats, List.append_eq_nil_iff] at noFloats
      rw [itemsNesting] at within
      exact List.forall_mem_cons.2
        ⟨first.exact noFloats.1 levels (by omega), ih noFloats.2 (by omega)⟩

/-- A member shows an entry if it has the same key and shows its value. -/
def ShowsEntry (entry : String × Value) (member : String × Json) : Prop :=
  entry.1 = member.1 ∧ Shows entry.2 member.2

/-- Members are decoded value by value. -/
theorem ofMembers_eq (members : List (String × Json)) :
    ofMembers members = Members.mapValues ofJson members := by
  induction members with
  | nil => rfl
  | cons member rest ih => rw [ofMembers, ih]; rfl

/-- Members are collapsed value by value. -/
theorem collapseMembers_eq (members : List (String × Json)) :
    Json.collapseMembers members = Members.mapValues Json.collapse members := by
  induction members with
  | nil => rfl
  | cons member rest ih => rw [Json.collapseMembers, ih]; rfl

/-- An object is shown by the members that show its entries, with repeated keys collapsed. -/
theorem shows_object {entries : List (String × Value)} {members : List (String × Json)}
    (each : List.Forall₂ ShowsEntry entries members) :
    Shows (.object entries) (.object (Members.collapse members)) := by
  refine ⟨?_, ?_, ?_⟩
  · have values : Members.mapValues ofJson members = normalEntries entries := by
      induction each with
      | nil => rfl
      | @cons entry member _ _ first _ ih =>
        obtain ⟨key, v⟩ := entry
        obtain ⟨key', j⟩ := member
        obtain ⟨rfl, shows⟩ := first
        rw [normalEntries, ← ih, ← shows.value]
        rfl
    rw [ofJson, ofMembers_eq, ← Members.collapse_mapValues, values, normal]
  · have collapsed : Members.mapValues Json.collapse members = members := by
      induction each with
      | nil => rfl
      | @cons entry member _ _ first _ ih =>
        rw [Members.mapValues, List.map_cons, first.2.collapsed]
        exact congrArg _ ih
    rw [Json.collapse, collapseMembers_eq, ← Members.collapse_mapValues, collapsed,
      Members.collapse_collapse]
  -- The values of the members are nested one level less than the object.
  · intro noFloats levels within
    rw [floats] at noFloats
    rw [nesting] at within
    obtain ⟨levels, rfl⟩ := Nat.exists_eq_succ_of_ne_zero (Nat.ne_of_gt (Nat.zero_lt_of_lt within))
    have each : ∀ member ∈ members, member.2.Exact levels := by
      induction each with
      | nil => exact List.forall_mem_nil _
      | @cons entry member _ _ first _ ih =>
        rw [entriesFloats, List.append_eq_nil_iff] at noFloats
        rw [entriesNesting] at within
        exact List.forall_mem_cons.2
          ⟨first.2.exact noFloats.1 levels (by omega), ih noFloats.2 (by omega)⟩
    exact .object fun member mem => each member (Members.collapse_subset members mem)

/-- The document of a value shows it. -/
theorem toJson_shows :
    (∀ v : Value, Gives v.toJson (Shows v)) ∧
      (∀ entries : List (String × Value),
        Gives (entriesToJson entries) (List.Forall₂ ShowsEntry entries)) ∧
      ∀ items : List Value, Gives (itemsToJson items) (List.Forall₂ Shows items) := by
  refine Value.toJson.mutual_induct _ _ _ ?null ?bool ?signed ?unsigned ?finite ?infinite ?string
    ?list ?object ?noItems ?items ?noEntries ?entries
  case null => exact gives_ok ⟨rfl, rfl, fun _ _ _ => .null⟩
  case bool => exact fun b => gives_ok ⟨rfl, rfl, fun _ _ _ => .bool b⟩
  case signed => exact fun n => gives_ok (shows_signed n)
  case unsigned => exact fun n => gives_ok (shows_unsigned n)
  case finite =>
    intro x n found
    rw [toJson, found]
    exact gives_ok (shows_float found)
  case infinite =>
    intro x found
    rw [toJson, found]
    exact gives_error _
  case string => exact fun s => gives_ok ⟨rfl, rfl, fun _ _ _ => .string s⟩
  case list =>
    intro items ih
    rw [toJson]
    exact gives_bind ih fun js each => gives_pure (shows_list each)
  case object =>
    intro entries ih
    rw [toJson]
    exact gives_bind ih fun members each => gives_pure (shows_object each)
  case noItems => exact gives_ok .nil
  case items =>
    intro item rest ihFirst ihRest
    rw [itemsToJson]
    exact gives_bind ihFirst fun j first => gives_bind ihRest fun js others =>
      gives_pure (.cons first others)
  case noEntries => exact gives_ok .nil
  case entries =>
    intro key value rest ihFirst ihRest
    rw [entriesToJson]
    exact gives_bind ihFirst fun j first => gives_bind ihRest fun members others =>
      gives_pure (.cons ⟨rfl, first⟩ others)

end Value

namespace Compile

/-- The text of a JSON parameter is read back as the normal form of the operand. -/
theorem jsonOperand_decodes {field : String} {v : Value} {p : Param}
    (h : jsonOperand field v = .ok p) :
    ∃ text, p = .json text ∧ (v.floats = [] → v.nesting ≤ Json.nestingLimit →
      (Json.ofText? text).map Value.ofJson = some v.normal) := by
  unfold jsonOperand at h
  split at h
  · rename_i j document
    cases h
    have shows := Value.toJson_shows.1 v j document
    refine ⟨j.text, rfl, fun noFloats within => ?_⟩
    rw [(shows.exact noFloats _ within).ofText?_text, shows.collapsed, Option.map_some, shows.value]
  · cases h

end Compile

end FilterSql
