import FilterSql.Error
import FilterSql.Json.Reader

/-!
# Filters

A filter is a list of entries. An entry joins a key with a value: a field with its
condition, or a connective with the list of filters that it joins. The order of the
entries counts, and a key may occur several times.
-/

set_option autoImplicit false

namespace FilterSql

/-- A filter. -/
structure Filter where
  entries : List (String × Value)

/-- Why a text is no filter: it is not JSON, or the document is not an object. -/
inductive DecodeError
  | malformed
  | refused (cause : CompileError)
deriving DecidableEq

namespace Filter

/-- The filter without entries. -/
def empty : Filter := ⟨[]⟩

/-- Whether a filter has no entries. -/
def isEmpty (f : Filter) : Bool := f.entries.isEmpty

/-- The number of entries. -/
def size (f : Filter) : Nat := f.entries.length

/-- Adds an entry at the end. -/
def push (f : Filter) (key : String) (value : Value) : Filter := ⟨f.entries ++ [(key, value)]⟩

/-- The last entry. -/
def last? (f : Filter) : Option (String × Value) := f.entries.getLast?

/-- A filter as a value. -/
def toValue (f : Filter) : Value := .object f.entries

/-- An object as a filter; nothing else is one. -/
def ofValue : Value → Except CompileError Filter
  | .object entries => .ok ⟨entries⟩
  | v => .error (.invalidForm (.notAnObject v.kind))

/-- A document as a filter. -/
def ofJson (document : Json) : Except CompileError Filter := ofValue (.ofJson document)

/-- The filter that a text means. A document that is no object is refused as soon as it has
been read; only after an object does it matter what else the text holds. -/
def ofText (text : String) : Except DecodeError Filter :=
  match Json.readValue Json.nestingLimit text.toList with
  | none => .error .malformed
  | some (document, rest) =>
    match ofJson document.collapse with
    | .error cause => .error (.refused cause)
    | .ok f => if (Json.skipBlanks rest).isEmpty then .ok f else .error .malformed

/-- Filters agree if their entries do. -/
instance : BEq Filter := ⟨fun f g => Value.entriesAgree f.entries g.entries⟩

end Filter

end FilterSql
