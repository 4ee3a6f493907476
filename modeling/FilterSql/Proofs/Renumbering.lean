import FilterSql.Proofs.Agreement
import FilterSql.Proofs.Compile.Text

/-!
# What given parameters change in a statement

A statement that continues a list of parameters is the one that begins a list, with all
placeholders raised by the number of the given parameters (`compile_given`). To say so without the
compiler, a text is taken apart into lexemes and spelled again: a lexeme stands for its characters
and no others, so spelling what was scanned gives the text back (`spell_of_scan`). What looks like
a placeholder inside a literal is part of the literal, and stays.
-/

set_option autoImplicit false

namespace FilterSql

namespace Sql

/-! ## Spelling lexemes -/

/-- The characters of a lexeme. A quote inside a literal is written twice. -/
def Lexeme.chars : Lexeme → List Char
  | .plain c => [c]
  | .placeholder digits => '$' :: digits
  | .literal text => quoteChars (String.ofList text)

/-- The text of lexemes. -/
def spell (lexemes : List Lexeme) : List Char := lexemes.flatMap Lexeme.chars

/-- A placeholder whose number is raised by an offset. Other lexemes stay as they are. -/
def Lexeme.raise (offset : Nat) : Lexeme → Lexeme
  | .placeholder digits => .placeholder (Nat.toDigits 10 (Nat.ofDigitChars 10 digits 0 + offset))
  | lexeme => lexeme

/-- What a place has taken in since the last complete lexeme. -/
def Place.pending : Place → List Char
  | .outside => []
  | .number digits => '$' :: digits
  | .inside text => '\'' :: text.flatMap (fun c => if c = '\'' then ['\'', '\''] else [c])
  | .closing text => quoteChars (String.ofList text)

/-- A dollar sign and the digits behind it are spelled as they stand, even if there are none. -/
theorem Place.chars_dollar (digits : List Char) : (dollar digits).chars = '$' :: digits := by
  cases digits with
  | nil => rfl
  | cons first rest => rfl

/-- Reading a character neither drops nor adds one. -/
theorem Place.spell_next (place : Place) (c : Char) :
    spell (place.next c).2 ++ (place.next c).1.pending = place.pending ++ [c] := by
  -- A character that is no part of what is pending begins anew, as it would outside.
  have begins : ∀ c, spell (start c).2 ++ (start c).1.pending = [c] := by
    intro c
    unfold start
    split
    · rename_i quote
      simp [spell, pending, quote]
    · split
      · rename_i dollar
        simp [spell, pending, dollar]
      · simp [spell, pending, Lexeme.chars]
  have complete : ∀ (lexeme : Lexeme) (lexemes : List Lexeme),
      spell (lexeme :: lexemes) = lexeme.chars ++ spell lexemes := fun _ _ => rfl
  cases place with
  | outside => exact begins c
  | number digits =>
    rw [next]
    split
    · simp [spell, pending]
    · rw [complete, chars_dollar, List.append_assoc, begins]
      rfl
  | inside text =>
    rw [next]
    split
    · rename_i quote
      simp [spell, pending, quoteChars, quote]
    · rename_i other
      simp [spell, pending, other]
  | closing text =>
    rw [next]
    split
    · rename_i quote
      simp [spell, pending, quoteChars, quote]
    · rw [complete, List.append_assoc, begins]
      rfl

/-- Spelling what was scanned gives the text back. -/
theorem spell_of_scanFrom {place : Place} {cs : List Char} {lexemes : List Lexeme}
    (h : scanFrom place cs = some lexemes) : spell lexemes = place.pending ++ cs := by
  induction cs generalizing place lexemes with
  | nil =>
    rw [List.append_nil]
    cases place with
    | inside text => cases h
    | number digits =>
      cases h
      simp [spell, Place.chars_dollar, Place.pending]
    | _ =>
      cases h
      simp [spell, Place.pending, Lexeme.chars]
  | cons c rest ih =>
    rw [scanFrom] at h
    obtain ⟨others, scanned, rfl⟩ := Option.map_eq_some_iff.1 h
    have step := place.spell_next c
    have split : spell ((place.next c).2 ++ others) = spell (place.next c).2 ++ spell others :=
      List.flatMap_append
    rw [split, ih scanned, ← List.append_assoc, step, List.append_assoc, List.singleton_append]

/-- Lexemes spell the text that they were scanned from. -/
theorem spell_of_scan {cs : List Char} {lexemes : List Lexeme} (h : scan cs = some lexemes) :
    spell lexemes = cs := spell_of_scanFrom h

/-- Raising the placeholders of pieces amounts to numbering the pieces from a higher number. -/
theorem map_raise_lexemesFrom {α : Type} (offset next : Nat) (pieces : List (Piece α)) :
    (lexemesFrom next pieces).map (.raise offset) = lexemesFrom (next + offset) pieces := by
  induction pieces generalizing next with
  | nil => rfl
  | cons piece rest ih =>
    cases piece with
    | code text =>
      have kept : (text.toList.map Lexeme.plain).map (Lexeme.raise offset) =
          text.toList.map Lexeme.plain := by
        rw [List.map_map]
        rfl
      rw [lexemesFrom, List.map_append, kept, ih, lexemesFrom]
    | quoted text =>
      rw [lexemesFrom, List.map_cons, ih, lexemesFrom]
      rfl
    | hole value =>
      have raised : Lexeme.raise offset (.placeholder (Nat.toDigits 10 next)) =
          .placeholder (Nat.toDigits 10 (next + offset)) := by
        rw [Lexeme.raise, Nat.ofDigitChars_ten_toDigits]
      rw [lexemesFrom, List.map_cons, ih, raised, lexemesFrom, Nat.add_right_comm]

end Sql

open Sql Compile

/-! ## Statements behind given parameters -/

/-- Behind given parameters a filter has a statement exactly if it has one behind none, and is
refused for the same cause otherwise. The parameters of the statement follow the given ones, and
its text is the same but for the placeholders outside literals, which are raised by the number of
the given parameters. -/
theorem compile_given {compiler : Compiler} {f : Filter} {given : ParamList} {mode : Mode} :
    Agree (· = ·)
      (fun s s' => s'.params.items = given.items ++ s.params.items ∧
        ∃ lexemes, scan s.sql.toList = some lexemes ∧ spell lexemes = s.sql.toList ∧
          s'.sql.toList = spell (lexemes.map (.raise given.size)))
      (compiler.compile f ⟨[]⟩ mode) (compiler.compile f given mode) := by
  have sameCondition : Agree (· = ·)
      (fun c c' => c = c' ∧ filterCondition compiler.config f = .ok c)
      (filterCondition compiler.config f) (filterCondition compiler.config f) :=
    .self (fun _ => rfl) fun _ condition => condition
  rw [compile_eq, compile_eq]
  refine sameCondition.map ?_
  rintro c _ ⟨rfl, condition⟩
  have scanned := scan_statementPieces compiler.valid mode condition
  have raised : spell ((lexemesFrom 1 (statementPieces mode f c)).map (.raise given.size)) =
      charsFrom given.next (statementPieces mode f c) := by
    have next : given.next = 1 + given.size := Nat.add_comm _ _
    rw [map_raise_lexemesFrom, next]
    exact spell_of_scan (scanned (1 + given.size))
  refine ⟨rfl, lexemesFrom 1 (statementPieces mode f c), ?_, ?_, ?_⟩
  · rw [statementOf, String.toList_ofList]
    exact scanned 1
  · rw [statementOf, String.toList_ofList]
    exact spell_of_scan (scanned 1)
  · rw [statementOf, String.toList_ofList, raised]

/-- A path segment that looks like a placeholder stays as it is. -/
example : (scan "a->>'$9' = $9".toList).map (fun lexemes =>
    String.ofList (spell (lexemes.map (.raise 3)))) = some "a->>'$9' = $12" := by decide +kernel

end FilterSql
