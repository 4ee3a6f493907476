import FilterSql.Proofs.Renumbering

/-!
# Reading accessors back

An accessor is written as its column with an arrow and a literal for each key of its path, the last
arrow drawn out if the text is asked for; the text of a whole column is a cast. Keys may hold
quotes, arrows and casts of their own. The reader knows only literals: a text is read as an accessor
if it is the text of that accessor, and as no other (`readAccessor_eq_some_iff`). So accessors of
different places, or of different forms, have different texts (`accessors_decode`).
-/

set_option autoImplicit false

namespace FilterSql

open Sql Compile

/-- What an accessor gives of the place it reaches. -/
inductive Yield
  | document
  | text
deriving Repr, DecidableEq

/-- A place inside a column, and what is asked of it. -/
structure Accessor where
  column : String
  path : List String
  yields : Yield
deriving Repr, DecidableEq

/-- The term that the compiler writes for an accessor. -/
def Accessor.term {α : Type} (a : Accessor) : Term α :=
  match a.yields with
  | .document => jsonAccessor a.column a.path
  | .text => textAccessor a.column a.path

/-- The text of a term whose first placeholder has the number `next`. -/
def Sql.Term.chars {α : Type} (next : Nat) (t : Term α) : List Char := charsFrom next t.pieces

/-! ## The reader -/

/-- The identifier characters at the beginning, and what stands behind them. -/
def readColumn : List Lexeme → List Char × List Lexeme
  | .plain c :: rest =>
    if isIdentifierPart c then
      let (column, behind) := readColumn rest
      (c :: column, behind)
    else ([], .plain c :: rest)
  | lexemes => ([], lexemes)

/-- Keys behind arrows. The last arrow may be one for the text. -/
def readKeys : List Lexeme → Option (List String × Yield)
  | [] => some ([], .document)
  | [.plain '-', .plain '>', .plain '>', .literal key] => some ([String.ofList key], .text)
  | .plain '-' :: .plain '>' :: .literal key :: rest =>
    (readKeys rest).map fun (keys, yields) => (String.ofList key :: keys, yields)
  | _ => none

/-- The cast that gives the text of a whole column. -/
def textCast : List Lexeme := "::text".toList.map .plain

/-- What stands behind the column: the cast for the whole column, or keys. -/
def readPath (lexemes : List Lexeme) : Option (List String × Yield) :=
  if lexemes = textCast then some ([], .text) else readKeys lexemes

/-- The accessor that a text spells. -/
def readAccessor (cs : List Char) : Option Accessor := do
  let (column, behind) := readColumn (← scan cs)
  let place ← readPath behind
  if isIdentifierChars column then some ⟨String.ofList column, place.1, place.2⟩ else none

/-! ## The lexemes of an accessor -/

/-- The lexemes of keys behind arrows. -/
def keyLexemes (path : List String) : List Lexeme :=
  path.flatMap fun key => [.plain '-', .plain '>', .literal key.toList]

/-- The lexemes behind the column of an accessor. -/
def pathLexemes (path : List String) : Yield → List Lexeme
  | .document => keyLexemes path
  | .text =>
    match path.getLast? with
    | none => textCast
    | some key =>
      keyLexemes path.dropLast ++ [.plain '-', .plain '>', .plain '>', .literal key.toList]

section

variable {α : Type}

/-- The accessor of a document stands for the characters of its column, and for the arrows and
literals of its path behind them. -/
theorem lexemesFrom_jsonAccessor (next : Nat) (column : String) (path : List String)
    (rest : List (Piece α)) :
    lexemesFrom next ((jsonAccessor column path : Term α).pieces ++ rest) =
      column.toList.map .plain ++ (keyLexemes path ++ lexemesFrom next rest) := by
  have extend : ∀ (path : List String) (base : Term α) (rest : List (Piece α)),
      (path.foldl .member base).pieces ++ rest =
        base.pieces ++ (path.flatMap (fun key => [.code "->", .quoted key]) ++ rest) := by
    intro path
    induction path with
    | nil => exact fun _ _ => rfl
    | cons key others ih =>
      intro base rest
      rw [List.foldl_cons, ih]
      simp [Term.pieces]
  have keys : ∀ path : List String, lexemesFrom next
      (path.flatMap (fun key => [Piece.code "->", .quoted key]) ++ rest) =
        keyLexemes path ++ lexemesFrom next rest := by
    intro path
    induction path with
    | nil => rfl
    | cons key others ih =>
      exact congrArg ([.plain '-', .plain '>', .literal key.toList] ++ ·) ih
  rw [jsonAccessor, extend, ← keys]
  rfl

/-- An accessor stands for the characters of its column and the lexemes of its path. -/
theorem lexemesFrom_term (next : Nat) (a : Accessor) :
    lexemesFrom next (a.term : Term α).pieces =
      a.column.toList.map .plain ++ pathLexemes a.path a.yields := by
  obtain ⟨column, path, yields⟩ := a
  have json := @lexemesFrom_jsonAccessor α next column
  cases yields with
  | document => simpa [Accessor.term, pathLexemes, lexemesFrom] using json path []
  | text =>
    unfold Accessor.term pathLexemes textAccessor
    cases last : path.getLast? with
    | none => rfl
    | some key => exact json path.dropLast [.code "->>", .quoted key]

/-- The text of an accessor is scanned piece by piece. -/
theorem scan_term (next : Nat) {a : Accessor} (valid : isIdentifier a.column = true) :
    scan ((a.term : Term α).chars next) =
      some (a.column.toList.map .plain ++ pathLexemes a.path a.yields) := by
  have isOver : (a.term : Term α).Over IsColumnName fun _ => True := by
    have isColumn := isColumnName_of_isIdentifier valid
    unfold Accessor.term
    split
    · exact over_jsonAccessor isColumn fun _ _ => trivial
    · exact over_textAccessor isColumn fun _ _ => trivial
  rw [Term.chars, scan_charsFrom next a.term.spaced fun text mem =>
    isCode_of_over (isOver.pieces _ mem), lexemesFrom_term]

end

/-! ## Reading lexemes -/

/-- A column is read up to the first lexeme that is no part of an identifier. -/
theorem readColumn_append {column : List Char} {behind : List Lexeme}
    (isPart : ∀ c ∈ column, isIdentifierPart c = true) (apart : readColumn behind = ([], behind)) :
    readColumn (column.map .plain ++ behind) = (column, behind) := by
  induction column with
  | nil => exact apart
  | cons c rest ih =>
    obtain ⟨first, others⟩ := List.forall_mem_cons.1 isPart
    simp [readColumn, first, ih others]

/-- Reading a column splits the lexemes and drops none of them. -/
theorem eq_of_readColumn (lexemes : List Lexeme) :
    lexemes = (readColumn lexemes).1.map .plain ++ (readColumn lexemes).2 := by
  fun_induction readColumn lexemes with
  | case1 c rest isPart column behind split ih =>
    rw [split] at ih
    rw [List.map_cons, List.cons_append, ← ih]
  | case2 => rfl
  | case3 => rfl

/-- Keys that stand in front are read one after another, whatever is read behind them. -/
theorem readKeys_append (path : List String) (lexemes : List Lexeme) :
    readKeys (keyLexemes path ++ lexemes) =
      (readKeys lexemes).map fun (keys, yields) => (path ++ keys, yields) := by
  induction path with
  | nil => simp [keyLexemes]
  | cons key rest ih =>
    show readKeys (.plain '-' :: .plain '>' :: .literal key.toList ::
      (keyLexemes rest ++ lexemes)) = _
    rw [readKeys, ih, Option.map_map]
    simp [Function.comp_def]

/-- The last key of a path that is read as text stands behind the longer arrow. -/
theorem pathLexemes_concat (path : List String) (key : String) :
    pathLexemes (path ++ [key]) .text =
      keyLexemes path ++ [.plain '-', .plain '>', .plain '>', .literal key.toList] := by
  simp [pathLexemes]

/-- Arrows are no cast. -/
theorem keyLexemes_append_ne_textCast (path : List String) {lexemes : List Lexeme}
    (apart : lexemes.head? ≠ some (.plain ':')) : keyLexemes path ++ lexemes ≠ textCast := by
  intro same
  cases path with
  | nil => exact apart (congrArg List.head? same)
  | cons key rest => cases (List.cons.inj same).1

/-- A key before a path, unless nothing but a cast stands there. -/
theorem pathLexemes_cons (key : String) {path : List String} {yields : Yield}
    (notCast : path = [] → yields = .document) :
    pathLexemes (key :: path) yields =
      .plain '-' :: .plain '>' :: .literal key.toList :: pathLexemes path yields := by
  cases yields with
  | document => rfl
  | text =>
    rcases List.eq_nil_or_concat path with rfl | ⟨before, last, rfl⟩
    · cases notCast rfl
    · rw [List.concat_eq_append, ← List.cons_append, pathLexemes_concat, pathLexemes_concat]
      rfl

/-- Keys are read from no lexemes but their own. -/
theorem eq_of_readKeys {lexemes : List Lexeme} {path : List String} {yields : Yield}
    (h : readKeys lexemes = some (path, yields)) :
    lexemes = pathLexemes path yields ∧ (path = [] → yields = .document) := by
  fun_induction readKeys lexemes generalizing path with
  | case1 =>
    cases h
    exact ⟨rfl, fun _ => rfl⟩
  | case2 key =>
    cases h
    refine ⟨?_, by simp⟩
    rw [← List.nil_append [String.ofList key], pathLexemes_concat, String.toList_ofList]
    rfl
  | case3 key rest ih =>
    obtain ⟨⟨keys, _⟩, read, same⟩ := Option.map_eq_some_iff.1 h
    cases same
    obtain ⟨rfl, notCast⟩ := ih read
    refine ⟨?_, by simp⟩
    rw [pathLexemes_cons _ notCast, String.toList_ofList]
  | case4 => cases h

/-- Lexemes are read as a path exactly if they are those of the path. -/
theorem readPath_eq_some_iff {lexemes : List Lexeme} {path : List String} {yields : Yield} :
    readPath lexemes = some (path, yields) ↔ lexemes = pathLexemes path yields := by
  unfold readPath
  constructor
  · intro h
    split at h
    · rename_i cast
      cases h
      exact cast
    · exact (eq_of_readKeys h).1
  · rintro rfl
    cases yields with
    | document =>
      have notCast : keyLexemes path ++ [] ≠ textCast :=
        keyLexemes_append_ne_textCast path (by simp)
      have keys := readKeys_append path []
      rw [List.append_nil] at notCast keys
      rw [pathLexemes, if_neg notCast, keys, readKeys]
      simp
    | text =>
      cases last : path.getLast? with
      | none =>
        rw [List.getLast?_eq_none_iff] at last
        rw [last]
        rfl
      | some key =>
        obtain ⟨before, rfl⟩ := List.getLast?_eq_some_iff.1 last
        rw [pathLexemes_concat, if_neg (keyLexemes_append_ne_textCast before (by simp)),
          readKeys_append, readKeys]
        simp

/-- A path begins with an arrow or a cast, so none of it is read as part of the column. -/
theorem readColumn_pathLexemes (path : List String) (yields : Yield) :
    readColumn (pathLexemes path yields) = ([], pathLexemes path yields) := by
  have arrow (path : List String) (lexemes : List Lexeme)
      (apart : readColumn lexemes = ([], lexemes)) :
      readColumn (keyLexemes path ++ lexemes) = ([], keyLexemes path ++ lexemes) := by
    cases path with
    | nil => exact apart
    | cons key rest => rfl
  cases yields with
  | document => simpa [pathLexemes] using arrow path [] rfl
  | text =>
    simp only [pathLexemes]
    split
    · rfl
    · exact arrow _ _ rfl

/-- A text is read as an accessor exactly if it is the text of that accessor. -/
theorem readAccessor_eq_some_iff {α : Type} (next : Nat) {cs : List Char} {a : Accessor} :
    readAccessor cs = some a ↔
      isIdentifier a.column = true ∧ cs = (a.term : Term α).chars next := by
  constructor
  · intro h
    obtain ⟨lexemes, scanned, h⟩ := Option.bind_eq_some_iff.1 h
    obtain ⟨⟨path, yields⟩, read, h⟩ := Option.bind_eq_some_iff.1 h
    by_cases valid : isIdentifierChars (readColumn lexemes).1 = true
    · rw [if_pos valid] at h
      cases h
      have valid : isIdentifier (String.ofList (readColumn lexemes).1) = true := by
        rwa [isIdentifier, String.toList_ofList]
      refine ⟨valid, ?_⟩
      have written := @scan_term α next ⟨String.ofList (readColumn lexemes).1, path, yields⟩ valid
      dsimp only at written
      rw [String.toList_ofList, ← readPath_eq_some_iff.1 read, ← eq_of_readColumn] at written
      rw [← spell_of_scan scanned, spell_of_scan written]
    · rw [if_neg valid] at h
      cases h
  · rintro ⟨valid, rfl⟩
    have column := readColumn_append (isIdentifierPart_of_isIdentifierChars valid)
      (readColumn_pathLexemes a.path a.yields)
    unfold readAccessor
    rw [scan_term next valid]
    simp only [Option.bind_eq_bind, Option.bind_some, column]
    rw [readPath_eq_some_iff.2 rfl, Option.bind_some, String.ofList_toList]
    exact if_pos valid

/-- The accessors of a column can be told apart. Reading one gives back the column, the keys of the
path in their order and the form, whatever the keys hold. So different paths have different
accessors, for the document as for the text, and no accessor of a text is one of a document. -/
theorem accessors_decode {column : String} (valid : isIdentifier column = true) (next : Nat) :
    (∀ path, readAccessor ((jsonAccessor column path : Term Param).chars next) =
      some ⟨column, path, .document⟩) ∧
    (∀ path, readAccessor ((textAccessor column path : Term Param).chars next) =
      some ⟨column, path, .text⟩) ∧
    (fun path => (jsonAccessor column path : Term Param).chars next).Injective ∧
    (fun path => (textAccessor column path : Term Param).chars next).Injective ∧
    ∀ path path', (textAccessor column path : Term Param).chars next ≠
      (jsonAccessor column path' : Term Param).chars next := by
  have document (path : List String) :
      readAccessor ((jsonAccessor column path : Term Param).chars next) =
        some ⟨column, path, .document⟩ :=
    (readAccessor_eq_some_iff next).2 ⟨valid, rfl⟩
  have text (path : List String) :
      readAccessor ((textAccessor column path : Term Param).chars next) =
        some ⟨column, path, .text⟩ :=
    (readAccessor_eq_some_iff next).2 ⟨valid, rfl⟩
  refine ⟨document, text, ?_, ?_, ?_⟩
  · intro path path' same
    have read := congrArg readAccessor same
    simp only [document] at read
    cases read
    rfl
  · intro path path' same
    have read := congrArg readAccessor same
    simp only [text] at read
    cases read
    rfl
  · intro path path' same
    have read := congrArg readAccessor same
    rw [document, text] at read
    cases read

/-- Keys that look like the ends of literals, like arrows and like casts, and an empty one. -/
def lookalikeKeys : List String := ["it's", "'->>'", "", "::text", "''"]

/-- The text of the accessor of `lookalikeKeys`. -/
def lookalikeText : String := "m->'it''s'->'''->>'''->''->'::text'->>''''''"

/-- The keys are read back from the text, and so is the path without keys, in both forms. -/
theorem lookalikeKeys_decode :
    (textAccessor "m" lookalikeKeys : Term Param).chars 1 = lookalikeText.toList ∧
      readAccessor lookalikeText.toList = some ⟨"m", lookalikeKeys, .text⟩ ∧
      readAccessor "m::text".toList = some ⟨"m", [], .text⟩ ∧
      readAccessor "m".toList = some ⟨"m", [], .document⟩ := by
  have written : (textAccessor "m" lookalikeKeys : Term Param).chars 1 = lookalikeText.toList := by
    decide +kernel
  obtain ⟨document, text, -⟩ := accessors_decode (show isIdentifier "m" = true by decide) 1
  exact ⟨written, written ▸ text lookalikeKeys, text [], document []⟩

end FilterSql
