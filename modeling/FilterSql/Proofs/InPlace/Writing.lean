import FilterSql.Proofs.InPlace.Accumulator
import FilterSql.Proofs.Sql.Values

/-!
# Rows written in place

A build writes a row of pieces if it gives the text of the row behind the parameters that it finds,
and collects what the holes of the row hold (`Writes`). Text that is put around what a build gives
adds pieces around its row (`Around`). A build settles on what is found apart from any accumulator
if it writes the row of what was found, and if it is refused for the same cause otherwise, and then
has collected nothing (`Settles`).
-/

set_option autoImplicit false

namespace FilterSql

open Sql Build

/-- A row without holes, and its text. -/
def HasText (text : String) (row : List (Piece Param)) : Prop :=
  holeValues row = [] ∧ ∀ next, charsFrom next row = text.toList

/-- A build that gives the text of a row and collects what is in its holes. -/
def Writes (b : Build String) (row : List (Piece Param)) : Prop :=
  ∀ given : ParamList, b.on (.ofGiven given.items) =
    (.ok (bindPieces row given).1, .ofGiven (bindPieces row given).2.items)

/-- A row that is written by writing something around another. -/
def Around (f : String → String) (row row' : List (Piece Param)) : Prop :=
  ∀ given, bindPieces row' given = (f (bindPieces row given).1, (bindPieces row given).2)

/-! ## Rows without holes -/

/-- Code is written as it stands. -/
theorem hasText_code (text : String) : HasText text [.code text] :=
  ⟨rfl, fun _ => List.append_nil _⟩

/-- Quoted text is written with its quotes. -/
theorem hasText_quoted (text : String) : HasText (String.ofList (quoteChars text)) [.quoted text] :=
  ⟨rfl, fun _ => by simp [charsFrom]⟩

section

variable {s s' : String} {ps qs row row' row'' : List (Piece Param)} {b : Build String}
  {f g : String → String}

/-- A row behind another is written behind it. -/
theorem HasText.append (h : HasText s ps) (h' : HasText s' qs) : HasText (s ++ s') (ps ++ qs) := by
  constructor
  · rw [holeValues_append, h.1, h'.1, List.append_nil]
  · intro next
    rw [charsFrom_append, h.2, h'.2, String.toList_append]

/-! ## Rows around rows -/

/-- What is written around a row may have more written around it. -/
theorem Around.comp (inner : Around f row row') (outer : Around g row' row'') :
    Around (fun text => g (f text)) row row'' := by
  intro given
  rw [outer, inner]

/-- Rows without holes are written on both sides of another, which keeps its numbers. -/
theorem around_between (row : List (Piece Param)) (before : HasText s ps) (after : HasText s' qs) :
    Around (fun text => s ++ text ++ s') row (ps ++ row ++ qs) := by
  intro given
  simp [bindPieces, charsFrom_append, holeValues_append, before.1, before.2, after.1, after.2,
    String.ext_iff]

/-- A row without holes is written before another. -/
theorem around_behind (row : List (Piece Param)) (before : HasText s ps) :
    Around (fun text => s ++ text) row (ps ++ row) := by
  intro given
  simp [bindPieces, charsFrom_append, holeValues_append, before.1, before.2]

/-- A row without holes is written behind another. -/
theorem around_before (row : List (Piece Param)) (after : HasText s qs) :
    Around (fun text => text ++ s) row (row ++ qs) := by
  intro given
  simp [bindPieces, charsFrom_append, holeValues_append, after.1, after.2]

/-! ## Builds that write rows -/

/-- A text without placeholders is given and nothing is collected. -/
theorem writes_pure (h : HasText s row) : Writes (pure s) row := by
  intro given
  simp [bindPieces, h.1, h.2]

/-- A build writes what stands around its row if the text is changed accordingly. -/
theorem Writes.around (h : Writes b row) (around : Around f row row') :
    Writes (b >>= fun text => pure (f text)) row' := by
  intro given
  rw [on_bind_of_ok (h given), on_pure, around given]

end

/-- Collecting a parameter writes one hole. -/
theorem writes_collect (p : Param) : Writes (collect p) [.hole p] := by
  intro given
  rw [on_collect, Accumulator.add_ofGiven]
  simp [bindPieces, charsFrom, holeValues, ParamList.add]

/-- Holes are numbered one after another, and separated by commas. -/
theorem bindPieces_holes (given : ParamList) (values : List Param) :
    bindPieces (holes values) given = ((given.addAll values).2, (given.addAll values).1) := by
  have chars : ∀ next, charsFrom next (holes values) = (", ".intercalate
      ((List.range' next values.length).map fun n =>
        String.ofList (ParamList.placeholder n))).toList := by
    induction values using holes.induct with
    | case1 => exact fun _ => rfl
    | case2 value => simp [holes, charsFrom]
    | case3 value rest nonempty ih =>
      intro next
      obtain ⟨second, others, rfl⟩ := List.exists_cons_of_ne_nil nonempty
      rw [holes, charsFrom, charsFrom, ih]
      · simp [List.range'_succ, String.intercalate_cons_cons]
      · exact nonempty
  rw [bindPieces, chars, String.ofList_toList, holeValues_holes, List.range'_eq_map_range,
    List.map_map]
  rfl

/-- Collecting parameters writes a hole for each, with commas between them. -/
theorem writes_collectAll (values : List Param) : Writes (collectAll values) (holes values) := by
  intro given
  rw [on_collectAll, Accumulator.addAll_ofGiven, bindPieces_holes]

/-! ## Builds that settle -/

section

variable {α β γ : Type}

/-- A build that is refused for the same cause as a step, and has collected nothing then, and
otherwise writes the row of what the step gives. -/
structure Settles (row : α → List (Piece Param)) (b : Build String) (x : Except CompileError α) :
    Prop where
  refused : ∀ e, x = .error e → ∀ acc, b.on acc = (.error e, acc)
  written : ∀ a, x = .ok a → Writes b (row a)

variable {row : α → List (Piece Param)} {row' : β → List (Piece Param)} {b : Build String}
  {x : Except CompileError α}

/-- A refusal collects nothing. -/
theorem settles_refuse (e : CompileError) : Settles row (refuse e) (.error e) := by
  constructor
  · intro e' same acc
    cases same
    exact on_refuse e
  · intro a same
    cases same

/-- A build that is not refused settles on what it writes. -/
theorem settles_ok {a : α} (h : Writes b (row a)) : Settles row b (.ok a) := by
  constructor
  · intro e same
    cases same
  · intro a' same
    cases same
    exact h

/-- What is checked before a build goes on is found apart from the accumulator. -/
theorem settles_check {y : Except CompileError γ} {k : γ → Build String}
    {g : γ → Except CompileError α} (h : ∀ c, y = .ok c → Settles row (k c) (g c)) :
    Settles row (check y >>= k) (y >>= g) := by
  cases found : y with
  | error e => exact settles_refuse e
  | ok c => exact h c found

/-- What a build settles on may have something written around it. -/
theorem Settles.around {f : String → String} {g : α → β} (h : Settles row b x)
    (around : ∀ a, Around f (row a) (row' (g a))) :
    Settles row' (b >>= fun text => pure (f text)) (x >>= fun a => pure (g a)) := by
  cases found : x with
  | error e =>
    constructor
    · intro e' same acc
      cases same
      exact on_bind_of_error (h.refused e found acc)
    · intro a same
      cases same
  | ok a => exact settles_ok ((h.written a found).around (around a))

end

/-! ## Builds in sequence -/

section

variable {α β γ : Type}

/-- A build that is refused for the same cause as a step, and otherwise does what `bind` says of
what the step gives. Whatever it does, the parameters before it stay in front. -/
structure Reaches (bind : β → ParamList → α × ParamList) (b : Build α)
    (x : Except CompileError β) : Prop where
  refused : ∀ e, x = .error e → ∀ given : ParamList, ∃ new,
    b.on (.ofGiven given.items) = (.error e, .ofGiven (given.items ++ new))
  bound : ∀ c, x = .ok c → ∀ given : ParamList,
    b.on (.ofGiven given.items) = (.ok (bind c given).1, .ofGiven (bind c given).2.items)

variable {bind : β → ParamList → α × ParamList} {b : Build α} {x : Except CompileError β}

/-- A build that is refused has to keep the parameters before it, and may leave others behind them.
-/
theorem reaches_error {e : CompileError} (h : ∀ given : ParamList, ∃ new,
    b.on (.ofGiven given.items) = (.error e, .ofGiven (given.items ++ new))) :
    Reaches bind b (.error e) := by
  constructor
  · intro e' same
    cases same
    exact h
  · intro c same
    cases same

/-- A build that is not refused has to do what is said of its result. -/
theorem reaches_ok {c : β} (h : ∀ given : ParamList, b.on (.ofGiven given.items) =
    (.ok (bind c given).1, .ofGiven (bind c given).2.items)) : Reaches bind b (.ok c) := by
  constructor
  · intro e same
    cases same
  · intro c' same
    cases same
    exact h

/-- A refusal keeps the parameters before it, and leaves no others. -/
theorem reaches_refuse (e : CompileError) : Reaches bind (refuse e) (.error e) :=
  reaches_error fun given => ⟨[], by simp⟩

/-- What is checked before a build goes on collects nothing. -/
theorem reaches_check {y : Except CompileError γ} {k : γ → Build α}
    {g : γ → Except CompileError β} (h : ∀ c, y = .ok c → Reaches bind (k c) (g c)) :
    Reaches bind (check y >>= k) (y >>= g) := by
  cases found : y with
  | error e => exact reaches_refuse e
  | ok c => exact h c found

/-- The result of a build may be changed, if what is said of it is changed accordingly. -/
theorem Reaches.map {δ ε : Type} {bind' : δ → ParamList → ε × ParamList} {f : α → ε} {g : β → δ}
    (h : Reaches bind b x)
    (same : ∀ c given, bind' (g c) given = (f (bind c given).1, (bind c given).2)) :
    Reaches bind' (b >>= fun a => pure (f a)) (x >>= fun c => pure (g c)) := by
  cases found : x with
  | error e =>
    refine reaches_error fun given => ?_
    obtain ⟨new, left⟩ := h.refused e found given
    exact ⟨new, on_bind_of_error left⟩
  | ok c =>
    refine reaches_ok fun given => ?_
    rw [on_bind_of_ok (h.bound c found given), on_pure, same]

/-- A refusal of the second of two builds leaves what the first has collected. -/
theorem Reaches.seq {α' β' δ ε : Type} {bind' : β' → ParamList → α' × ParamList}
    {both : δ → ParamList → ε × ParamList} {b' : Build α'} {y : Except CompileError β'}
    {f : α → α' → ε} {g : β → β' → δ} (first : Reaches bind b x) (second : Reaches bind' b' y)
    (kept : ∀ c given, given.items <+: (bind c given).2.items)
    (same : ∀ c d given, both (g c d) given =
      (f (bind c given).1 (bind' d (bind c given).2).1, (bind' d (bind c given).2).2)) :
    Reaches both (b >>= fun a => b' >>= fun a' => pure (f a a'))
      (x >>= fun c => y >>= fun d => pure (g c d)) := by
  cases found : x with
  | error e =>
    refine reaches_error fun given => ?_
    obtain ⟨new, left⟩ := first.refused e found given
    exact ⟨new, on_bind_of_error left⟩
  | ok c =>
    have bound := first.bound c found
    cases next : y with
    | error e =>
      refine reaches_error fun given => ?_
      obtain ⟨old, behind⟩ := kept c given
      obtain ⟨new, left⟩ := second.refused e next (bind c given).2
      refine ⟨old ++ new, ?_⟩
      rw [on_bind_of_ok (bound given), on_bind_of_error left, ← behind, List.append_assoc]
    | ok d =>
      refine reaches_ok fun given => ?_
      rw [on_bind_of_ok (bound given), on_bind_of_ok (second.bound d next (bind c given).2),
        on_pure, same]

/-- A build that settles on a condition does what binding the condition does. -/
theorem Settles.reaches {b : Build String} {x : Except CompileError (Condition Param)}
    (h : Settles Condition.pieces b x) : Reaches Condition.bindTo b x := by
  constructor
  · intro e refused given
    refine ⟨[], ?_⟩
    rw [List.append_nil]
    exact h.refused e refused _
  · exact fun c found => h.written c found

end

end FilterSql
