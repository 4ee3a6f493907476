import FilterSql.Error
import FilterSql.Param
import Mathlib.Data.List.Range

/-!
# Parameters collected in place

A list of parameters has no counter: the number of the next placeholder follows from its size. An
accumulator keeps such a counter and raises it with each parameter that it collects, one at a time.
However it is filled, it is the accumulator of its own parameters (`Collected.eq_ofGiven`), and it
gives the placeholders that the list gives (`addAll_ofGiven`).

A build is a sequence of steps on one accumulator that may be refused. A refusal ends it where it
stands: what was collected before is not taken back.
-/

set_option autoImplicit false

namespace FilterSql

/-- Parameters that were collected, and the number of the next placeholder. -/
structure Accumulator where
  params : List Param
  next : Nat
deriving DecidableEq

namespace Accumulator

/-- The accumulator that continues given parameters. -/
def ofGiven (given : List Param) : Accumulator := ⟨given, given.length + 1⟩

/-- Collects a parameter and gives its placeholder. -/
def add (acc : Accumulator) (p : Param) : String × Accumulator :=
  (String.ofList (ParamList.placeholder acc.next), ⟨acc.params ++ [p], acc.next + 1⟩)

/-- Collects parameters one after another and gives the placeholder of each. -/
def addEach (acc : Accumulator) : List Param → List String × Accumulator
  | [] => ([], acc)
  | p :: rest =>
    let (first, acc) := acc.add p
    let (others, acc) := acc.addEach rest
    (first :: others, acc)

/-- Collects parameters one after another and gives their placeholders, separated by commas. -/
def addAll (acc : Accumulator) (new : List Param) : String × Accumulator :=
  let (placeholders, acc) := acc.addEach new
  (", ".intercalate placeholders, acc)

/-- The accumulators that begin with given parameters and are filled by `add` and `addAll`. -/
inductive Collected : Accumulator → Prop
  | ofGiven (given : List Param) : Collected (ofGiven given)
  | add {acc : Accumulator} (h : Collected acc) (p : Param) : Collected (acc.add p).2
  | addAll {acc : Accumulator} (h : Collected acc) (new : List Param) :
      Collected (acc.addAll new).2

/-- Parameters that are collected one after another have the numbers from the counter on, and the
counter is raised by as many. -/
theorem addEach_eq (acc : Accumulator) (new : List Param) :
    acc.addEach new =
      ((List.range' acc.next new.length).map fun n => String.ofList (ParamList.placeholder n),
        ⟨acc.params ++ new, acc.next + new.length⟩) := by
  induction new generalizing acc with
  | nil => simp [addEach]
  | cons p rest ih =>
    have raised : acc.next + 1 + rest.length = acc.next + (p :: rest).length := by
      simp only [List.length_cons]
      omega
    simp only [addEach, add, ih, raised, List.length_cons, List.range'_succ, List.map_cons,
      List.append_assoc, List.singleton_append]

/-- Collected parameters stand behind those before them, and raise the counter by their number. -/
theorem addAll_snd (acc : Accumulator) (new : List Param) :
    (acc.addAll new).2 = ⟨acc.params ++ new, acc.next + new.length⟩ := by
  rw [addAll, addEach_eq]

/-- The counter of a list with a parameter more is one higher. -/
theorem add_ofGiven (given : ParamList) (p : Param) :
    (ofGiven given.items).add p = ((given.add p).2, ofGiven (given.add p).1.items) := by
  simp [add, ofGiven, ParamList.add, ParamList.next, ParamList.size]

/-- Collecting one after another gives the placeholders that a list gives at once. -/
theorem addAll_ofGiven (given : ParamList) (new : List Param) :
    (ofGiven given.items).addAll new =
      ((given.addAll new).2, ofGiven (given.addAll new).1.items) := by
  rw [addAll, addEach_eq]
  simp [ofGiven, ParamList.addAll, ParamList.next, ParamList.size, List.range'_eq_map_range,
    Function.comp_def, Nat.add_assoc, Nat.add_comm]

/-- However an accumulator was filled, its counter is one above the number of its parameters. -/
theorem Collected.next_eq {acc : Accumulator} (h : acc.Collected) :
    acc.next = acc.params.length + 1 := by
  induction h with
  | ofGiven given => rfl
  | add _ p ih =>
    simp only [Accumulator.add, List.length_append, List.length_singleton]
    omega
  | addAll _ new ih =>
    simp only [addAll_snd, List.length_append]
    omega

/-- However an accumulator was filled, it is the one that continues its own parameters. -/
theorem Collected.eq_ofGiven {acc : Accumulator} (h : acc.Collected) :
    acc = .ofGiven acc.params := by
  obtain ⟨params, next⟩ := acc
  have next_eq : next = params.length + 1 := h.next_eq
  subst next_eq
  rfl

end Accumulator

/-- Steps on an accumulator that may be refused. -/
def Build (α : Type) : Type := ExceptT CompileError (StateM Accumulator) α

namespace Build

/-- Builds are steps one after another; a refusal passes over those behind it. -/
instance : Monad Build := inferInstanceAs (Monad (ExceptT CompileError (StateM Accumulator)))

/-- Builds may be regrouped, and those that only give a result may be left out. -/
instance : LawfulMonad Build :=
  inferInstanceAs (LawfulMonad (ExceptT CompileError (StateM Accumulator)))

variable {α β : Type}

/-- What a build gives on an accumulator, and the accumulator that it leaves. -/
def on (b : Build α) (acc : Accumulator) : Except CompileError α × Accumulator :=
  StateT.run (ExceptT.run b) acc

/-- A step that does not look at the accumulator. -/
def check (x : Except CompileError α) : Build α := ExceptT.mk (pure x)

/-- The build that is refused. -/
def refuse (e : CompileError) : Build α := check (.error e)

/-- Collects a parameter and gives its placeholder. -/
def collect (p : Param) : Build String := ExceptT.mk fun acc => (.ok (acc.add p).1, (acc.add p).2)

/-- Collects parameters and gives their placeholders, separated by commas. -/
def collectAll (new : List Param) : Build String :=
  ExceptT.mk fun acc => (.ok (acc.addAll new).1, (acc.addAll new).2)

variable {b : Build α} {k : α → Build β} {acc acc' : Accumulator}

/-- Giving something leaves the accumulator alone. -/
@[simp] theorem on_pure (a : α) : (pure a : Build α).on acc = (.ok a, acc) := rfl

/-- A check leaves the accumulator alone, whether it is passed or not. -/
@[simp] theorem on_check (x : Except CompileError α) : (check x).on acc = (x, acc) := rfl

/-- A refusal leaves the accumulator alone. -/
@[simp] theorem on_refuse (e : CompileError) : (refuse e : Build α).on acc = (.error e, acc) := rfl

/-- A parameter is collected on the accumulator that there is. -/
@[simp] theorem on_collect (p : Param) :
    (collect p).on acc = (.ok (acc.add p).1, (acc.add p).2) := rfl

/-- Parameters are collected on the accumulator that there is. -/
@[simp] theorem on_collectAll (new : List Param) :
    (collectAll new).on acc = (.ok (acc.addAll new).1, (acc.addAll new).2) := rfl

/-- What stands behind a build goes on with the accumulator that the build leaves, unless it is
refused. -/
theorem on_bind : (b >>= k).on acc =
    match b.on acc with
    | (.ok a, acc') => (k a).on acc'
    | (.error e, acc') => (.error e, acc') := by
  show (ExceptT.bindCont k (b.on acc).1 (b.on acc).2 : Except CompileError β × Accumulator) = _
  obtain ⟨x, acc'⟩ := b.on acc
  cases x <;> rfl

/-- What stands behind a build that succeeds goes on with what it gives and leaves. -/
theorem on_bind_of_ok {a : α} (first : b.on acc = (.ok a, acc')) :
    (b >>= k).on acc = (k a).on acc' := by
  rw [on_bind, first]

/-- A build that is refused leaves what its steps up to then have left. -/
theorem on_bind_of_error {e : CompileError} (first : b.on acc = (.error e, acc')) :
    (b >>= k).on acc = (.error e, acc') := by
  rw [on_bind, first]

end Build

end FilterSql
