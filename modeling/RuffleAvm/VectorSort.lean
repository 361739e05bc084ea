/-
  RuffleAvm/VectorSort.lean
  =========================
  **`Vector.sort`** (`avm2/globals/vector.rs`) with a comparator that can
  fail.

  `sort` reads the vector's values and sorts them with `sort_unstable_by`,
  whose closure calls the comparator.  The closure cannot fail: on an error
  it stores the error in the local `error_signal` and answers `Less`, so the
  sort goes on to the end of its comparisons, and only then is
  `error_signal?` checked.  Each failing call overwrites the error stored
  before it.

  `sort_unstable_by` is core's, not in this source.  Any run of it is a
  schedule of comparisons (`SortSchedule`): a tree that picks the next two
  positions to compare from the answers so far, and ends in an order of the
  positions.  Over a whole schedule the closure folds its writes over the
  comparator's results, call by call (`run_closure`), so when a call fails
  `sort` returns the error of the last failing call, in the world the last
  comparator call left, with nothing written to the vector
  (`sort_of_failing_call`).  On the insertion sort `sort_unstable_by` runs on
  short slices, a comparator that always fails is called three times for
  three values, and its third error is returned (`sort_returns_last_error`).
  When no call fails, `sort` writes the sorted values back unless its options
  say not to (`sort_of_no_failing_call`), and on a schedule that ends in an
  order of all the positions, as insertion sort does, those values are the
  ones it read, reordered (`sort_writes_permutation`).

  The runtime `sort` calls into — calling a function, the number and `u32`
  conversions, the built-in comparisons, the vector's storage — is not in
  this source either: its operations are the fields of `SortRuntime`, on a
  world `σ`, in `EStateM`, so that a failing operation keeps the world it
  leaves.
-/
import Mathlib.Data.List.FinRange
import RuffleAvm.Vector

namespace RuffleAvm

/-! ### `sort_unstable_by` -/

/-- Modelled from the spec: the comparisons `slice::sort_unstable_by` (core,
    not in this source) makes on a slice of `n` values.  Each step compares
    the values that stood at two positions of the slice, and goes on by the
    answer; the end is the order of those positions in the sorted slice.  The
    schedule depends on nothing but the length and the answers, so every
    comparison sort has one. -/
inductive SortSchedule (n : Nat) where
  | done (order : List (Fin n))
  | compare (i j : Fin n) (next : Ordering → SortSchedule n)

namespace SortSchedule

variable {n : Nat} {α τ ρ σ S : Type}

/-- The schedule run with the comparison `compare`, which threads the state
    `τ` of a closure: the values in their final order, and the state after
    the last comparison. -/
def run (values : Fin n → α) (compare : α → α → τ → Ordering × τ) :
    SortSchedule n → τ → List α × τ
  | done order, t => (order.map values, t)
  | .compare i j next, t =>
    let r := compare (values i) (values j) t
    (next r.1).run values compare r.2

/-- The results of a comparator `cmp`, in the order of its calls, when the
    schedule goes on by the answer `answer` makes of each result; with the
    final order, and the world after the last call. -/
def calls (values : Fin n → α) (cmp : α → α → σ → ρ × σ) (answer : ρ → Ordering) :
    SortSchedule n → σ → List ρ × List (Fin n) × σ
  | done order, w => ([], order, w)
  | .compare i j next, w =>
    let r := cmp (values i) (values j) w
    let rest := (next (answer r.1)).calls values cmp answer r.2
    (r.1 :: rest.1, rest.2)

/-- A closure that calls `cmp`, answers by `answer` and writes its locals by
    `record`: over a whole schedule, it makes the comparator's calls and
    folds `record` over their results. -/
theorem run_closure (values : Fin n → α) (cmp : α → α → σ → ρ × σ)
    (answer : ρ → Ordering) (record : S → ρ → S) (s : SortSchedule n) (w : σ)
    (locals : S) :
    s.run values (fun a b t => let r := cmp a b t.1; (answer r.1, (r.2, record t.2 r.1)))
        (w, locals) =
      ((s.calls values cmp answer w).2.1.map values,
        ((s.calls values cmp answer w).2.2,
          (s.calls values cmp answer w).1.foldl record locals)) := by
  induction s generalizing w locals with
  | done order => rfl
  | compare i j next ih => simp only [run, calls, ih, List.foldl_cons]

/-- A property of the world that every comparator call keeps holds after
    all of them. -/
theorem calls_keeps (values : Fin n → α) (cmp : α → α → σ → ρ × σ)
    (answer : ρ → Ordering) (P : σ → Prop) (hcmp : ∀ a b w, P w → P (cmp a b w).2)
    (s : SortSchedule n) (w : σ) (hw : P w) : P (s.calls values cmp answer w).2.2 := by
  induction s generalizing w with
  | done order => exact hw
  | compare i j next ih => exact ih _ _ (hcmp _ _ _ hw)

/-- Every order the schedule can end in satisfies `P`. -/
def AllLeaves (P : List (Fin n) → Prop) : SortSchedule n → Prop
  | done order => P order
  | .compare _ _ next => ∀ o, (next o).AllLeaves P

theorem AllLeaves.imp {P Q : List (Fin n) → Prop} (hPQ : ∀ l, P l → Q l) :
    ∀ {s : SortSchedule n}, s.AllLeaves P → s.AllLeaves Q
  | done _, h => hPQ _ h
  | .compare _ _ _, h => fun o => AllLeaves.imp hPQ (h o)

/-- The order a run ends in is one of the schedule's final orders. -/
theorem calls_leaf {P : List (Fin n) → Prop} (values : Fin n → α) (cmp : α → α → σ → ρ × σ)
    (answer : ρ → Ordering) {s : SortSchedule n} (h : s.AllLeaves P) (w : σ) :
    P (s.calls values cmp answer w).2.1 := by
  induction s generalizing w with
  | done order => exact h
  | compare i j next ih => exact ih _ (h _) _

/-! #### Insertion sort -/

/-- Modelled from the spec: `shift_tail` of core's `insertion_sort`.  The
    value at `x` is compared with the values of the sorted run leftward
    (`ys`, from its right end) while it is less, the values it passes moving
    right (`passed`); then `k` goes on with the run holding `x`. -/
def shiftTail (x : Fin n) : List (Fin n) → List (Fin n) → (List (Fin n) → SortSchedule n) →
    SortSchedule n
  | [], passed, k => k (x :: passed)
  | y :: ys, passed, k =>
    .compare x y fun o =>
      if o = .lt then shiftTail x ys (y :: passed) k else k ((y :: ys).reverse ++ x :: passed)

/-- Modelled from the spec: core's `insertion_sort`, inserting each value of
    `xs` in turn into the sorted run `run` by `shift_tail`. -/
def insertionSort : List (Fin n) → List (Fin n) → SortSchedule n
  | [], run => .done run
  | x :: xs, run => shiftTail x run.reverse [] fun run => insertionSort xs run

/-- The positions `0, …, n - 1` of a slice of `n` values. -/
def positions (n : Nat) : List (Fin n) :=
  (List.range n).filterMap fun i => if h : i < n then some ⟨i, h⟩ else none

/-- Whatever the answers, `shift_tail` goes on with the run holding `x` and
    the values it passed, reordered. -/
theorem shiftTail_leaves {P : List (Fin n) → Prop} (x : Fin n) :
    ∀ (ys passed : List (Fin n)) (k : List (Fin n) → SortSchedule n),
      (∀ l, l.Perm (x :: (ys.reverse ++ passed)) → (k l).AllLeaves P) →
        (shiftTail x ys passed k).AllLeaves P
  | [], passed, k, hk => hk _ (List.Perm.refl _)
  | y :: ys, passed, k, hk => fun o => by
    simp only [shiftTail]
    split
    · exact shiftTail_leaves x ys (y :: passed) k fun l hl => hk l (hl.trans (by simp))
    · exact hk _ List.perm_middle

/-- Insertion sort ends in an order of the values inserted and of the run,
    each once. -/
theorem insertionSort_leaves :
    ∀ (xs run : List (Fin n)), (insertionSort xs run).AllLeaves (·.Perm (xs ++ run))
  | [], run => List.Perm.refl run
  | x :: xs, run => shiftTail_leaves x run.reverse [] _ fun l hl =>
      (insertionSort_leaves xs l).imp fun _ h =>
        h.trans ((hl.append_left xs).trans (by simp))

theorem map_val_positions (n : Nat) : (positions n).map Fin.val = List.range n := by
  rw [positions, List.map_filterMap]
  conv_rhs => rw [← List.filterMap_some (List.range n)]
  refine List.filterMap_congr fun i hi => ?_
  rw [dif_pos (List.mem_range.mp hi)]
  rfl

theorem positions_eq_finRange (n : Nat) : positions n = List.finRange n :=
  List.map_injective_iff.mpr Fin.val_injective (by rw [map_val_positions, List.map_coe_finRange])

end SortSchedule

/-- The schedule of `sort_unstable_by` on a slice of at most twenty values,
    which it sorts by insertion. -/
def insertionSortSchedule (n : Nat) : SortSchedule n :=
  SortSchedule.insertionSort (SortSchedule.positions n) []

/-- Insertion sort ends in an order of all the positions, each once. -/
theorem insertionSortSchedule_permutes (n : Nat) :
    (insertionSortSchedule n).AllLeaves (·.Perm (SortSchedule.positions n)) :=
  (SortSchedule.insertionSort_leaves _ []).imp fun _ h => by simpa using h

/-! ### Sort options and the runtime -/

/-- Modelled from the spec: `SortOptions` (`avm2/globals/array.rs`, not in
    this source), the flags of the `Array` sort constants `CASEINSENSITIVE`
    (1), `DESCENDING` (2), `UNIQUESORT` (4), `RETURNINDEXEDARRAY` (8) and
    `NUMERIC` (16). -/
structure SortOptions where
  caseInsensitive : Bool
  descending : Bool
  uniqueSort : Bool
  returnIndexedArray : Bool
  numeric : Bool
deriving DecidableEq, Repr

namespace SortOptions

/-- `SortOptions::empty`. -/
def empty : SortOptions := ⟨false, false, false, false, false⟩

/-- `SortOptions::from_bits_truncate`: the five flags' bits, the others
    dropped. -/
def fromBitsTruncate (bits : Nat) : SortOptions :=
  ⟨bits.testBit 0, bits.testBit 1, bits.testBit 2, bits.testBit 3, bits.testBit 4⟩

end SortOptions

/-- What `sort` asks of the runtime, on a world `σ`: whether a value is a
    function (`coerce_to_object(..).ok()` then `as_executable`), `coerce_to_u32`,
    calling a function on a receiver, `coerce_to_number`, the built-in
    comparisons `compare_numeric`, `compare_string_case_insensitive` and
    `compare_string_case_sensitive`, and the storage of the receiving vector,
    read (`iter().collect()`) and replaced (`replace_storage`). -/
structure SortRuntime (σ : Type) where
  asFunction : Value → Option Object
  coerceToU32 : Value → EStateM Error σ Nat
  call : Object → Object → List Value → EStateM Error σ Value
  coerceToNumber : Value → EStateM Error σ F64
  compareNumeric : Value → Value → EStateM Error σ Ordering
  compareStringCaseInsensitive : Value → Value → EStateM Error σ Ordering
  compareStringCaseSensitive : Value → Value → EStateM Error σ Ordering
  storage : σ → List Value
  replaceStorage : List Value → σ → σ

/-- A runtime operation's result apart from the world it leaves, and that
    world. -/
def callOutcome {σ α : Type} (x : EStateM Error σ α) (w : σ) : Except Error α × σ :=
  match x w with
  | .ok a w => (.ok a, w)
  | .error e w => (.error e, w)

/-- The order a comparator's number stands for: `Greater` above zero, `Less`
    below, and `Equal` otherwise, NaN included. -/
def F64.toOrdering : F64 → Ordering
  | .finite q => if q > 0 then .gt else if q < 0 then .lt else .eq
  | .posInf => .gt
  | .negInf => .lt
  | .nan => .eq

/-! ### `sort` -/

section SortNative

variable {σ : Type} (rt : SortRuntime σ)

/-- The `(compare_fnc, options)` of `sort`: a function argument with no
    options, or else the argument's `u32` cut to a byte, as option flags. -/
def sortArguments (fnOrOptions : Value) : EStateM Error σ (Option Object × SortOptions) :=
  match rt.asFunction fnOrOptions with
  | some compareFnc => pure (some compareFnc, SortOptions.empty)
  | none => do
    let bits ← rt.coerceToU32 fnOrOptions
    pure (none, SortOptions.fromBitsTruncate (bits % 256))

/-- The comparison closure `compare` of `sort`: the function called on the
    vector with the two values and its result made a number; without a
    function, the built-in comparison the options select. -/
def sortCompare (this : Object) (compareFnc : Option Object) (options : SortOptions)
    (a b : Value) : EStateM Error σ Ordering :=
  match compareFnc with
  | some compareFnc => do
    let order ← rt.coerceToNumber (← rt.call compareFnc this [a, b])
    pure order.toOrdering
  | none =>
    if options.numeric then rt.compareNumeric a b
    else if options.caseInsensitive then rt.compareStringCaseInsensitive a b
    else rt.compareStringCaseSensitive a b

/-- The two locals of `sort` that its `sort_unstable_by` closure writes. -/
structure SortSignals where
  uniqueSortSatisfied : Bool
  errorSignal : Except Error Unit

/-- The closure's answer to `sort_unstable_by` for a comparison's result:
    `Equal` as it is, another order reversed under `DESCENDING`, and `Less`
    for an error. -/
def sortAnswer (options : SortOptions) : Except Error Ordering → Ordering
  | .ok .eq => .eq
  | .ok v => if options.descending then v.swap else v
  | .error _ => .lt

/-- The closure's writes for a comparison's result: `Equal` clears
    `unique_sort_satisfied`, and an error is stored in `error_signal`, over
    whatever was stored there. -/
def sortRecord (signals : SortSignals) : Except Error Ordering → SortSignals
  | .ok .eq => { signals with uniqueSortSatisfied := false }
  | .ok _ => signals
  | .error e => { signals with errorSignal := .error e }

/-- `values.sort_unstable_by(..)` in `sort`, from the world `w`: the sorted
    values, the world after the last comparison, and the closure's locals. -/
def sortValues (sortUnstableBy : (n : Nat) → SortSchedule n)
    (compare : Value → Value → EStateM Error σ Ordering) (options : SortOptions)
    (values : List Value) (w : σ) : List Value × σ × SortSignals :=
  (sortUnstableBy values.length).run values.get
    (fun a b t =>
      let r := callOutcome (compare a b) t.1
      (sortAnswer options r.1, (r.2, sortRecord t.2 r.1)))
    (w, ⟨true, .ok ()⟩)

/-- `sort` on a vector receiver `this`: sort a copy of its values, then
    raise the stored error, if any; else write the sorted values back unless
    `RETURNINDEXEDARRAY` is set or `UNIQUESORT` found two equal values. -/
def sort (sortUnstableBy : (n : Nat) → SortSchedule n) (this : Object) (args : List Value) :
    EStateM Error σ Value := do
  let (compareFnc, options) ← sortArguments rt (args.getD 0 .undefined)
  let w ← get
  let (values, w, signals) := sortValues sortUnstableBy (sortCompare rt this compareFnc options)
    options (rt.storage w) w
  set w
  match signals.errorSignal with
  | .error e => throw e
  | .ok () =>
    if options.returnIndexedArray then pure (.object this)
    else do
      if !options.uniqueSort || signals.uniqueSortSatisfied then
        modify (rt.replaceStorage values)
      pure (.object this)

/-- The comparator calls `sort` makes from the world `w`, on the vector's
    values there: their results in order, the final order of the positions,
    and the world after the last call. -/
def sortCalls (sortUnstableBy : (n : Nat) → SortSchedule n) (this : Object)
    (compareFnc : Option Object) (options : SortOptions) (w : σ) :
    List (Except Error Ordering) × List (Fin (rt.storage w).length) × σ :=
  (sortUnstableBy (rt.storage w).length).calls (rt.storage w).get
    (fun a b => callOutcome (sortCompare rt this compareFnc options a b)) (sortAnswer options) w

end SortNative

/-! ### The closure over a whole sort -/

/-- The error of the last failing call among a list of results. -/
def lastError {α : Type} (rs : List (Except Error α)) : Option Error :=
  (rs.filterMap fun r => match r with | .error e => some e | .ok _ => none).getLast?

@[simp] theorem lastError_nil {α : Type} : lastError ([] : List (Except Error α)) = none := rfl

@[simp] theorem lastError_cons_ok {α : Type} (a : α) (rs : List (Except Error α)) :
    lastError (.ok a :: rs) = lastError rs := by
  simp [lastError]

@[simp] theorem lastError_cons_error {α : Type} (e : Error) (rs : List (Except Error α)) :
    lastError (.error e :: rs) = some ((lastError rs).getD e) := by
  simp only [lastError, List.filterMap_cons, List.getLast?_cons]

/-- After the sort, `error_signal` holds the last failing call's error, or
    what it held before when no call failed. -/
theorem errorSignal_foldl_sortRecord (rs : List (Except Error Ordering)) (signals : SortSignals) :
    (rs.foldl sortRecord signals).errorSignal =
      ((lastError rs).map Except.error).getD signals.errorSignal := by
  induction rs generalizing signals with
  | nil => rfl
  | cons r rs ih =>
    rw [List.foldl_cons, ih]
    rcases r with e | o
    · cases h : lastError rs <;> simp [sortRecord, h]
    · cases o <;> rfl

/-- `unique_sort_satisfied` stays set exactly when no comparison answered
    `Equal`. -/
theorem uniqueSortSatisfied_foldl_sortRecord (rs : List (Except Error Ordering))
    (signals : SortSignals) :
    (rs.foldl sortRecord signals).uniqueSortSatisfied =
      (signals.uniqueSortSatisfied && rs.all (·.toOption != some .eq)) := by
  induction rs generalizing signals with
  | nil => simp
  | cons r rs ih =>
    rw [List.foldl_cons, ih, List.all_cons]
    obtain ⟨u, _⟩ := signals
    rcases r with _ | (_ | _ | _) <;> cases u <;> rfl

section SortSpec

variable {σ : Type} (rt : SortRuntime σ)

/-- Sorting the values read from `w` makes `sort`'s comparator calls, and
    leaves the closure's locals folded over their results. -/
theorem sortValues_eq (sortUnstableBy : (n : Nat) → SortSchedule n) (this : Object)
    (compareFnc : Option Object) (options : SortOptions) (w : σ) :
    sortValues sortUnstableBy (sortCompare rt this compareFnc options) options (rt.storage w) w =
      ((sortCalls rt sortUnstableBy this compareFnc options w).2.1.map (rt.storage w).get,
        (sortCalls rt sortUnstableBy this compareFnc options w).2.2,
        (sortCalls rt sortUnstableBy this compareFnc options w).1.foldl sortRecord
          ⟨true, .ok ()⟩) :=
  SortSchedule.run_closure _ _ _ _ _ _ _

/-- When a comparator call fails, `sort` returns the error of the last
    failing call, once every comparison of the schedule has been made, in the
    world the last comparator call left: it writes nothing to the vector, so
    if the comparator calls leave the vector's storage alone it is the
    storage `sort` read.  This holds for every schedule, every argument and
    every runtime. -/
theorem sort_of_failing_call (sortUnstableBy : (n : Nat) → SortSchedule n) (this : Object)
    (args : List Value) {w w₁ : σ} {compareFnc : Option Object} {options : SortOptions}
    {e : Error}
    (hargs : sortArguments rt (args.getD 0 .undefined) w = .ok (compareFnc, options) w₁)
    (hfail : lastError (sortCalls rt sortUnstableBy this compareFnc options w₁).1 = some e) :
    sort rt sortUnstableBy this args w =
        .error e (sortCalls rt sortUnstableBy this compareFnc options w₁).2.2 ∧
      ((∀ a b w, rt.storage (callOutcome (sortCompare rt this compareFnc options a b) w).2 =
          rt.storage w) →
        rt.storage (sortCalls rt sortUnstableBy this compareFnc options w₁).2.2 =
          rt.storage w₁) := by
  refine ⟨?_, fun hkeep => ?_⟩
  · have hsignal := errorSignal_foldl_sortRecord
      (sortCalls rt sortUnstableBy this compareFnc options w₁).1 ⟨true, .ok ()⟩
    rw [hfail] at hsignal
    simp only [sort, bind, EStateM.bind, hargs, get, getThe, MonadStateOf.get, EStateM.get,
      sortValues_eq, set, EStateM.set]
    simp [hsignal]
    rfl
  · exact SortSchedule.calls_keeps _ _ _ (fun w' => rt.storage w' = rt.storage w₁)
      (fun a b w' hw' => (hkeep a b w').trans hw') _ _ rfl

/-- When no comparator call fails, `sort` returns the vector, and writes the
    sorted values to it unless `RETURNINDEXEDARRAY` is set, or `UNIQUESORT` is
    set and some comparison answered `Equal`. -/
theorem sort_of_no_failing_call (sortUnstableBy : (n : Nat) → SortSchedule n) (this : Object)
    (args : List Value) {w w₁ : σ} {compareFnc : Option Object} {options : SortOptions}
    (hargs : sortArguments rt (args.getD 0 .undefined) w = .ok (compareFnc, options) w₁)
    (hok : lastError (sortCalls rt sortUnstableBy this compareFnc options w₁).1 = none) :
    sort rt sortUnstableBy this args w =
      .ok (.object this)
        (if !options.returnIndexedArray && (!options.uniqueSort ||
            (sortCalls rt sortUnstableBy this compareFnc options w₁).1.all
              (·.toOption != some .eq))
          then rt.replaceStorage ((sortCalls rt sortUnstableBy this compareFnc options w₁).2.1.map
            (rt.storage w₁).get) (sortCalls rt sortUnstableBy this compareFnc options w₁).2.2
          else (sortCalls rt sortUnstableBy this compareFnc options w₁).2.2) := by
  have hsignal := errorSignal_foldl_sortRecord
    (sortCalls rt sortUnstableBy this compareFnc options w₁).1 ⟨true, .ok ()⟩
  rw [hok] at hsignal
  simp only [sort, bind, EStateM.bind, hargs, get, getThe, MonadStateOf.get, EStateM.get,
    sortValues_eq, set, EStateM.set]
  simp [hsignal, uniqueSortSatisfied_foldl_sortRecord]
  split_ifs <;> first | rfl | simp_all

end SortSpec

/-! ### A comparator that always fails -/

/-- A runtime whose one function, `⟨0⟩`, fails on every call with the call's
    ordinal, the world counting the calls; the vector holds three values. -/
def failingComparatorRuntime : SortRuntime Nat where
  asFunction
    | .object f => some f
    | _ => none
  coerceToU32 _ := pure 0
  call _ _ _ w := .error ("call " ++ toString (w + 1) ++ " failed") (w + 1)
  coerceToNumber _ := pure (.finite 0)
  compareNumeric _ _ := pure .eq
  compareStringCaseInsensitive _ _ := pure .eq
  compareStringCaseSensitive _ _ := pure .eq
  storage _ := [.undefined, .null, .bool true]
  replaceStorage _ w := w

theorem sort_of_failing_call_three_values :
    sortArguments failingComparatorRuntime ([Value.object ⟨0⟩].getD 0 .undefined) 0 =
        .ok (some ⟨0⟩, SortOptions.empty) 0 ∧
      lastError (sortCalls failingComparatorRuntime insertionSortSchedule ⟨1⟩ (some ⟨0⟩)
        SortOptions.empty 0).1 = some "call 3 failed" ∧
      (sort failingComparatorRuntime insertionSortSchedule ⟨1⟩ [.object ⟨0⟩] 0 =
          .error "call 3 failed" (sortCalls failingComparatorRuntime insertionSortSchedule ⟨1⟩
            (some ⟨0⟩) SortOptions.empty 0).2.2 ∧
        ((∀ a b w, failingComparatorRuntime.storage (callOutcome (sortCompare
            failingComparatorRuntime ⟨1⟩ (some ⟨0⟩) SortOptions.empty a b) w).2 =
              failingComparatorRuntime.storage w) →
          failingComparatorRuntime.storage (sortCalls failingComparatorRuntime
            insertionSortSchedule ⟨1⟩ (some ⟨0⟩) SortOptions.empty 0).2.2 =
              failingComparatorRuntime.storage 0)) :=
  ⟨rfl, rfl, sort_of_failing_call failingComparatorRuntime insertionSortSchedule ⟨1⟩
    [.object ⟨0⟩] rfl rfl⟩

/-- On three values, insertion sort calls the comparator three times though
    the first call already fails, and `sort` returns the third call's error,
    not the first's. -/
theorem sort_returns_last_error :
    (sortCalls failingComparatorRuntime insertionSortSchedule ⟨1⟩ (some ⟨0⟩) .empty 0).1 =
        [.error "call 1 failed", .error "call 2 failed", .error "call 3 failed"] ∧
      sort failingComparatorRuntime insertionSortSchedule ⟨1⟩ [.object ⟨0⟩] 0 =
        .error "call 3 failed" 3 :=
  ⟨rfl, rfl⟩

section Permutation

variable {σ : Type} (rt : SortRuntime σ)

/-- When every final order of `sort_unstable_by` is an order of all the
    positions, each once — as for insertion sort
    (`insertionSortSchedule_permutes`) — the values `sort` writes back are the
    values it read, reordered: none is lost or copied. -/
theorem sortCalls_map_perm (sortUnstableBy : (n : Nat) → SortSchedule n)
    (hperm : ∀ n, (sortUnstableBy n).AllLeaves (·.Perm (SortSchedule.positions n)))
    (this : Object) (compareFnc : Option Object) (options : SortOptions) (w : σ) :
    ((sortCalls rt sortUnstableBy this compareFnc options w).2.1.map (rt.storage w).get).Perm
      (rt.storage w) := by
  have h := SortSchedule.calls_leaf (rt.storage w).get
    (fun a b => callOutcome (sortCompare rt this compareFnc options a b)) (sortAnswer options)
    (hperm (rt.storage w).length) w
  rw [SortSchedule.positions_eq_finRange] at h
  simpa only [List.finRange_map_get] using h.map (rt.storage w).get

/-- When no comparator call fails, and every final order of
    `sort_unstable_by` is an order of all the positions, each once, as for
    insertion sort, `sort` returns the vector and either writes nothing to
    it or writes back the values it read, reordered: none is lost or
    copied. -/
theorem sort_writes_permutation (sortUnstableBy : (n : Nat) → SortSchedule n)
    (hperm : ∀ n, (sortUnstableBy n).AllLeaves (·.Perm (SortSchedule.positions n)))
    (this : Object) (args : List Value) {w w₁ : σ} {compareFnc : Option Object}
    {options : SortOptions}
    (hargs : sortArguments rt (args.getD 0 .undefined) w = .ok (compareFnc, options) w₁)
    (hok : lastError (sortCalls rt sortUnstableBy this compareFnc options w₁).1 = none) :
    ∃ w', sort rt sortUnstableBy this args w = .ok (.object this) w' ∧
        (w' = (sortCalls rt sortUnstableBy this compareFnc options w₁).2.2 ∨
          ∃ values, values.Perm (rt.storage w₁) ∧
            w' = rt.replaceStorage values (sortCalls rt sortUnstableBy this compareFnc options w₁).2.2) := by
  rw [sort_of_no_failing_call rt sortUnstableBy this args hargs hok]
  refine ⟨_, rfl, ?_⟩
  split
  · exact .inr ⟨_, sortCalls_map_perm rt sortUnstableBy hperm this compareFnc options w₁, rfl⟩
  · exact .inl rfl

end Permutation

/-- A runtime whose world is the vector's storage, sorted with `NUMERIC`
    (`16`) by comparing unsigned values; no call can fail. -/
def numericSortRuntime : SortRuntime (List Value) where
  asFunction _ := none
  coerceToU32 _ := pure 16
  call _ _ _ := throw "not a function"
  coerceToNumber _ := pure (.finite 0)
  compareNumeric
    | .unsigned a, .unsigned b => pure (compare a b)
    | _, _ => pure .eq
  compareStringCaseInsensitive _ _ := pure .eq
  compareStringCaseSensitive _ _ := pure .eq
  storage w := w
  replaceStorage values _ := values

/-- The values `3, 1, 2`, sorted by insertion with `NUMERIC`. -/
def threeUnsigned : List Value := [.unsigned 3, .unsigned 1, .unsigned 2]

theorem sort_writes_permutation_numeric :
    (∀ n, (insertionSortSchedule n).AllLeaves (·.Perm (SortSchedule.positions n))) ∧
    sortArguments numericSortRuntime ([Value.unsigned 16].getD 0 .undefined) threeUnsigned =
      .ok (none, SortOptions.fromBitsTruncate (16 % 256)) threeUnsigned ∧
    lastError (sortCalls numericSortRuntime insertionSortSchedule ⟨0⟩ none
      (SortOptions.fromBitsTruncate (16 % 256)) threeUnsigned).1 = none ∧
    ∃ w', sort numericSortRuntime insertionSortSchedule ⟨0⟩ [.unsigned 16] threeUnsigned = .ok (.object ⟨0⟩) w' ∧
        (w' = (sortCalls numericSortRuntime insertionSortSchedule ⟨0⟩ none (SortOptions.fromBitsTruncate (16 % 256)) threeUnsigned).2.2 ∨
          ∃ values, values.Perm (numericSortRuntime.storage threeUnsigned) ∧
            w' = numericSortRuntime.replaceStorage values (sortCalls numericSortRuntime insertionSortSchedule ⟨0⟩ none (SortOptions.fromBitsTruncate (16 % 256)) threeUnsigned).2.2) :=
  ⟨insertionSortSchedule_permutes, rfl, rfl, sort_writes_permutation numericSortRuntime
    insertionSortSchedule insertionSortSchedule_permutes ⟨0⟩ [.unsigned 16] rfl rfl⟩

/-- The values written back are the ones read, in order. -/
example : sort numericSortRuntime insertionSortSchedule ⟨0⟩ [.unsigned 16] threeUnsigned =
    .ok (.object ⟨0⟩) [.unsigned 1, .unsigned 2, .unsigned 3] := rfl

end RuffleAvm
