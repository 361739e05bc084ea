/-
  RuffleAvm/Vector.lean
  =====================
  **`Vector.splice`, `Vector.indexOf` and `Vector.lastIndexOf`**
  (`avm2/globals/vector.rs`).

  `splice` clamps its start and end so that `start ≤ end ≤ length`
  (`spliceRange_le`), and replaces that range by the coerced values
  `args[2..]` (`splice_of_two_args`).  It reads its first two arguments with
  `args.get`, defaulting to `undefined`, but takes the rest as the slice
  `args[2..]`, which panics on fewer than two arguments
  (`splice_panics_on_short_args`).

  `indexOf` and `lastIndexOf` turn a negative `fromIndex` into
  `max(length + fromIndex, 0)` and hand it to `ArrayIter::with_bounds`, as the
  first index to search forward from or the last to search back from.  Each
  loop finds the least, or the greatest, index of its range holding the value
  (`findNext_isFirstIn`, `findNextBack_isLastIn`), so both searches are
  described exactly (`vectorSearch_spec`).  A `fromIndex` that reaches before
  the start still searches index 0 (`lastIndexOf_before_start`).

  `VectorStorage`, `ArrayIter` and the value conversions are not in this
  source.  The parts of them that decide nothing here are parameters: the
  runtime's number conversion of a string or an object (`toNumber`), the
  coercion of an inserted value to the vector's type (`coerceToType`), value
  equality (`valueEq`), and the error a fixed vector raises (`fixedError`).
-/
import RuffleAvm.Value

namespace RuffleAvm

/-- A native's result: an error, a value, or `none` for a panic. -/
abbrev Native := ExceptT Error Option

/-- A call that cannot panic, as a `Native`. -/
def Native.ofExcept {α : Type} (x : Except Error α) : Native α := ExceptT.mk (some x)

@[simp] theorem Native.ofExcept_ok_bind {α β : Type} (a : α) (f : α → Native β) :
    Native.ofExcept (.ok a) >>= f = f a := rfl

@[simp] theorem Native.ofExcept_error_bind {α β : Type} (e : Error) (f : α → Native β) :
    Native.ofExcept (.error e) >>= f = Native.ofExcept (.error e) := rfl

/-- Modelled from the spec: `Value::coerce_to_i32` (`avm2/value.rs`, not in
    this source), ECMAScript's `ToInt32`; a string or an object is first made a
    number by the runtime. -/
def Value.coerceToI32 (toNumber : Value → Except Error F64) : Value → Except Error I32
  | .undefined => .ok 0
  | .null => .ok 0
  | .bool b => .ok (I32.wrap (if b then 1 else 0))
  | .number n => .ok (f64ToWrappingI32 n)
  | .unsigned u => .ok (I32.wrap u.toNat)
  | .integer i => .ok i
  | v => f64ToWrappingI32 <$> toNumber v

/-! ### Vector storage -/

/-- Modelled from the spec: `VectorStorage` (`avm2/vector.rs`, not in this
    source) — the values, and whether the vector is fixed. -/
structure VectorStorage where
  storage : List Value
  isFixed : Bool
deriving DecidableEq, Repr

namespace VectorStorage

/-- `length`. -/
def length (vs : VectorStorage) : Nat := vs.storage.length

/-- Modelled from the spec: `clamp_parameter_index` — a negative position
    counts from the end, and the result is clamped to `0..=length`. -/
def clampParameterIndex (vs : VectorStorage) (pos : I32) : Nat :=
  if pos.val < 0 then (max (pos.val + vs.length) 0).toNat else min pos.val.toNat vs.length

theorem clampParameterIndex_le (vs : VectorStorage) (pos : I32) :
    vs.clampParameterIndex pos ≤ vs.length := by
  unfold clampParameterIndex
  split_ifs <;> omega

/-- Modelled from the spec: `VectorStorage::splice` — `Vec::splice` on the
    values, which panics unless `start ≤ end ≤ length`; a fixed vector refuses
    it with `fixedError`.  It returns the values removed. -/
def splice (fixedError : Error) (vs : VectorStorage) (start «end» : Nat)
    (replaceWith : List Value) : Native (List Value × VectorStorage) :=
  if vs.isFixed then throw fixedError
  else if start ≤ «end» ∧ «end» ≤ vs.length then
    pure ((vs.storage.drop start).take («end» - start),
      { vs with storage := vs.storage.take start ++ replaceWith ++ vs.storage.drop «end» })
  else ExceptT.lift none

/-- `VectorStorage::from_values(values, false, value_type)`. -/
def fromValues (values : List Value) : VectorStorage := ⟨values, false⟩

/-- The range `splice` replaces: the clamped start, and an end from the delete
    count — clamped itself when negative, counted from the start otherwise —
    kept between the start and the length. -/
def spliceRange (vs : VectorStorage) (startLen deleteLen : I32) : Nat × Nat :=
  let start := vs.clampParameterIndex startLen
  (start, max start (min
    (if deleteLen.val < 0 then vs.clampParameterIndex deleteLen else start + deleteLen.val.toNat)
    vs.length))

/-- `start ≤ end ≤ length`, so `Vec::splice` never panics. -/
theorem spliceRange_le (vs : VectorStorage) (startLen deleteLen : I32) :
    (vs.spliceRange startLen deleteLen).1 ≤ (vs.spliceRange startLen deleteLen).2 ∧
      (vs.spliceRange startLen deleteLen).2 ≤ vs.length :=
  ⟨le_max_left _ _, max_le (vs.clampParameterIndex_le startLen) (min_le_right _ _)⟩

end VectorStorage

/-! ### `splice` -/

/-- `args[start..]`: it panics when `start` is past the end. -/
def sliceFrom (args : List Value) (start : Nat) : Native (List Value) :=
  if start ≤ args.length then pure (args.drop start) else ExceptT.lift none

theorem sliceFrom_two (a b : Value) (rest : List Value) :
    sliceFrom (a :: b :: rest) 2 = pure rest := by
  rw [sliceFrom, if_pos (by simp)]
  rfl

section Splice

variable (toNumber : Value → Except Error F64) (coerceToType : Value → Except Error Value)
  (fixedError : Error)

/-- `splice` on a vector receiver: the new vector of the removed values, and
    the receiver after. -/
def splice (vs : VectorStorage) (args : List Value) : Native (VectorStorage × VectorStorage) := do
  let startLen ← Native.ofExcept <| (args.getD 0 .undefined).coerceToI32 toNumber
  let deleteLen ← Native.ofExcept <| (args.getD 1 .undefined).coerceToI32 toNumber
  let (start, «end») := vs.spliceRange startLen deleteLen
  let toCoerce ← Native.ofExcept <| (← sliceFrom args 2).mapM coerceToType
  let (removed, vs) ← vs.splice fixedError start «end» toCoerce
  pure (VectorStorage.fromValues removed, vs)

/-- With fewer than two arguments, `args[2..]` panics: with none, and with a
    start alone. -/
theorem splice_panics_on_short_args (vs : VectorStorage) (s : I32) :
    (splice toNumber coerceToType fixedError vs []).run = none ∧
      (splice toNumber coerceToType fixedError vs [.integer s]).run = none :=
  ⟨rfl, rfl⟩

/-- With two arguments or more, `splice` never panics: it fails only where a
    coercion does, or on a fixed vector, and otherwise returns the values in
    `start..end` and leaves the receiver with them replaced by the coerced
    rest. -/
theorem splice_of_two_args (vs : VectorStorage) (a b : Value) (rest : List Value) :
    (splice toNumber coerceToType fixedError vs (a :: b :: rest)).run = some (do
      let startLen ← a.coerceToI32 toNumber
      let deleteLen ← b.coerceToI32 toNumber
      let toCoerce ← rest.mapM coerceToType
      let (start, «end») := vs.spliceRange startLen deleteLen
      if vs.isFixed then throw fixedError
      else pure (VectorStorage.fromValues ((vs.storage.drop start).take («end» - start)),
        { vs with storage := vs.storage.take start ++ toCoerce ++ vs.storage.drop «end» })) := by
  cases ha : a.coerceToI32 toNumber with
  | error e => simp only [splice, List.getD_cons_zero, ha, Native.ofExcept_error_bind]; rfl
  | ok s =>
    cases hb : b.coerceToI32 toNumber with
    | error e =>
      simp only [splice, List.getD_cons_zero, List.getD_cons_succ, ha, hb,
        Native.ofExcept_ok_bind, Native.ofExcept_error_bind]
      rfl
    | ok d =>
      obtain ⟨h1, h2⟩ := vs.spliceRange_le s d
      cases hr : rest.mapM coerceToType with
      | error e =>
        simp only [splice, List.getD_cons_zero, List.getD_cons_succ, ha, hb, hr, sliceFrom_two,
          Native.ofExcept_ok_bind, Native.ofExcept_error_bind, pure_bind]
        rfl
      | ok items =>
        cases hf : vs.isFixed <;>
          simp only [splice, List.getD_cons_zero, List.getD_cons_succ, ha, hb, hr, sliceFrom_two,
            Native.ofExcept_ok_bind, pure_bind, VectorStorage.splice, hf, h1, h2, and_self,
            if_true, if_false] <;> rfl

end Splice

/-! ### Searching -/

/-- `u32::MAX`. -/
def u32Max : Nat := 4294967295

/-- Modelled from the spec: `ArrayIter` (`avm2/array.rs`, not in this source),
    an iterator over the indices `index..revIndex` of an array-like object,
    from the front with `next` and from the back with `next_back`. -/
structure ArrayIter where
  index : Nat
  revIndex : Nat
deriving DecidableEq, Repr

namespace ArrayIter

/-- Modelled from the spec: `ArrayIter::with_bounds` over an object of length
    `length` — the indices `startIndex..=endIndex` below the length. -/
def withBounds (length startIndex endIndex : Nat) : ArrayIter :=
  ⟨min startIndex length, min (min (endIndex + 1) u32Max) length⟩

/-- Modelled from the spec: `ArrayIter::next`. -/
def next (it : ArrayIter) : Option (Nat × ArrayIter) :=
  if it.index < it.revIndex then some (it.index, { it with index := it.index + 1 }) else none

/-- Modelled from the spec: `ArrayIter::next_back`. -/
def nextBack (it : ArrayIter) : Option (Nat × ArrayIter) :=
  if it.index < it.revIndex then some (it.revIndex - 1, { it with revIndex := it.revIndex - 1 })
  else none

theorem next_eq_some {it : ArrayIter} {i : Nat} {it' : ArrayIter} :
    it.next = some (i, it') ↔
      it.index < it.revIndex ∧ i = it.index ∧ it' = ⟨it.index + 1, it.revIndex⟩ := by
  unfold next
  split_ifs with h <;> simp [h, eq_comm, and_comm]

theorem nextBack_eq_some {it : ArrayIter} {i : Nat} {it' : ArrayIter} :
    it.nextBack = some (i, it') ↔
      it.index < it.revIndex ∧ i = it.revIndex - 1 ∧ it' = ⟨it.index, it.revIndex - 1⟩ := by
  unfold nextBack
  split_ifs with h <;> simp [h, eq_comm, and_comm]

end ArrayIter

/-- The value of a search: the index found, as `u32` is converted to a value,
    or `-1`. -/
def indexValue : Option Nat → Value
  | some i => .unsigned (UInt32.ofNat i)
  | none => .integer ⟨-1, by decide, by decide⟩

/-- `fromIndex` as both searches read it: a negative one counts from the end of
    the `length` read back as an `i32`, and is clamped at 0. -/
def fromIndexBound (length : Nat) (fromIndex : I32) : Nat :=
  if fromIndex.val < 0 then (max ((I32.wrap length).val + fromIndex.val) 0).toNat
  else fromIndex.val.toNat

/-- `r` is the least index in `lo..hi` where `p` holds, or `none` when it
    holds at none. -/
def IsFirstIn (p : Nat → Bool) (lo hi : Nat) : Option Nat → Prop
  | some i => lo ≤ i ∧ i < hi ∧ p i ∧ ∀ j, lo ≤ j → j < i → p j = false
  | none => ∀ j, lo ≤ j → j < hi → p j = false

/-- `r` is the greatest index in `lo..hi` where `p` holds, or `none` when it
    holds at none. -/
def IsLastIn (p : Nat → Bool) (lo hi : Nat) : Option Nat → Prop
  | some i => lo ≤ i ∧ i < hi ∧ p i ∧ ∀ j, i < j → j < hi → p j = false
  | none => ∀ j, lo ≤ j → j < hi → p j = false

section Ranges

variable {p : Nat → Bool} {lo hi : Nat} {r : Option Nat}

theorem IsFirstIn.of_succ (hlo : p lo = false) (h : IsFirstIn p (lo + 1) hi r) :
    IsFirstIn p lo hi r := by
  cases r with
  | some i =>
    obtain ⟨h1, h2, h3, h4⟩ := h
    refine ⟨by omega, h2, h3, fun j hj hji => ?_⟩
    rcases Nat.eq_or_lt_of_le hj with rfl | hj
    · exact hlo
    · exact h4 j hj hji
  | none =>
    intro j hj hjh
    rcases Nat.eq_or_lt_of_le hj with rfl | hj
    · exact hlo
    · exact h j hj hjh

theorem IsLastIn.of_pred (hhi : p (hi - 1) = false) (hlt : lo < hi)
    (h : IsLastIn p lo (hi - 1) r) : IsLastIn p lo hi r := by
  cases r with
  | some i =>
    obtain ⟨h1, h2, h3, h4⟩ := h
    refine ⟨h1, by omega, h3, fun j hij hj => ?_⟩
    by_cases hj' : j = hi - 1
    · exact hj' ▸ hhi
    · exact h4 j hij (by omega)
  | none =>
    intro j hj hjh
    by_cases hj' : j = hi - 1
    · exact hj' ▸ hhi
    · exact h j hj (by omega)

theorem isFirstIn_none_of_le (hle : hi ≤ lo) : IsFirstIn p lo hi r ↔ r = none := by
  cases r with
  | some i => simp only [IsFirstIn, reduceCtorEq, iff_false]; omega
  | none => exact iff_of_true (fun j hj hjh => absurd hjh (by omega)) rfl

/-- Searching from `min lo hi` is searching from `lo`. -/
theorem isFirstIn_min_iff : IsFirstIn p (min lo hi) hi r ↔ IsFirstIn p lo hi r := by
  by_cases h : lo ≤ hi
  · rw [Nat.min_eq_left h]
  · rw [Nat.min_eq_right (by omega), isFirstIn_none_of_le le_rfl,
      isFirstIn_none_of_le (by omega)]

end Ranges

theorem fromIndexBound_eq {length : Nat} (hn : length < 2147483648) (fromIndex : I32) :
    fromIndexBound length fromIndex =
      (max (if fromIndex.val < 0 then length + fromIndex.val else fromIndex.val) 0).toNat := by
  have := (I32.wrap_val_eq_iff length).mpr ⟨by omega, by omega⟩
  unfold fromIndexBound
  split_ifs <;> omega

section Search

variable (toNumber : Value → Except Error F64) (valueEq : Value → Value → Bool)

/-- The loop of `index_of`: the first index from the front whose item equals
    `searchFor`. -/
def findNext (v : List Value) (searchFor : Value) (iter : ArrayIter) : Option Nat :=
  match _h : iter.next with
  | some (i, iter') =>
    if valueEq (v.getD i .undefined) searchFor then some i else findNext v searchFor iter'
  | none => none
termination_by iter.revIndex - iter.index
decreasing_by obtain ⟨h, -, rfl⟩ := ArrayIter.next_eq_some.mp _h; simp only; omega

/-- The loop of `last_index_of`: the first index from the back whose item
    equals `searchFor`. -/
def findNextBack (v : List Value) (searchFor : Value) (iter : ArrayIter) : Option Nat :=
  match _h : iter.nextBack with
  | some (i, iter') =>
    if valueEq (v.getD i .undefined) searchFor then some i else findNextBack v searchFor iter'
  | none => none
termination_by iter.revIndex - iter.index
decreasing_by obtain ⟨h, -, rfl⟩ := ArrayIter.nextBack_eq_some.mp _h; simp only; omega

/-- `Vector.indexOf` on a vector holding `v`. -/
def indexOf (v : List Value) (args : List Value) : Except Error Value := do
  let searchFor := args.getD 0 .undefined
  let fromIndex ← (args.getD 1 (.integer 0)).coerceToI32 toNumber
  let iter := ArrayIter.withBounds v.length (fromIndexBound v.length fromIndex) u32Max
  pure (indexValue (findNext valueEq v searchFor iter))

/-- `Vector.lastIndexOf` on a vector holding `v`. -/
def lastIndexOf (v : List Value) (args : List Value) : Except Error Value := do
  let searchFor := args.getD 0 .undefined
  let fromIndex ← (args.getD 1 (.integer I32.max)).coerceToI32 toNumber
  let iter := ArrayIter.withBounds v.length 0 (fromIndexBound v.length fromIndex)
  pure (indexValue (findNextBack valueEq v searchFor iter))

section Loops

variable (v : List Value) (x : Value) {iter iter' : ArrayIter} {i : Nat}

theorem findNext_of_some (h : iter.next = some (i, iter')) :
    findNext valueEq v x iter =
      if valueEq (v.getD i .undefined) x then some i else findNext valueEq v x iter' := by
  rw [findNext]
  split <;> simp_all

theorem findNext_of_none (h : iter.next = none) : findNext valueEq v x iter = none := by
  rw [findNext]
  split <;> simp_all

theorem findNextBack_of_some (h : iter.nextBack = some (i, iter')) :
    findNextBack valueEq v x iter =
      if valueEq (v.getD i .undefined) x then some i else findNextBack valueEq v x iter' := by
  rw [findNextBack]
  split <;> simp_all

theorem findNextBack_of_none (h : iter.nextBack = none) : findNextBack valueEq v x iter = none := by
  rw [findNextBack]
  split <;> simp_all

end Loops

/-- The loop of `index_of` finds the least index of the iterator's range
    holding `x`. -/
theorem findNext_isFirstIn (v : List Value) (x : Value) (iter : ArrayIter) :
    IsFirstIn (fun i => valueEq (v.getD i .undefined) x) iter.index iter.revIndex
      (findNext valueEq v x iter) := by
  induction iter using findNext.induct valueEq v x with
  | case1 iter i iter' h hx =>
    obtain ⟨hlt, rfl, rfl⟩ := ArrayIter.next_eq_some.mp h
    rw [findNext_of_some valueEq v x h, if_pos hx]
    exact ⟨le_rfl, hlt, hx, fun j hj hji => absurd hji (by omega)⟩
  | case2 iter i iter' h hx ih =>
    obtain ⟨hlt, rfl, rfl⟩ := ArrayIter.next_eq_some.mp h
    rw [findNext_of_some valueEq v x h, if_neg hx]
    exact IsFirstIn.of_succ (Bool.eq_false_iff.mpr hx) ih
  | case3 iter h =>
    rw [findNext_of_none valueEq v x h]
    intro j hj hjh
    simp only [ArrayIter.next] at h
    split_ifs at h
    omega

/-- The loop of `last_index_of` finds the greatest index of the iterator's
    range holding `x`. -/
theorem findNextBack_isLastIn (v : List Value) (x : Value) (iter : ArrayIter) :
    IsLastIn (fun i => valueEq (v.getD i .undefined) x) iter.index iter.revIndex
      (findNextBack valueEq v x iter) := by
  induction iter using findNextBack.induct valueEq v x with
  | case1 iter i iter' h hx =>
    obtain ⟨hlt, rfl, rfl⟩ := ArrayIter.nextBack_eq_some.mp h
    rw [findNextBack_of_some valueEq v x h, if_pos hx]
    exact ⟨by omega, by omega, hx, fun j hij hj => absurd hj (by omega)⟩
  | case2 iter i iter' h hx ih =>
    obtain ⟨hlt, rfl, rfl⟩ := ArrayIter.nextBack_eq_some.mp h
    rw [findNextBack_of_some valueEq v x h, if_neg hx]
    exact IsLastIn.of_pred (Bool.eq_false_iff.mpr hx) hlt ih
  | case3 iter h =>
    rw [findNextBack_of_none valueEq v x h]
    intro j hj hjh
    simp only [ArrayIter.nextBack] at h
    split_ifs at h
    omega
/-- For every vector of fewer than `2^31` values and every `i32` `fromIndex`,
    with `k` the index it names: `indexOf` finds the least index from
    `max(k, 0)` on holding `x`, and `lastIndexOf` the greatest one up to
    `max(k, 0)`, or `-1`. -/
theorem vectorSearch_spec (v : List Value) (x : Value) (fromIndex : I32)
    (hn : v.length < 2147483648) :
    (∃ r, indexOf toNumber valueEq v [x, .integer fromIndex] = .ok (indexValue r) ∧
      IsFirstIn (fun i => valueEq (v.getD i .undefined) x)
        (max (if fromIndex.val < 0 then v.length + fromIndex.val else fromIndex.val) 0).toNat
        v.length r) ∧
    (∃ r, lastIndexOf toNumber valueEq v [x, .integer fromIndex] = .ok (indexValue r) ∧
      IsLastIn (fun i => valueEq (v.getD i .undefined) x) 0
        (min ((max (if fromIndex.val < 0 then v.length + fromIndex.val else fromIndex.val)
          0).toNat + 1) v.length) r) := by
  have hb := fromIndexBound_eq hn fromIndex
  have hk : fromIndexBound v.length fromIndex < 2147483648 := by
    rw [hb]; have := fromIndex.lt_max; omega
  refine ⟨⟨_, rfl, ?_⟩, ⟨_, rfl, ?_⟩⟩ <;> rw [← hb]
  · have h := findNext_isFirstIn valueEq v x
      (.withBounds v.length (fromIndexBound v.length fromIndex) u32Max)
    have hrev :
        (ArrayIter.withBounds v.length (fromIndexBound v.length fromIndex) u32Max).revIndex =
          v.length := by simp only [ArrayIter.withBounds, u32Max]; omega
    rw [hrev] at h
    exact isFirstIn_min_iff.mp h
  · have h := findNextBack_isLastIn valueEq v x
      (.withBounds v.length 0 (fromIndexBound v.length fromIndex))
    have hrev : (ArrayIter.withBounds v.length 0 (fromIndexBound v.length fromIndex)).revIndex =
        min (fromIndexBound v.length fromIndex + 1) v.length := by
      simp only [ArrayIter.withBounds, u32Max]; omega
    rw [hrev, show (ArrayIter.withBounds v.length 0 (fromIndexBound v.length fromIndex)).index = 0
      from Nat.zero_min _] at h
    exact h

/-- The values `1, 2, 1`, where `1` stands at two indices, searched for `1`
    from index `1`. -/
theorem vectorSearch_spec_repeated :
    ([.unsigned 1, .unsigned 2, .unsigned 1] : List Value).length < 2147483648 ∧
      ((∃ r, indexOf (fun _ => .ok .nan) (fun a b => decide (a = b))
          [.unsigned 1, .unsigned 2, .unsigned 1]
          [.unsigned 1, .integer ⟨1, by decide, by decide⟩] = .ok (indexValue r) ∧
        IsFirstIn (fun i => decide (([.unsigned 1, .unsigned 2, .unsigned 1] : List Value).getD i
            .undefined = .unsigned 1))
          (max (if (1 : ℤ) < 0 then (3 : ℤ) + 1 else 1) 0).toNat 3 r) ∧
      (∃ r, lastIndexOf (fun _ => .ok .nan) (fun a b => decide (a = b))
          [.unsigned 1, .unsigned 2, .unsigned 1]
          [.unsigned 1, .integer ⟨1, by decide, by decide⟩] = .ok (indexValue r) ∧
        IsLastIn (fun i => decide (([.unsigned 1, .unsigned 2, .unsigned 1] : List Value).getD i
            .undefined = .unsigned 1)) 0
          (min ((max (if (1 : ℤ) < 0 then (3 : ℤ) + 1 else 1) 0).toNat + 1) 3) r)) :=
  ⟨by decide, vectorSearch_spec (fun _ => .ok .nan) (fun a b => decide (a = b))
    [.unsigned 1, .unsigned 2, .unsigned 1] (.unsigned 1) ⟨1, by decide, by decide⟩ (by decide)⟩

/-- With one value and `fromIndex = -2`, `length + fromIndex` is negative, yet
    `lastIndexOf` searches index 0 and finds the value there. -/
theorem lastIndexOf_before_start :
    ([.integer 0] : List Value).length + (-2 : ℤ) < 0 ∧
      lastIndexOf (fun _ => .ok .nan) (fun a b => decide (a = b)) [.integer 0]
        [.integer 0, .integer ⟨-2, by decide, by decide⟩] = .ok (.unsigned 0) := by
  refine ⟨by decide, ?_⟩
  have h : (ArrayIter.withBounds ([.integer 0] : List Value).length 0
      (fromIndexBound ([.integer 0] : List Value).length ⟨-2, by decide, by decide⟩)).nextBack =
      some (0, ⟨0, 0⟩) := by decide
  show Except.ok (indexValue (findNextBack _ [.integer 0] (.integer 0) _)) = _
  rw [findNextBack_of_some _ _ _ h]
  rfl

end Search

end RuffleAvm
