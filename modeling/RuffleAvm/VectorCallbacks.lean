/-
  RuffleAvm/VectorCallbacks.lean
  ==============================
  **The callback natives of `Vector`** (`avm2/globals/vector.rs`): `every`,
  `some`, `filter`, `forEach` and `map`.

  Each reads its callback and receiver from its arguments, opens an
  `ArrayIter` on the receiver — which fixes the indices it will visit to
  those below the length read then — and calls the callback on each item
  with `(item, index, this)`.  `every` stops at the first item the callback
  rejects and `some` at the first it accepts; `filter` and `map` push onto a
  new vector.  All of them run in a world `σ` the callback may change, and
  read each item afresh through the object.

  The loop is `iterate`; when the vector reads the same throughout and the
  callback leaves the world as it found it, the loop is a pure fold
  (`Frozen.iterate_eq`), and `every`, `filter` and `map` compute what their
  names say (`every_of_frozen`, `filter_of_frozen`, `map_of_frozen`).
  `map` refuses an unparameterized vector with `filter`'s message
  (`map_of_unparameterized`).
-/
import RuffleAvm.Vector

namespace RuffleAvm

/-! ### Iterating an array-like object -/

namespace ArrayIter

/-- Modelled from the spec: `ArrayIter::new` on an object of length `length`,
    every index it has. -/
def new (length : Nat) : ArrayIter := withBounds length 0 u32Max

/-- The indices `next` yields, in order, until it returns `None`. -/
def indices (it : ArrayIter) : List Nat := List.range' it.index (it.revIndex - it.index)

/-- An iterator opened on an object of `u32` length visits every index. -/
theorem new_indices {length : Nat} (h : length ≤ u32Max) : (new length).indices = List.range length := by
  simp [new, withBounds, indices, List.range_eq_range', min_eq_right h]

end ArrayIter

/-- Modelled from the spec: `VectorStorage::push` — the value appended, or
    `fixedError` on a fixed vector. -/
def VectorStorage.push (fixedError : Error) (vs : VectorStorage) (value : Value) :
    Except Error VectorStorage :=
  if vs.isFixed then .error fixedError else .ok { vs with storage := vs.storage ++ [value] }

theorem VectorStorage.push_of_not_fixed (fixedError : Error) (xs : List Value) (value : Value) :
    VectorStorage.push fixedError ⟨xs, false⟩ value = .ok ⟨xs ++ [value], false⟩ :=
  rfl

/-! ### The natives -/

/-- What the callback natives call outside this file, in a world `σ`. -/
structure VectorCallbackRuntime (σ : Type) where
  coerceToObject : Value → EStateM Error σ Object
  /-- The length `ArrayIter::new` reads from the object. -/
  length : Object → EStateM Error σ Nat
  /-- The read of an index in `ArrayIter::next`. -/
  getIndex : Object → Nat → EStateM Error σ Value
  /-- `Object::call` with a receiver and arguments. -/
  call : Object → Option Object → List Value → EStateM Error σ Value
  coerceToBoolean : Value → Bool
  /-- `i.into()` of an index. -/
  indexValue : Nat → Value
  /-- `this.instance_of().unwrap().as_class_params()`. -/
  classParams : Object → Option (Option Object)
  /-- The `Object` class, the value type of `Vector.<*>`. -/
  objectClass : Object
  coerceToType : Value → Object → EStateM Error σ Value
  /-- `VectorObject::from_vector(storage, activation)?.into()`. -/
  fromVector : VectorStorage → EStateM Error σ Value
  /-- The error of pushing onto a fixed vector. -/
  fixedError : Error

namespace Vector

section Natives

variable {σ : Type} (rt : VectorCallbackRuntime σ)

/-- The callback, the first argument as an object, and the receiver, the
    second as one if it is one. -/
def callbackAndReceiver (args : List Value) : EStateM Error σ (Object × Option Object) := do
  let callback ← rt.coerceToObject (args.getD 0 .undefined)
  let receiver ← resultOk (rt.coerceToObject (args.getD 1 .null))
  pure (callback, receiver)

/-- `callback.call(receiver, &[item, i.into(), this.into()])`. -/
def callOn (callback : Object) (receiver : Option Object) (this : Object) (i : Nat)
    (item : Value) : EStateM Error σ Value :=
  rt.call callback receiver [item, rt.indexValue i, .object this]

/-- `ArrayIter::new(activation, this)?`. -/
def arrayIter (this : Object) : EStateM Error σ ArrayIter := ArrayIter.new <$> rt.length this

/-- The loop `while let Some(r) = iter.next(activation)` over the indices the
    iterator yields: each item is read through the object, and `body`
    decides whether to go on. -/
def iterate {β : Type} (this : Object) (body : Nat → Value → β → EStateM Error σ (ForInStep β)) :
    List Nat → β → EStateM Error σ β
  | [], b => pure b
  | i :: indices, b => do
    let item ← rt.getIndex this i
    match ← body i item b with
    | .done b => pure b
    | .yield b => iterate this body indices b

/-- The value type of the receiver's class, `Object` for `Vector.<*>`;
    `message` when the class has no parameter. -/
def valueTypeOf (message : Error) (this : Object) : EStateM Error σ Object :=
  match rt.classParams this with
  | none => throw message
  | some valueType => pure (valueType.getD rt.objectClass)

/-- `Vector.every`: `false` at the first item the callback rejects. -/
def every (this : Option Object) (args : List Value) : EStateM Error σ Value :=
  match this with
  | none => pure .undefined
  | some this => do
    let (callback, receiver) ← callbackAndReceiver rt args
    let iter ← arrayIter rt this
    let all ← iterate rt this (fun i item _ => do
      let result := rt.coerceToBoolean (← callOn rt callback receiver this i item)
      pure (if result then .yield true else .done false)) iter.indices true
    pure (.bool all)

/-- `Vector.some`: `true` at the first item the callback accepts. -/
def some (this : Option Object) (args : List Value) : EStateM Error σ Value :=
  match this with
  | none => pure .undefined
  | .some this => do
    let (callback, receiver) ← callbackAndReceiver rt args
    let iter ← arrayIter rt this
    let any ← iterate rt this (fun i item _ => do
      let result := rt.coerceToBoolean (← callOn rt callback receiver this i item)
      pure (if result then .done true else .yield false)) iter.indices false
    pure (.bool any)

/-- `Vector.filter`: a new vector of the items the callback accepts. -/
def filter (this : Option Object) (args : List Value) : EStateM Error σ Value :=
  match this with
  | none => pure .undefined
  | .some this => do
    let (callback, receiver) ← callbackAndReceiver rt args
    let _valueType ← valueTypeOf rt "Cannot filter unparameterized vector" this
    let iter ← arrayIter rt this
    let newStorage ← iterate rt this (fun i item newStorage => do
      let result := rt.coerceToBoolean (← callOn rt callback receiver this i item)
      if result then .yield <$> MonadExcept.ofExcept (newStorage.push rt.fixedError item)
      else pure (.yield newStorage)) iter.indices ⟨[], false⟩
    rt.fromVector newStorage

/-- `Vector.forEach`. -/
def forEach (this : Option Object) (args : List Value) : EStateM Error σ Value := do
  match this with
  | none => pure ()
  | .some this =>
    let (callback, receiver) ← callbackAndReceiver rt args
    let iter ← arrayIter rt this
    iterate rt this (fun i item _ => do
      let _ ← callOn rt callback receiver this i item
      pure (.yield ())) iter.indices ()
  pure .undefined

/-- `Vector.map`: a new vector of the callback's results, each coerced to the
    value type; an unparameterized vector is refused with `filter`'s
    message. -/
def map (this : Option Object) (args : List Value) : EStateM Error σ Value :=
  match this with
  | none => pure .undefined
  | .some this => do
    let (callback, receiver) ← callbackAndReceiver rt args
    let valueType ← valueTypeOf rt "Cannot filter unparameterized vector" this
    let iter ← arrayIter rt this
    let newStorage ← iterate rt this (fun i item newStorage => do
      let newItem ← callOn rt callback receiver this i item
      let coercedItem ← rt.coerceToType newItem valueType
      .yield <$> MonadExcept.ofExcept (newStorage.push rt.fixedError coercedItem))
      iter.indices ⟨[], false⟩
    rt.fromVector newStorage

end Natives

/-! ### A frozen vector and a callback without effects -/

/-- The loop on a vector that reads as `items`, with a body that may fail but
    leaves the world alone. -/
def iterateExcept {β : Type} (items : List Value)
    (g : Nat → Value → β → Except Error (ForInStep β)) : List Nat → β → Except Error β
  | [], b => .ok b
  | i :: indices, b => do
    match ← g i (items.getD i .undefined) b with
    | .done b => .ok b
    | .yield b => iterateExcept items g indices b

section Frozen

variable {σ : Type} (rt : VectorCallbackRuntime σ)

/-- With a vector that reads as `items` and a body that leaves the world
    alone, the loop is the pure fold. -/
theorem iterate_of_frozen {β : Type} (this : Object) (items : List Value)
    (body : Nat → Value → β → EStateM Error σ (ForInStep β))
    (g : Nat → Value → β → Except Error (ForInStep β))
    (hget : ∀ i < items.length, rt.getIndex this i = pure (items.getD i .undefined))
    (hbody : ∀ i item b, body i item b = MonadExcept.ofExcept (g i item b)) :
    ∀ (indices : List Nat) (b : β), (∀ i ∈ indices, i < items.length) →
      iterate rt this body indices b = MonadExcept.ofExcept (iterateExcept items g indices b)
  | [], _, _ => rfl
  | i :: indices, b, hin => by
    simp only [iterate, iterateExcept, hget i (hin i (.head _)), hbody, pure_bind]
    cases g i (items.getD i .undefined) b with
    | error e => rfl
    | ok r =>
      cases r with
      | done b => rfl
      | yield b =>
        exact iterate_of_frozen this items body g hget hbody indices b
          fun j hj => hin j (.tail _ hj)

/-- The receiver of a callback native reading as `items` throughout, and the
    callback and receiver its arguments name calling `f` on each index and
    item, with no effect. -/
structure Frozen (this : Object) (args : List Value) (callback : Object) (receiver : Option Object)
    (items : List Value) (f : Nat → Value → Value) : Prop where
  args : callbackAndReceiver rt args = pure (callback, receiver)
  call : ∀ i item, callOn rt callback receiver this i item = pure (f i item)
  length : rt.length this = pure items.length
  getIndex : ∀ i < items.length, rt.getIndex this i = pure (items.getD i .undefined)
  size : items.length ≤ u32Max

variable {rt} {this : Object} {args : List Value} {callback : Object} {receiver : Option Object}
  {items : List Value} {f : Nat → Value → Value}

theorem Frozen.iterate_eq {β : Type} (h : Frozen rt this args callback receiver items f)
    (body : Nat → Value → β → EStateM Error σ (ForInStep β))
    (g : Nat → Value → β → Except Error (ForInStep β))
    (hbody : ∀ i item b, body i item b = MonadExcept.ofExcept (g i item b)) (b : β) :
    (do let iter ← arrayIter rt this; iterate rt this body iter.indices b) =
      MonadExcept.ofExcept (iterateExcept items g (List.range items.length) b) := by
  simp only [arrayIter, h.length, map_pure, pure_bind, ArrayIter.new_indices h.size]
  exact iterate_of_frozen rt this items body g h.getIndex hbody _ b fun i hi => List.mem_range.mp hi

/-- The items `[1, 2]`. -/
def twoItems : List Value :=
  [.integer ⟨1, by decide, by decide⟩, .integer ⟨2, by decide, by decide⟩]

/-- A callback that accepts the item `2`. -/
def acceptsTwo (_ : Nat) (item : Value) : Value := .bool (item == .integer ⟨2, by decide, by decide⟩)

/-- The vector `twoItems` read through object `0`, with `acceptsTwo` as
    callback `1`, and no effects. -/
def twoItemsRuntime : VectorCallbackRuntime Unit where
  coerceToObject
    | .object o => pure o
    | _ => throw "TypeError"
  length _ := pure 2
  getIndex _ i := pure (twoItems.getD i .undefined)
  call _ _ args := pure (acceptsTwo 0 (args.headD .undefined))
  coerceToBoolean v := v == .bool true
  indexValue i := .unsigned (UInt32.ofNat i)
  classParams _ := .some none
  objectClass := ⟨2⟩
  coerceToType v _ := pure v
  fromVector vs := pure (.unsigned (UInt32.ofNat vs.storage.length))
  fixedError := "RangeError"

theorem twoItemsRuntime_frozen :
    Frozen twoItemsRuntime ⟨0⟩ [.object ⟨1⟩] ⟨1⟩ none twoItems acceptsTwo where
  args := rfl
  call _ _ := rfl
  length := rfl
  getIndex _ _ := rfl
  size := by decide

theorem iterateExcept_every (p : Nat → Value → Bool) :
    ∀ indices : List Nat, iterateExcept items
      (fun i item _ => .ok (if p i item then .yield true else .done false)) indices true =
        .ok (indices.all fun i => p i (items.getD i .undefined))
  | [] => rfl
  | i :: indices => by
    simp only [iterateExcept, except_ok_bind, List.all_cons]
    cases p i (items.getD i .undefined)
    · rfl
    · exact iterateExcept_every p indices

/-- On a vector that reads as `items` throughout, with a callback that has no
    effect, `every` is whether the callback accepts every item, with its
    index. -/
theorem every_of_frozen (h : Frozen rt this args callback receiver items f) :
    every rt (.some this) args =
      pure (.bool ((List.range items.length).all fun i =>
        rt.coerceToBoolean (f i (items.getD i .undefined)))) := by
  simp only [every, h.args, pure_bind]
  rw [← bind_assoc, h.iterate_eq _
    (fun i item _ => .ok (if rt.coerceToBoolean (f i item) then .yield true else .done false)) ?_,
    iterateExcept_every]
  · rfl
  · intro i item b
    simp only [h.call, pure_bind]
    rfl

theorem every_of_frozen_twoItems :
    Frozen twoItemsRuntime ⟨0⟩ [.object ⟨1⟩] ⟨1⟩ none twoItems acceptsTwo ∧
      every twoItemsRuntime (.some ⟨0⟩) [.object ⟨1⟩] = pure (.bool false) :=
  ⟨twoItemsRuntime_frozen, (every_of_frozen twoItemsRuntime_frozen).trans rfl⟩

theorem iterateExcept_filter (p : Nat → Value → Bool) (fixedError : Error) :
    ∀ (indices : List Nat) (xs : List Value), iterateExcept items
      (fun i item (acc : VectorStorage) =>
        if p i item then ForInStep.yield <$> acc.push fixedError item else .ok (.yield acc))
      indices ⟨xs, false⟩ =
        .ok ⟨xs ++ (indices.filter fun i => p i (items.getD i .undefined)).map
          (items.getD · .undefined), false⟩
  | [], xs => by simp [iterateExcept]
  | i :: indices, xs => by
    simp only [iterateExcept, List.filter_cons]
    cases hp : p i (items.getD i .undefined)
    · simpa using iterateExcept_filter p fixedError indices xs
    · simpa [VectorStorage.push] using
        iterateExcept_filter p fixedError indices (xs ++ [items.getD i .undefined])

/-- `filter` keeps the items the callback accepts, in order, in a new vector
    that is not fixed. -/
theorem filter_of_frozen (h : Frozen rt this args callback receiver items f)
    (hparams : rt.classParams this ≠ none) :
    filter rt (.some this) args =
      rt.fromVector ⟨((List.range items.length).filter fun i =>
        rt.coerceToBoolean (f i (items.getD i .undefined))).map (items.getD · .undefined), false⟩ := by
  obtain ⟨params, hp⟩ := Option.ne_none_iff_exists'.mp hparams
  simp only [filter, h.args, valueTypeOf, hp, pure_bind]
  rw [← bind_assoc, h.iterate_eq _ (fun i item (acc : VectorStorage) =>
      if rt.coerceToBoolean (f i item) then ForInStep.yield <$> acc.push rt.fixedError item
      else .ok (.yield acc)) ?_, iterateExcept_filter]
  · rfl
  · intro i item acc
    simp only [h.call, pure_bind]
    split <;> [cases acc.push rt.fixedError item <;> rfl; rfl]

theorem filter_of_frozen_twoItems :
    Frozen twoItemsRuntime ⟨0⟩ [.object ⟨1⟩] ⟨1⟩ none twoItems acceptsTwo ∧
      twoItemsRuntime.classParams ⟨0⟩ ≠ none ∧
      filter twoItemsRuntime (.some ⟨0⟩) [.object ⟨1⟩] = pure (.unsigned 1) :=
  ⟨twoItemsRuntime_frozen, by decide,
    (filter_of_frozen twoItemsRuntime_frozen (by decide)).trans rfl⟩

theorem iterateExcept_map (coerce : Value → Except Error Value) (fixedError : Error) :
    ∀ (indices : List Nat) (xs : List Value), iterateExcept items
      (fun i item (acc : VectorStorage) => do
        let coercedItem ← coerce (f i item)
        ForInStep.yield <$> acc.push fixedError coercedItem) indices ⟨xs, false⟩ =
        (fun ys => ⟨xs ++ ys, false⟩) <$>
          indices.mapM fun i => coerce (f i (items.getD i .undefined))
  | [], xs => by simp only [iterateExcept, List.mapM_nil, map_pure, List.append_nil]; rfl
  | i :: indices, xs => by
    simp only [iterateExcept, List.mapM_cons]
    cases coerce (f i (items.getD i .undefined)) with
    | error e => rfl
    | ok c =>
      have ih := iterateExcept_map coerce fixedError indices (xs ++ [c])
      simp only [except_ok_bind, VectorStorage.push_of_not_fixed]
      refine ih.trans ?_
      cases indices.mapM fun i => coerce (f i (items.getD i .undefined)) <;> simp

/-- `map` pushes the callback's result on each item, coerced to the value
    type, onto a new vector that is not fixed; the first coercion that fails
    fails it. -/
theorem map_of_frozen (h : Frozen rt this args callback receiver items f) {params : Option Object}
    (hparams : rt.classParams this = .some params) (coerce : Value → Except Error Value)
    (hcoerce : ∀ v, rt.coerceToType v (params.getD rt.objectClass) = MonadExcept.ofExcept (coerce v)) :
    map rt (.some this) args =
      MonadExcept.ofExcept ((List.range items.length).mapM fun i =>
        coerce (f i (items.getD i .undefined))) >>= fun ys => rt.fromVector ⟨ys, false⟩ := by
  simp only [map, h.args, valueTypeOf, hparams, pure_bind]
  rw [← bind_assoc, h.iterate_eq _ (fun i item (acc : VectorStorage) => do
      let coercedItem ← coerce (f i item)
      ForInStep.yield <$> acc.push rt.fixedError coercedItem) ?_, iterateExcept_map]
  · cases (List.range items.length).mapM fun i => coerce (f i (items.getD i .undefined)) <;> rfl
  · intro i item acc
    simp only [h.call, hcoerce, pure_bind]
    cases coerce (f i item) with
    | error e => rfl
    | ok c =>
      show (ForInStep.yield <$> MonadExcept.ofExcept (acc.push rt.fixedError c) :
          EStateM Error σ (ForInStep VectorStorage)) =
        MonadExcept.ofExcept (ForInStep.yield <$> acc.push rt.fixedError c)
      cases acc.push rt.fixedError c <;> rfl

theorem map_of_frozen_twoItems :
    Frozen twoItemsRuntime ⟨0⟩ [.object ⟨1⟩] ⟨1⟩ none twoItems acceptsTwo ∧
      twoItemsRuntime.classParams ⟨0⟩ = .some none ∧
      (∀ v, twoItemsRuntime.coerceToType v (none.getD twoItemsRuntime.objectClass) =
        MonadExcept.ofExcept (Except.ok v : Except Error Value)) ∧
      map twoItemsRuntime (.some ⟨0⟩) [.object ⟨1⟩] = pure (.unsigned 2) :=
  ⟨twoItemsRuntime_frozen, rfl, fun _ => rfl,
    (map_of_frozen twoItemsRuntime_frozen rfl Except.ok fun _ => rfl).trans rfl⟩

end Frozen

/-- `map` refuses an unparameterized vector with the message of `filter`. -/
theorem map_of_unparameterized {σ : Type} (rt : VectorCallbackRuntime σ) {this : Object}
    {args : List Value} {callback : Object} {receiver : Option Object}
    (hargs : callbackAndReceiver rt args = pure (callback, receiver))
    (hparams : rt.classParams this = none) :
    map rt (.some this) args = throw "Cannot filter unparameterized vector" := by
  simp only [map, hargs, pure_bind, valueTypeOf, hparams]
  rfl

/-- `twoItemsRuntime` where no vector class has parameters. -/
def unparameterizedRuntime : VectorCallbackRuntime Unit :=
  { twoItemsRuntime with classParams := fun _ => none }

/-- `map` on a vector whose class has no parameters. -/
example : map unparameterizedRuntime (.some ⟨0⟩) [.object ⟨1⟩] =
    throw "Cannot filter unparameterized vector" := rfl

end Vector

end RuffleAvm
