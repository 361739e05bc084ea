/-
  RuffleAvm/VectorNatives.lean
  ============================
  **The natives that change a vector in place, and `slice`, `join` and
  `concat`** (`avm2/globals/vector.rs`): `push`, `unshift`, `pop`, `shift`,
  the setters of `length` and `fixed`, `insertAt`, `removeAt`, `reverse`,
  `slice`, `join`, `toString` and `concat`.

  A native works on the receiver's storage in place
  (`as_vector_storage_mut`), so one that fails part-way keeps what it did
  before the failure: it is a step of `EStateM Error VectorStorage`.  The
  storage methods are not in this source; those that change the length are
  modelled from the spec, refusing a fixed vector, and `insert` and `remove`,
  whose index rules the spec leaves open, are parameters.  Results:

  * `push` appends the coerced arguments, and `unshift`, which inserts them
    one by one from the last, puts them first in their own order; when a
    coercion fails, `push` keeps the arguments before it and `unshift` those
    after it (`push_run`, `unshift_run`, `unshift_of_coerced`);
  * a `push` then a `pop` of one value, and an `unshift` then a `shift`,
    leave the vector as it was and return the value coerced
    (`pop_push`, `shift_unshift`);
  * `slice()` copies the first 16777215 values: a prefix of a longer vector
    (`slice_nil`);
  * `concat` pushes onto a copy of the receiver's storage, which keeps its
    `fixed` flag: on a vector that is not fixed it appends what the
    arguments bring, checked and coerced (`concat_of_not_fixed`), and on a
    fixed one it succeeds only when they bring nothing (`concat_of_fixed`).
-/
import RuffleAvm.VectorCallbacks
import RuffleAvm.QName

namespace RuffleAvm

/-! ### The storage methods that change the length -/

namespace VectorStorage

/-- Modelled from the spec: `VectorStorage::unshift` — the value put first,
    or `fixedError` on a fixed vector. -/
def unshift (fixedError : Error) (vs : VectorStorage) (value : Value) : Except Error VectorStorage :=
  if vs.isFixed then .error fixedError else .ok { vs with storage := value :: vs.storage }

/-- Modelled from the spec: `VectorStorage::pop` — the last value removed,
    or the value type's default from an empty vector; `fixedError` on a fixed
    vector. -/
def pop (fixedError : Error) (default : Value) (vs : VectorStorage) :
    Except Error (Value × VectorStorage) :=
  if vs.isFixed then .error fixedError
  else .ok (vs.storage.getLastD default, { vs with storage := vs.storage.dropLast })

/-- Modelled from the spec: `VectorStorage::shift` — the first value removed,
    or the value type's default from an empty vector; `fixedError` on a fixed
    vector. -/
def shift (fixedError : Error) (default : Value) (vs : VectorStorage) :
    Except Error (Value × VectorStorage) :=
  if vs.isFixed then .error fixedError
  else .ok (vs.storage.headD default, { vs with storage := vs.storage.tail })

/-- Modelled from the spec: `VectorStorage::resize` — cut, or padded with the
    value type's default; `fixedError` on a fixed vector. -/
def resize (fixedError : Error) (default : Value) (vs : VectorStorage) (newLength : Nat) :
    Except Error VectorStorage :=
  if vs.isFixed then .error fixedError
  else .ok { vs with storage := vs.storage.take newLength ++ List.replicate (newLength - vs.length) default }

/-- Modelled from the spec: `VectorStorage::reverse`. -/
def reverse (vs : VectorStorage) : VectorStorage := { vs with storage := vs.storage.reverse }

end VectorStorage

/-! ### The natives -/

namespace Vector

/-- A storage method run in place: its error leaves the storage as it was. -/
def inPlace {α : Type} (method : VectorStorage → Except Error (α × VectorStorage)) :
    EStateM Error VectorStorage α := fun vs =>
  match method vs with
  | .ok (a, vs') => .ok a vs'
  | .error e => .error e vs

theorem run_inPlace_ok {α : Type} {method : VectorStorage → Except Error (α × VectorStorage)}
    {vs vs' : VectorStorage} {a : α} (h : method vs = .ok (a, vs')) :
    (inPlace method).run vs = .ok a vs' := by
  show inPlace method vs = _
  simp only [inPlace, h]

/-- A storage method that returns nothing, run in place. -/
def inPlace_ (method : VectorStorage → Except Error VectorStorage) : EStateM Error VectorStorage Unit :=
  inPlace fun vs => (fun vs' => ((), vs')) <$> method vs

section Natives

variable (coerceToType : Value → Except Error Value) (toNumber : Value → Except Error F64)
  (lengthValue : Nat → Value) (fixedError : Error) (default : Value)

/-- `Vector.push`: each argument coerced to the value type, then pushed. -/
def push (args : List Value) : EStateM Error VectorStorage Value := do
  args.forM fun arg => do
    let coercedArg ← MonadExcept.ofExcept (coerceToType arg)
    inPlace_ (·.push fixedError coercedArg)
  return lengthValue (← get).length

/-- `Vector.unshift`: each argument, from the last, coerced and unshifted. -/
def unshift (args : List Value) : EStateM Error VectorStorage Value := do
  args.reverse.forM fun arg => do
    let coercedArg ← MonadExcept.ofExcept (coerceToType arg)
    inPlace_ (·.unshift fixedError coercedArg)
  return lengthValue (← get).length

/-- `Vector.pop`. -/
def pop : EStateM Error VectorStorage Value := inPlace (·.pop fixedError default)

/-- `Vector.shift`. -/
def shift : EStateM Error VectorStorage Value := inPlace (·.shift fixedError default)

/-- The `Vector.length` setter: the first argument, `0` if none, as a `u32`. -/
def setLength (coerceToU32 : Value → Except Error UInt32) (args : List Value) :
    EStateM Error VectorStorage Value := do
  let newLength ← MonadExcept.ofExcept (coerceToU32 (args.getD 0 (.unsigned 0)))
  inPlace_ (·.resize fixedError default newLength.toNat)
  return .undefined

/-- The `Vector.fixed` setter: the first argument, `false` if none, as a
    boolean. -/
def setFixed (coerceToBoolean : Value → Bool) (args : List Value) :
    EStateM Error VectorStorage Value := do
  modify fun vs => { vs with isFixed := coerceToBoolean (args.getD 0 (.bool false)) }
  return .undefined

/-- `Vector.insertAt`, with `VectorStorage::insert` as given. -/
def insertAt (insert : I32 → Value → VectorStorage → Except Error VectorStorage)
    (args : List Value) : EStateM Error VectorStorage Value := do
  let index ← MonadExcept.ofExcept ((args.getD 0 .undefined).coerceToI32 toNumber)
  let value ← MonadExcept.ofExcept (coerceToType (args.getD 1 .undefined))
  inPlace_ (insert index value)
  return .undefined

/-- `Vector.removeAt`, with `VectorStorage::remove` as given. -/
def removeAt (remove : I32 → VectorStorage → Except Error (Value × VectorStorage))
    (args : List Value) : EStateM Error VectorStorage Value := do
  let index ← MonadExcept.ofExcept ((args.getD 0 .undefined).coerceToI32 toNumber)
  inPlace (remove index)

/-- `Vector.reverse`: the storage reversed, and the receiver returned. -/
def reverse (this : Object) : EStateM Error VectorStorage Value := do
  modify VectorStorage.reverse
  return .object this

/-- `Vector.slice`: the values from the clamped start, `0` if none, to the
    clamped end, `16777215` if none, pushed onto a new vector that is not
    fixed.  The receiver is only read. -/
def slice (vs : VectorStorage) (args : List Value) : Except Error VectorStorage := do
  let «from» ← (args.getD 0 (.integer 0)).coerceToI32 toNumber
  let «to» ← (args.getD 1 (.integer ⟨16777215, by decide, by decide⟩)).coerceToI32 toNumber
  let «from» := vs.clampParameterIndex «from»
  let «to» := vs.clampParameterIndex «to»
  if «to» > «from» then
    ((vs.storage.drop «from»).take («to» - «from»)).foldlM (fun newVs value => newVs.push fixedError value)
      ⟨[], false⟩
  else pure ⟨[], false⟩

/-- `join_inner`: the separator, `","` for none or `undefined`, between the
    items' strings, `""` for `undefined` and `null`; `conv` maps an item first. -/
def joinInner (coerceToString : Value → Except Error String) (conv : Value → Except Error Value)
    (vs : VectorStorage) (args : List Value) : Except Error String := do
  let separator := match args.getD 0 .undefined with
    | .undefined => .string ","
    | separator => separator
  let stringSeparator ← coerceToString separator
  let accum ← vs.storage.mapM fun item =>
    if item = .undefined ∨ item = .null then pure "" else conv item >>= coerceToString
  pure (String.intercalate stringSeparator accum)

/-- `Vector.join`. -/
def join (coerceToString : Value → Except Error String) (vs : VectorStorage) (args : List Value) :
    Except Error String :=
  joinInner coerceToString pure vs args

/-- `Vector.toString`: `join_inner` with `","`. -/
def toString (coerceToString : Value → Except Error String) (vs : VectorStorage) :
    Except Error String :=
  joinInner coerceToString pure vs [.string ","]

end Natives

/-! ### `push` and `unshift` -/

section Order

variable (coerceToType : Value → Except Error Value) (lengthValue : Nat → Value) (fixedError : Error)

/-- A coercion that refuses `null`. -/
def refuseNull (v : Value) : Except Error Value := if v = .null then .error "TypeError" else .ok v

/-- The arguments coerced up to the first that fails, and its error. -/
def coercePrefix : List Value → List Value × Option Error
  | [] => ([], none)
  | v :: vs =>
    match coerceToType v with
    | .error e => ([], .some e)
    | .ok c => (c :: (coercePrefix vs).1, (coercePrefix vs).2)

/-- The run of a step that ends with the storage `xs`, as a vector that is
    not fixed, and the error `e` if any. -/
def endsWith {α : Type} (a : α) (e : Option Error) (xs : List Value) :
    EStateM.Result Error VectorStorage α :=
  match e with
  | none => .ok a ⟨xs, false⟩
  | .some e => .error e ⟨xs, false⟩

/-- Running `x >>= f`: `f` runs from the storage `x` left, unless `x` failed. -/
theorem run_bind_eq_match {α β : Type} (x : EStateM Error VectorStorage α)
    (f : α → EStateM Error VectorStorage β) (s : VectorStorage) :
    (x >>= f).run s = match x.run s with
      | .ok a s' => (f a).run s'
      | .error e s' => .error e s' := by
  show EStateM.bind x f s = match x s with | .ok a s' => f a s' | .error e s' => .error e s'
  simp only [EStateM.bind]
  cases x s <;> rfl

theorem forM_push_run : ∀ (args xs : List Value),
    (args.forM fun arg => do
        let coercedArg ← MonadExcept.ofExcept (coerceToType arg)
        inPlace_ (·.push fixedError coercedArg) : EStateM Error VectorStorage Unit).run ⟨xs, false⟩ =
      endsWith () (coercePrefix coerceToType args).2 (xs ++ (coercePrefix coerceToType args).1)
  | [], xs => by simp [endsWith, coercePrefix]; rfl
  | arg :: args, xs => by
    simp only [List.forM_cons', coercePrefix]
    cases coerceToType arg with
    | error e => simp only [endsWith, List.append_nil]; rfl
    | ok c =>
      have ih := forM_push_run args (xs ++ [c])
      simp only [List.append_assoc, List.singleton_append] at ih
      exact ih

theorem forM_unshift_run : ∀ (args xs : List Value),
    (args.forM fun arg => do
        let coercedArg ← MonadExcept.ofExcept (coerceToType arg)
        inPlace_ (·.unshift fixedError coercedArg) : EStateM Error VectorStorage Unit).run ⟨xs, false⟩ =
      endsWith () (coercePrefix coerceToType args).2 ((coercePrefix coerceToType args).1.reverse ++ xs)
  | [], xs => by simp [endsWith, coercePrefix]; rfl
  | arg :: args, xs => by
    simp only [List.forM_cons', coercePrefix]
    cases coerceToType arg with
    | error e => simp only [endsWith, List.reverse_nil, List.nil_append]; rfl
    | ok c =>
      have ih := forM_unshift_run args (c :: xs)
      simp only [List.reverse_cons, List.append_assoc, List.singleton_append]
      exact ih

/-- After a loop that ends with `xs`, the native returns the length of `xs`. -/
theorem run_length_of_run {x : EStateM Error VectorStorage Unit} {s : VectorStorage}
    {e : Option Error} {xs : List Value} (hx : x.run s = endsWith () e xs) :
    (do x; return lengthValue (← get).length : EStateM Error VectorStorage Value).run s =
      endsWith (lengthValue xs.length) e xs := by
  rw [run_bind_eq_match, hx]
  cases e <;> rfl

/-- `push` appends the arguments coerced before the first that fails, and
    returns the new length when none does. -/
theorem push_run (args xs : List Value) :
    (push coerceToType lengthValue fixedError args).run ⟨xs, false⟩ =
      endsWith (lengthValue (xs ++ (coercePrefix coerceToType args).1).length)
        (coercePrefix coerceToType args).2 (xs ++ (coercePrefix coerceToType args).1) :=
  run_length_of_run lengthValue (forM_push_run coerceToType fixedError args xs)

/-- A `push` that fails on its second argument keeps the first. -/
example :
    (push refuseNull (fun n => .unsigned (UInt32.ofNat n)) "RangeError"
      [.bool true, .null, .bool false]).run ⟨[], false⟩ = .error "TypeError" ⟨[.bool true], false⟩ :=
  rfl

/-- `unshift` puts first, in their order, the arguments coerced after the
    last that fails, and returns the new length when none does. -/
theorem unshift_run (args xs : List Value) :
    (unshift coerceToType lengthValue fixedError args).run ⟨xs, false⟩ =
      endsWith (lengthValue ((coercePrefix coerceToType args.reverse).1.reverse ++ xs).length)
        (coercePrefix coerceToType args.reverse).2
        ((coercePrefix coerceToType args.reverse).1.reverse ++ xs) :=
  run_length_of_run lengthValue (forM_unshift_run coerceToType fixedError args.reverse xs)

/-- An `unshift` that fails on its second argument keeps the third. -/
example :
    (unshift refuseNull (fun n => .unsigned (UInt32.ofNat n)) "RangeError"
      [.bool true, .null, .bool false]).run ⟨[], false⟩ = .error "TypeError" ⟨[.bool false], false⟩ :=
  rfl

theorem coercePrefix_append {l₁ l₂ : List Value} (h : (coercePrefix coerceToType l₁).2 = none) :
    coercePrefix coerceToType (l₁ ++ l₂) =
      ((coercePrefix coerceToType l₁).1 ++ (coercePrefix coerceToType l₂).1,
        (coercePrefix coerceToType l₂).2) := by
  induction l₁ with
  | nil => rfl
  | cons a l₁ ih =>
    rw [List.cons_append]
    simp only [coercePrefix] at h ⊢
    cases ha : coerceToType a with
    | error e => simp [ha] at h
    | ok c =>
      simp only [ha] at h ⊢
      rw [ih h]
      rfl

theorem coercePrefix_reverse_of_mapM : ∀ {args cs : List Value},
    args.mapM coerceToType = .ok cs → coercePrefix coerceToType args.reverse = (cs.reverse, none)
  | [], cs, h => by cases h; rfl
  | a :: args, cs, h => by
    rw [List.mapM_cons] at h
    cases ha : coerceToType a with
    | error e => rw [ha, except_error_bind] at h; cases h
    | ok c =>
      rw [ha, except_ok_bind] at h
      cases hs : args.mapM coerceToType with
      | error e => rw [hs, except_error_bind] at h; cases h
      | ok cs' =>
        rw [hs, except_ok_bind] at h
        cases h
        have ih := coercePrefix_reverse_of_mapM hs
        rw [List.reverse_cons, coercePrefix_append coerceToType (by rw [ih]), ih]
        simp [coercePrefix, ha]

/-- When every argument coerces, `unshift` puts them first in their own
    order, though it inserts them one by one from the last. -/
theorem unshift_of_coerced {args cs : List Value} (h : args.mapM coerceToType = .ok cs)
    (xs : List Value) :
    (unshift coerceToType lengthValue fixedError args).run ⟨xs, false⟩ =
      .ok (lengthValue (cs ++ xs).length) ⟨cs ++ xs, false⟩ := by
  rw [unshift_run, coercePrefix_reverse_of_mapM coerceToType h, List.reverse_reverse]
  rfl

theorem unshift_of_coerced_two :
    [Value.bool true, .bool false].mapM refuseNull = .ok [.bool true, .bool false] ∧
      (unshift refuseNull (fun n => .unsigned (UInt32.ofNat n)) "RangeError"
        [.bool true, .bool false]).run ⟨[.integer 0], false⟩ =
        .ok (.unsigned 3) ⟨[.bool true, .bool false, .integer 0], false⟩ :=
  ⟨rfl, @unshift_of_coerced refuseNull (fun n => .unsigned (UInt32.ofNat n)) "RangeError"
    [.bool true, .bool false] [.bool true, .bool false] rfl [.integer 0]⟩

theorem coercePrefix_singleton {v c : Value} (h : coerceToType v = .ok c) :
    coercePrefix coerceToType [v] = ([c], none) := by
  simp only [coercePrefix, h]

/-- A `push` of one value then a `pop` leave the vector as it was, and return
    the value coerced. -/
theorem pop_push (default : Value) {v c : Value} (h : coerceToType v = .ok c) (xs : List Value) :
    (push coerceToType lengthValue fixedError [v] >>= fun _ => pop fixedError default).run
      ⟨xs, false⟩ = .ok c ⟨xs, false⟩ := by
  have hp := push_run coerceToType lengthValue fixedError [v] xs
  rw [coercePrefix_singleton coerceToType h] at hp
  rw [run_bind_eq_match, hp]
  exact run_inPlace_ok (by simp [VectorStorage.pop])

example :
    (push refuseNull (fun n => .unsigned (UInt32.ofNat n)) "RangeError" [.bool true] >>= fun _ =>
      pop "RangeError" .undefined).run ⟨[.integer 0], false⟩ = .ok (.bool true) ⟨[.integer 0], false⟩ :=
  rfl

/-- An `unshift` of one value then a `shift` leave the vector as it was, and
    return the value coerced. -/
theorem shift_unshift (default : Value) {v c : Value} (h : coerceToType v = .ok c)
    (xs : List Value) :
    (unshift coerceToType lengthValue fixedError [v] >>= fun _ => shift fixedError default).run
      ⟨xs, false⟩ = .ok c ⟨xs, false⟩ := by
  have hp := unshift_run coerceToType lengthValue fixedError [v] xs
  rw [List.reverse_singleton, coercePrefix_singleton coerceToType h] at hp
  rw [run_bind_eq_match, hp]
  exact run_inPlace_ok (by simp [VectorStorage.shift])

example :
    (unshift refuseNull (fun n => .unsigned (UInt32.ofNat n)) "RangeError" [.bool true] >>= fun _ =>
      shift "RangeError" .undefined).run ⟨[.integer 0], false⟩ = .ok (.bool true) ⟨[.integer 0], false⟩ :=
  rfl

end Order

/-! ### `slice` -/

section Slice

variable (toNumber : Value → Except Error F64) (fixedError : Error)

theorem foldlM_push : ∀ (values xs : List Value),
    values.foldlM (m := Except Error) (fun (newVs : VectorStorage) value => newVs.push fixedError value)
      ⟨xs, false⟩ = .ok ⟨xs ++ values, false⟩
  | [], xs => by simp; rfl
  | v :: values, xs => by
    rw [List.foldlM_cons, VectorStorage.push_of_not_fixed, except_ok_bind, foldlM_push values,
      List.append_assoc, List.singleton_append]

/-- `slice()` copies the first 16777215 values: all of a vector no longer
    than that, and only a prefix of a longer one. -/
theorem slice_nil (vs : VectorStorage) :
    slice toNumber fixedError vs [] = .ok ⟨vs.storage.take 16777215, false⟩ := by
  have hfrom : vs.clampParameterIndex 0 = 0 := by simp [VectorStorage.clampParameterIndex]
  have hto : vs.clampParameterIndex ⟨16777215, by decide, by decide⟩ = min 16777215 vs.length := by
    simp [VectorStorage.clampParameterIndex]
  simp only [slice, List.getD_nil, Value.coerceToI32, except_ok_bind, hfrom, hto]
  split
  · rw [foldlM_push, List.drop_zero, List.nil_append, Nat.sub_zero, ← List.take_take,
      VectorStorage.length, List.take_of_length_le (le_refl _)]
  · have : vs.storage = [] := List.eq_nil_of_length_eq_zero (by simp_all [VectorStorage.length])
    simp only [this, List.take_nil]
    rfl

end Slice

/-! ### `concat` -/

/-- What `concat` uses of the runtime: the storage and classes of the
    receiver and of the arguments, the type test and coercion, and `{:?}` of
    a class name, which its messages print. -/
structure ConcatRuntime where
  /-- `as_vector_storage()`. -/
  asVectorStorage : Object → Option VectorStorage
  /-- `this.instance_of()`. -/
  instanceOf : Object → Option Object
  /-- `value_type()` of the receiver's storage. -/
  valueType : Object → Object
  coerceToObject : Value → Except Error Object
  /-- The name of `instance_of_class_definition()`. -/
  instanceOfClassDefinition : Object → Option QName
  /-- The name of `inner_class_definition()` of a class object. -/
  innerClassDefinition : Object → QName
  isOfType : Value → Object → Except Error Bool
  coerceToType : Value → Object → Except Error Value
  /-- `{:?}` of a class name. -/
  debugName : QName → String
  fixedError : Error
  /-- `VectorObject::from_vector`. -/
  fromVector : VectorStorage → Except Error Value

section Concat

variable (rt : ConcatRuntime)

/-- What `concat` does with one value of an argument vector: a value that
    coerces to an object must be of the receiver's value type; then the value
    is coerced to it. -/
def concatValue (valClass : Object) (val : Value) : Except Error Value := do
  if let .ok valObj := rt.coerceToObject val then
    if !(← rt.isOfType val valClass) then
      match rt.instanceOfClassDefinition valObj with
      | none => throw "TypeError: Tried to concat a bare object into a Vector"
      | .some otherValClass =>
        throw ("TypeError: Cannot coerce Vector value of type " ++ rt.debugName otherValClass ++
          " to type " ++ rt.debugName (rt.innerClassDefinition valClass))
  rt.coerceToType val valClass

/-- What `concat` checks of an argument: it coerces to an object with a
    class, and is of the receiver's class; its vector storage, if any. -/
def concatArgument (myClass : Object) (arg : Value) : Except Error (Option VectorStorage) := do
  let argObj ← rt.coerceToObject arg
  let argClass ← match rt.instanceOfClassDefinition argObj with
    | none => throw "TypeError: Tried to concat from a bare object"
    | .some argClass => pure argClass
  if !(← rt.isOfType arg myClass) then
    throw ("TypeError: Cannot coerce argument of type " ++ rt.debugName argClass ++
      " to argument of type " ++ rt.debugName (rt.innerClassDefinition myClass))
  pure (rt.asVectorStorage argObj)

/-- The body of the loop over the values of an argument vector. -/
def pushValue (valClass : Object) (newVectorStorage : VectorStorage) (val : Value) :
    Except Error VectorStorage := do
  let coercedVal ← concatValue rt valClass val
  newVectorStorage.push rt.fixedError coercedVal

/-- The body of the loop over the arguments: an argument that is not a
    vector is passed over. -/
def pushArgument (myClass valClass : Object) (newVectorStorage : VectorStorage) (arg : Value) :
    Except Error VectorStorage := do
  match ← concatArgument rt myClass arg with
  | none => pure newVectorStorage
  | .some oldVec => oldVec.storage.foldlM (pushValue rt valClass) newVectorStorage

/-- `concat`: a copy of the receiver's storage, to which every value of every
    argument vector is pushed, after the checks. -/
def concat (this : Option Object) (args : List Value) : Except Error Value :=
  match this with
  | none => pure .undefined
  | .some this =>
    match rt.asVectorStorage this with
    | none => throw "Not a vector-structured object"
    | .some vector =>
      match rt.instanceOf this with
      | none => throw "TypeError: Tried to concat into a bare object"
      | .some myClass => do
        let valClass := rt.valueType this
        let newVectorStorage ← args.foldlM (pushArgument rt myClass valClass) vector
        rt.fromVector newVectorStorage

/-- What `concat` appends, argument after argument: the values of each
    argument vector, checked and coerced, or the first error. -/
def argumentValues (myClass valClass : Object) (arg : Value) : Except Error (List Value) := do
  match ← concatArgument rt myClass arg with
  | none => pure []
  | .some oldVec => oldVec.storage.mapM (concatValue rt valClass)

/-- The values all the arguments append, or the first error. -/
def concatValues (myClass valClass : Object) (args : List Value) : Except Error (List Value) := do
  let valuess ← args.mapM (argumentValues rt myClass valClass)
  pure valuess.flatten

/-- Vectors of one class `⟨9⟩`: `⟨0⟩`, fixed, holding `true`, and `⟨1⟩`, not
    fixed, holding `false`; `⟨5⟩` is an object of that class but no vector,
    and every value is of every type. -/
def twoVectors : ConcatRuntime where
  asVectorStorage
    | ⟨0⟩ => .some ⟨[.bool true], true⟩
    | ⟨1⟩ => .some ⟨[.bool false], false⟩
    | _ => none
  instanceOf _ := .some ⟨9⟩
  valueType _ := ⟨8⟩
  coerceToObject
    | .object o => .ok o
    | _ => .error "TypeError"
  instanceOfClassDefinition _ := .some (QName.new Namespace.public "Vector")
  innerClassDefinition _ := QName.new Namespace.public "Vector"
  isOfType _ _ := .ok true
  coerceToType v _ := .ok v
  debugName q := q.name
  fixedError := "RangeError"
  fromVector vs := .ok (.unsigned (UInt32.ofNat vs.storage.length))

theorem foldlM_pushValue_of_not_fixed (valClass : Object) : ∀ (vals ys : List Value),
    vals.foldlM (pushValue rt valClass) ⟨ys, false⟩ =
      (vals.mapM (concatValue rt valClass)).map fun cs => ⟨ys ++ cs, false⟩
  | [], ys => by
    show (Except.ok ⟨ys, false⟩ : Except Error VectorStorage) = .ok ⟨ys ++ [], false⟩
    rw [List.append_nil]
  | val :: vals, ys => by
    rw [List.foldlM_cons, List.mapM_cons]
    cases hc : concatValue rt valClass val with
    | error e => simp only [pushValue, hc]; rfl
    | ok c =>
      simp only [pushValue, hc, except_ok_bind, VectorStorage.push_of_not_fixed]
      rw [foldlM_pushValue_of_not_fixed valClass vals]
      cases vals.mapM (concatValue rt valClass) with
      | error e => rfl
      | ok cs =>
        show (Except.ok ⟨ys ++ [c] ++ cs, false⟩ : Except Error VectorStorage) =
          .ok ⟨ys ++ c :: cs, false⟩
        rw [List.append_assoc, List.singleton_append]

theorem foldlM_pushArgument_of_not_fixed (myClass valClass : Object) : ∀ (args ys : List Value),
    args.foldlM (pushArgument rt myClass valClass) ⟨ys, false⟩ =
      (args.mapM (argumentValues rt myClass valClass)).map fun css => ⟨ys ++ css.flatten, false⟩
  | [], ys => by
    show (Except.ok ⟨ys, false⟩ : Except Error VectorStorage) = .ok ⟨ys ++ [], false⟩
    rw [List.append_nil]
  | arg :: args, ys => by
    have hstep : pushArgument rt myClass valClass ⟨ys, false⟩ arg =
        (argumentValues rt myClass valClass arg).map fun cs => ⟨ys ++ cs, false⟩ := by
      simp only [pushArgument, argumentValues]
      rcases concatArgument rt myClass arg with e | _ | oldVec
      · rfl
      · show (Except.ok ⟨ys, false⟩ : Except Error VectorStorage) = .ok ⟨ys ++ [], false⟩
        rw [List.append_nil]
      · exact foldlM_pushValue_of_not_fixed rt valClass oldVec.storage ys
    rw [List.foldlM_cons, List.mapM_cons, hstep]
    cases argumentValues rt myClass valClass arg with
    | error e => rfl
    | ok cs =>
      show args.foldlM (pushArgument rt myClass valClass) ⟨ys ++ cs, false⟩ = _
      rw [foldlM_pushArgument_of_not_fixed myClass valClass args (ys ++ cs)]
      cases args.mapM (argumentValues rt myClass valClass) with
      | error e => rfl
      | ok css =>
        show (Except.ok ⟨ys ++ cs ++ css.flatten, false⟩ : Except Error VectorStorage) =
          .ok ⟨ys ++ (cs :: css).flatten, false⟩
        rw [List.flatten_cons, List.append_assoc]

/-- `concat` on a vector that is not fixed returns a new vector of its values
    followed by those the arguments bring, checked and coerced, or the first
    error of the checks. -/
theorem concat_of_not_fixed {this myClass : Object} {xs : List Value}
    (hvec : rt.asVectorStorage this = .some ⟨xs, false⟩) (hclass : rt.instanceOf this = .some myClass)
    (args : List Value) :
    concat rt (.some this) args =
      concatValues rt myClass (rt.valueType this) args >>= fun ys => rt.fromVector ⟨xs ++ ys, false⟩ := by
  simp only [concat, hvec, hclass, foldlM_pushArgument_of_not_fixed, concatValues]
  cases args.mapM (argumentValues rt myClass (rt.valueType this)) <;> rfl

theorem concat_of_not_fixed_twoVectors :
    twoVectors.asVectorStorage ⟨1⟩ = .some ⟨[.bool false], false⟩ ∧
      twoVectors.instanceOf ⟨1⟩ = .some ⟨9⟩ ∧
      concat twoVectors (.some ⟨1⟩) [.object ⟨1⟩, .object ⟨0⟩] =
        concatValues twoVectors ⟨9⟩ (twoVectors.valueType ⟨1⟩) [.object ⟨1⟩, .object ⟨0⟩] >>=
          fun ys => twoVectors.fromVector ⟨[.bool false] ++ ys, false⟩ :=
  ⟨rfl, rfl, @concat_of_not_fixed twoVectors ⟨1⟩ ⟨9⟩ [.bool false] rfl rfl _⟩

theorem foldlM_pushValue_of_fixed (valClass : Object) : ∀ (vals ys : List Value) {vs : VectorStorage},
    vals.foldlM (pushValue rt valClass) ⟨ys, true⟩ = .ok vs → vals = [] ∧ vs = ⟨ys, true⟩
  | [], ys, _, h => ⟨rfl, (Except.ok.inj h).symm⟩
  | val :: vals, ys, _, h => by
    rw [List.foldlM_cons] at h
    cases hc : concatValue rt valClass val <;>
      simp only [pushValue, hc, VectorStorage.push, except_ok_bind, except_error_bind] at h <;>
      cases h

theorem pushArgument_of_fixed {myClass valClass : Object} {ys : List Value} {arg : Value}
    {vs : VectorStorage} (h : pushArgument rt myClass valClass ⟨ys, true⟩ arg = .ok vs) :
    argumentValues rt myClass valClass arg = .ok [] ∧ vs = ⟨ys, true⟩ := by
  simp only [pushArgument, argumentValues] at h ⊢
  rcases hcheck : concatArgument rt myClass arg with e | _ | oldVec <;> rw [hcheck] at h
  · cases h
  · exact ⟨rfl, (Except.ok.inj h).symm⟩
  · obtain ⟨hnil, rfl⟩ := foldlM_pushValue_of_fixed rt valClass oldVec.storage ys h
    refine ⟨?_, rfl⟩
    show oldVec.storage.mapM (concatValue rt valClass) = _
    rw [hnil]
    rfl

theorem foldlM_pushArgument_of_fixed (myClass valClass : Object) :
    ∀ (args ys : List Value) {vs : VectorStorage},
      args.foldlM (pushArgument rt myClass valClass) ⟨ys, true⟩ = .ok vs →
        args.mapM (argumentValues rt myClass valClass) = .ok (args.map fun _ => []) ∧
          vs = ⟨ys, true⟩
  | [], ys, _, h => ⟨rfl, (Except.ok.inj h).symm⟩
  | arg :: args, ys, _, h => by
    rw [List.foldlM_cons] at h
    cases hp : pushArgument rt myClass valClass ⟨ys, true⟩ arg with
    | error e => rw [hp] at h; cases h
    | ok vs₁ =>
      obtain ⟨harg, rfl⟩ := pushArgument_of_fixed rt hp
      rw [hp, except_ok_bind] at h
      obtain ⟨hargs, rfl⟩ := foldlM_pushArgument_of_fixed myClass valClass args ys h
      rw [List.mapM_cons, harg, except_ok_bind, hargs]
      exact ⟨rfl, rfl⟩

/-- A fixed vector is never added to: `concat` on one succeeds only when no
    argument brings a value, and then returns a fixed copy of it. -/
theorem concat_of_fixed {this myClass : Object} {xs args : List Value} {v : Value}
    (hvec : rt.asVectorStorage this = .some ⟨xs, true⟩) (hclass : rt.instanceOf this = .some myClass)
    (h : concat rt (.some this) args = .ok v) :
    concatValues rt myClass (rt.valueType this) args = .ok [] ∧ rt.fromVector ⟨xs, true⟩ = .ok v := by
  simp only [concat, hvec, hclass] at h
  cases hfold : args.foldlM (pushArgument rt myClass (rt.valueType this)) ⟨xs, true⟩ with
  | error e => rw [hfold] at h; cases h
  | ok vs =>
    rw [hfold, except_ok_bind] at h
    obtain ⟨hargs, rfl⟩ := foldlM_pushArgument_of_fixed rt myClass (rt.valueType this) args xs hfold
    refine ⟨?_, h⟩
    simp only [concatValues, hargs, except_ok_bind]
    show Except.ok _ = Except.ok _
    simp

theorem concat_of_fixed_twoVectors :
    twoVectors.asVectorStorage ⟨0⟩ = .some ⟨[.bool true], true⟩ ∧
      twoVectors.instanceOf ⟨0⟩ = .some ⟨9⟩ ∧
      concat twoVectors (.some ⟨0⟩) [.object ⟨5⟩] = .ok (.unsigned 1) ∧
      concatValues twoVectors ⟨9⟩ (twoVectors.valueType ⟨0⟩) [.object ⟨5⟩] = .ok [] ∧
      twoVectors.fromVector ⟨[.bool true], true⟩ = .ok (.unsigned 1) :=
  ⟨rfl, rfl, rfl, @concat_of_fixed twoVectors ⟨0⟩ ⟨9⟩ [.bool true] [.object ⟨5⟩] (.unsigned 1)
    rfl rfl rfl⟩

/-- Concatenating a vector to a fixed one fails with the fixed vector's error. -/
example : concat twoVectors (.some ⟨0⟩) [.object ⟨1⟩] = .error "RangeError" := rfl

end Concat

end Vector

end RuffleAvm
