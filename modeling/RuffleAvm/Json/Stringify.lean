/-
  RuffleAvm/Json/Stringify.lean
  =============================
  **`JSON.stringify` with its replacer and `toJSON`** (`avm2/globals/json.rs`):
  `AvmSerializer::map_value`, `serialize_object` with a property list,
  `serialize_iterable`, `serialize_value`, `serialize`, and the argument
  handling of `stringify`.

  `map_value` calls code: an object's `toJSON`, then a replacer function.
  That code runs in a world `σ` with its effects, which the serializer keeps
  when a later step fails; it does not change the objects being serialized,
  which the serializer reads from a fixed heap.  Three results:

  * with no replacer and no callable `toJSON`, the serializer is the one of
    `Json/Serialize.lean` and touches no world (`serializeWith_none`), so
    `stringify` of one value prints that serializer's document
    (`stringify_single`);
  * a property list is a whitelist at every depth: every key the output
    holds, anywhere, is one of the list's items as a string
    (`serializeWith_propList_keysIn`);
  * `stringify` refuses a replacer that is neither a function nor an array
    before it runs any code (`stringify_of_not_replacer`).
-/
import RuffleAvm.Json.Serialize
import Mathlib.Data.Rat.Floor

namespace RuffleAvm

/-! ### The serializer's runtime -/

/-- `Replacer`: a function called on every key and value, or an array whose
    items name the properties an object writes. -/
inductive Replacer (σ : Type) where
  | function (call : Value → Value → EStateM Error σ Value)
  | propList (props : Object)

/-- What the serializer calls out to.  None of these is in this source. -/
structure StringifyRuntime (σ : Type) where
  /-- An object's `toJSON`, when it is a function object: its call on a key. -/
  toJson : Object → Option (Value → EStateM Error σ Value)
  /-- `coerce_to_string`; an object's `toString` may run code. -/
  coerceToString : Value → EStateM Error σ String
  /-- `get_property` of a public name. -/
  getProperty : Object → String → Value

/-- The serializer's monad once it calls code: `obj_stack` as state, over the
    world the calls change, kept when a later step fails; `none` is running
    out of fuel. -/
abbrev Stringifier (σ : Type) := StateT (List Object) (ExceptT Error (StateT σ Option))

namespace Stringifier

variable {σ α β : Type}

/-- A call of AVM code from inside the serializer. -/
def call (x : EStateM Error σ α) : Stringifier σ α := fun stack =>
  ExceptT.mk fun w => some <| match x w with
    | .ok a w' => (.ok (a, stack), w')
    | .error e w' => (.error e, w')

/-- A step of the serializer that calls no code, in a world it leaves alone. -/
def lift (x : Serializer α) : Stringifier σ α := fun stack =>
  ExceptT.mk fun w => (fun r => (r, w)) <$> (x.run stack).run

/-- The part of `serialize_value` around an array or a plain object. -/
def withObject (obj : Object) (body : Stringifier σ JsonValue) : Stringifier σ JsonValue := do
  if (← get).contains obj then throw cyclicStructure
  else do
    modify (· ++ [obj])
    let value ← body
    modify List.dropLast
    pure value

end Stringifier

section Serializer

variable {σ : Type} (rt : StringifyRuntime σ) (h : Heap) (replacer : Option (Replacer σ))

/-- `map_value`: an object's `toJSON` on the key, then a replacer function on
    the key and the result.  The key is computed lazily in the source; it is
    the same string either way. -/
def mapValue (key : String) (value : Value) : EStateM Error σ Value := do
  let value ← match value with
    | .object obj =>
      match rt.toJson obj with
      | some toJson => toJson (.string key)
      | none => pure value
    | _ => pure value
  match replacer with
  | some (.function replacer) => replacer (.string key) value
  | _ => pure value

/-- The items of the property list: what `ArrayIter` walks on the array. -/
def propItems (props : Object) : List Value :=
  match h.data props with
  | .array items => items
  | _ => []

/-- One property of `serialize_object`: mapped, skipped if `undefined`, else
    serialized and inserted. -/
def insertMapped (serialize : Value → Stringifier σ JsonValue)
    (js : List (String × JsonValue)) (key : String) (value : Value) :
    Stringifier σ (List (String × JsonValue)) := do
  let mapped ← Stringifier.call (mapValue rt replacer key value)
  if mapped = .undefined then pure js
  else (JsonValue.insert js key ·) <$> serialize mapped

/-- `AvmSerializer::serialize_value`, with `fuel` bounding the depth of its
    recursion.  An array goes through `serialize_iterable`, each element
    mapped with its index as key; a plain object through `serialize_object`,
    over the property list's items when the replacer is one, else over its
    enumerants. -/
def serializeValueWith : Nat → Value → Stringifier σ JsonValue
  | 0, _ => fun _ => ExceptT.mk fun _ => none
  | fuel + 1, value =>
    match value with
    | .null => pure .null
    | .undefined => pure .null
    | .integer i => pure (.ofI32 i)
    | .unsigned u => pure (.ofU32 u)
    | .number n => pure (.ofF64 n)
    | .bool b => pure (.bool b)
    | .string s => pure (.string s)
    | .object obj =>
      match h.data obj with
      | .boxed prim => serializeValueWith fuel prim.val
      | .array elements => Stringifier.withObject obj <| .array <$>
          elements.enum.mapM fun (i, item) => do
            let mapped ← Stringifier.call (mapValue rt replacer (toString i) item)
            serializeValueWith fuel mapped
      | .plain props => Stringifier.withObject obj <| .object <$>
          match replacer with
          | some (.propList list) => (propItems h list).foldlM (fun js item => do
              let key ← Stringifier.call (rt.coerceToString item)
              insertMapped rt replacer (serializeValueWith fuel) js key (rt.getProperty obj key)) []
          | _ => props.foldlM (fun js p =>
              insertMapped rt replacer (serializeValueWith fuel) js p.1 p.2) []

/-- `AvmSerializer::serialize`: the value mapped with the key `""`, then
    serialized. -/
def serializeWith (fuel : Nat) (value : Value) : Stringifier σ JsonValue := do
  let mapped ← Stringifier.call (mapValue rt replacer "" value)
  serializeValueWith rt h replacer fuel mapped

end Serializer

/-! ### With no code to call, the serializer of `Json/Serialize.lean`

`lift` commutes with the monad's operations, so it carries the plain
serializer's loops over; with no replacer function and no `toJSON`,
`map_value` returns its value and every loop is the plain one. -/

namespace Stringifier

variable {σ α β : Type}

theorem run_lift (x : Serializer α) (stack : List Object) (w : σ) :
    (((lift x : Stringifier σ α).run stack).run).run w = (fun r => (r, w)) <$> (x.run stack).run :=
  rfl

theorem lift_bind (x : Serializer α) (f : α → Serializer β) :
    (lift (x >>= f) : Stringifier σ β) = lift x >>= fun a => lift (f a) := by
  funext stack
  refine ExceptT.ext (StateT.ext fun w => ?_)
  show (((lift (x >>= f) : Stringifier σ β).run stack).run).run w =
    (((lift x >>= fun a => lift (f a) : Stringifier σ β).run stack).run).run w
  simp only [StateT.run_bind, ExceptT.run_bind, run_lift]
  rcases (x.run stack).run with _ | _ | ⟨a, s⟩
  · rfl
  · rfl
  · exact run_lift _ _ _

theorem run'_lift (x : Serializer α) (stack : List Object) (w : σ) :
    (((lift x : Stringifier σ α).run' stack).run).run w = (fun r => (r, w)) <$> (x.run' stack).run := by
  simp only [StateT.run', ExceptT.run_map, StateT.run_map, lift, ExceptT.run_mk, StateT.run]
  rcases (x stack).run with _ | _ | _ <;> rfl

theorem lift_pure (a : α) : (lift (pure a) : Stringifier σ α) = pure a := rfl

theorem lift_map (f : α → β) (x : Serializer α) :
    (lift (f <$> x) : Stringifier σ β) = f <$> lift x := by
  rw [map_eq_pure_bind, map_eq_pure_bind, lift_bind]
  rfl

theorem lift_mapM (f : α → Serializer β) :
    ∀ l : List α, (lift (l.mapM f) : Stringifier σ (List β)) = l.mapM fun a => lift (f a)
  | [] => rfl
  | a :: l => by
    simp only [List.mapM_cons, lift_bind, lift_mapM f l]
    rfl

theorem lift_foldlM (f : β → α → Serializer β) :
    ∀ (l : List α) (init : β),
      (lift (l.foldlM f init) : Stringifier σ β) = l.foldlM (fun b a => lift (f b a)) init
  | [], _ => rfl
  | a :: l, init => by
    simp only [List.foldlM_cons, lift_bind, lift_foldlM f l]

theorem lift_withObject (obj : Object) (body : Serializer JsonValue) :
    (lift (RuffleAvm.withObject obj body) : Stringifier σ JsonValue) = withObject obj (lift body) := by
  simp only [RuffleAvm.withObject, Stringifier.withObject, lift_bind]
  congr 1
  funext stack
  split
  · rfl
  · simp only [lift_bind]
    rfl

theorem call_pure (a : α) : (call (pure a : EStateM Error σ α)) = pure a := rfl

end Stringifier

section Lift

variable {σ : Type} (rt : StringifyRuntime σ) (h : Heap)

theorem mapValue_none (hjson : ∀ o, rt.toJson o = none) (key : String) (v : Value) :
    mapValue rt none key v = pure v := by
  cases v <;> simp only [mapValue, hjson] <;> rfl

theorem mapM_enum_snd {α β : Type} {m : Type → Type} [Monad m] [LawfulMonad m] (f : α → m β) :
    ∀ (l : List α) (n : Nat), (l.enumFrom n).mapM (fun p => f p.2) = l.mapM f
  | [], _ => rfl
  | a :: l, n => by simp only [List.enumFrom_cons, List.mapM_cons, mapM_enum_snd f l]

/-- With no replacer and no callable `toJSON`, `serialize_value` is the
    serializer that calls no code. -/
theorem serializeValueWith_none (hjson : ∀ o, rt.toJson o = none) :
    ∀ fuel v, serializeValueWith rt h none fuel v = Stringifier.lift (serializeValue h fuel v)
  | 0, _ => rfl
  | fuel + 1, v => by
    have ih := serializeValueWith_none hjson fuel
    cases v with
    | object obj =>
      cases hd : h.data obj with
      | boxed prim => simp only [serializeValueWith, serializeValue, hd, ih]
      | array es =>
        simp only [serializeValueWith, serializeValue, hd, mapValue_none rt hjson,
          Stringifier.call_pure, pure_bind, ih, Stringifier.lift_withObject, Stringifier.lift_map,
          Stringifier.lift_mapM]
        rw [List.enum, mapM_enum_snd (fun v => Stringifier.lift (serializeValue h fuel v))]
      | plain props =>
        simp only [serializeValueWith, serializeValue, hd, insertMapped, mapValue_none rt hjson,
          Stringifier.call_pure, pure_bind, ih, Stringifier.lift_withObject, Stringifier.lift_map,
          Stringifier.lift_foldlM, apply_ite Stringifier.lift, Stringifier.lift_pure]
    | _ => rfl

/-- With no replacer and no callable `toJSON`, `serialize` is the serializer
    that calls no code: the same document, the same error, and a world no
    call has touched. -/
theorem serializeWith_none (hjson : ∀ o, rt.toJson o = none) (fuel : Nat) (v : Value) :
    serializeWith rt h none fuel v = Stringifier.lift (serializeValue h fuel v) := by
  simp only [serializeWith, mapValue_none rt hjson, Stringifier.call_pure, pure_bind,
    serializeValueWith_none rt h hjson]

end Lift

/-! ### What every successful run returns -/

namespace Stringifier

variable {σ α β : Type}

/-- Every successful run of `x` returns a value satisfying `P`. -/
def Ensures (x : Stringifier σ α) (P : α → Prop) : Prop :=
  ∀ stack w a stack' w', ((x.run stack).run).run w = some (.ok (a, stack'), w') → P a

theorem run_bind (x : Stringifier σ α) (f : α → Stringifier σ β) (stack : List Object) (w : σ) :
    (((x >>= f).run stack).run).run w =
      match ((x.run stack).run).run w with
      | none => none
      | some (.error e, w') => some (.error e, w')
      | some (.ok (a, s), w') => (((f a).run s).run).run w' := by
  rw [StateT.run_bind, ExceptT.run_bind, StateT.run_bind]
  rcases ((x.run stack).run).run w with _ | ⟨_ | ⟨a, s⟩, w'⟩ <;> rfl

theorem ensures_pure {P : α → Prop} {a : α} (ha : P a) : (pure a : Stringifier σ α).Ensures P := by
  rintro stack w a' stack' w' ⟨⟩
  exact ha

theorem ensures_bind {x : Stringifier σ α} {f : α → Stringifier σ β} {Q : α → Prop} {P : β → Prop}
    (hx : x.Ensures Q) (hf : ∀ a, Q a → (f a).Ensures P) : (x >>= f).Ensures P := by
  intro stack w b stack' w' hrun
  rw [run_bind] at hrun
  rcases hxr : ((x.run stack).run).run w with _ | ⟨_ | ⟨a, s⟩, w₁⟩ <;> rw [hxr] at hrun
  · cases hrun
  · cases hrun
  · exact hf a (hx stack w a s w₁ hxr) s w₁ b stack' w' hrun

theorem ensures_map {x : Stringifier σ α} {Q : α → Prop} {P : β → Prop} {f : α → β}
    (hx : x.Ensures Q) (hf : ∀ a, Q a → P (f a)) : (f <$> x).Ensures P := by
  rw [map_eq_pure_bind]
  exact ensures_bind hx fun a ha => ensures_pure (hf a ha)

/-- A call returns what the called code can return. -/
theorem ensures_call (x : EStateM Error σ α) :
    (call x).Ensures fun a => ∃ w w', x w = .ok a w' := by
  intro stack w a stack' w' hrun
  dsimp only [call, StateT.run, ExceptT.run, ExceptT.mk] at hrun
  split at hrun
  · cases hrun
    exact ⟨w, _, ‹_›⟩
  · cases hrun

theorem ensures_foldlM {f : β → α → Stringifier σ β} {I : β → Prop} :
    ∀ {l : List α} {init : β}, I init → (∀ b, I b → ∀ a ∈ l, (f b a).Ensures I) →
      (l.foldlM f init).Ensures I
  | [], _, h0, _ => ensures_pure h0
  | a :: l, init, h0, hstep => by
    rw [List.foldlM_cons]
    exact ensures_bind (hstep init h0 a (.head _)) fun b hb =>
      ensures_foldlM hb fun b' hb' a' ha' => hstep b' hb' a' (.tail _ ha')

theorem ensures_mapM {f : α → Stringifier σ β} {P : β → Prop} :
    ∀ {l : List α}, (∀ a ∈ l, (f a).Ensures P) → (l.mapM f).Ensures fun bs => ∀ b ∈ bs, P b
  | [], _ => ensures_pure fun _ hb => nomatch hb
  | a :: l, h => by
    rw [List.mapM_cons]
    exact ensures_bind (h a (.head _)) fun b hb =>
      ensures_bind (ensures_mapM fun a' ha' => h a' (.tail _ ha')) fun bs hbs =>
        ensures_pure fun b' hb' => by
          rcases List.mem_cons.mp hb' with rfl | hb'
          · exact hb
          · exact hbs b' hb'

theorem ensures_withObject {obj : Object} {body : Stringifier σ JsonValue} {P : JsonValue → Prop}
    (hb : body.Ensures P) : (withObject obj body).Ensures P := by
  refine ensures_bind (Q := fun _ => True) (fun _ _ _ _ _ _ => trivial) fun stack _ => ?_
  split
  · intro _ _ _ _ _ hrun
    cases hrun
  · exact ensures_bind (Q := fun _ => True) (fun _ _ _ _ _ _ => trivial) fun _ _ =>
      ensures_bind hb fun v hv =>
        ensures_bind (Q := fun _ => True) (fun _ _ _ _ _ _ => trivial) fun _ _ => ensures_pure hv

end Stringifier

/-! ### A property list is a whitelist at every depth -/

namespace JsonValue

variable (allowed : String → Prop)

mutual

/-- Every key of every object in the document is `allowed`. -/
def keysIn : JsonValue → Prop
  | .array a => keysInElements a
  | .object m => keysInEntries m
  | _ => True

/-- `keysIn` of every element. -/
def keysInElements : List JsonValue → Prop
  | [] => True
  | v :: vs => keysIn v ∧ keysInElements vs

/-- Every key allowed, and `keysIn` of every value. -/
def keysInEntries : List (String × JsonValue) → Prop
  | [] => True
  | (k, v) :: m => allowed k ∧ keysIn v ∧ keysInEntries m

end

variable {allowed}

theorem keysInElements_iff : ∀ {vs : List JsonValue},
    keysInElements allowed vs ↔ ∀ v ∈ vs, keysIn allowed v
  | [] => by simp [keysInElements]
  | v :: vs => by simp [keysInElements, keysInElements_iff]

theorem keysInEntries_iff : ∀ {m : List (String × JsonValue)},
    keysInEntries allowed m ↔ ∀ p ∈ m, allowed p.1 ∧ keysIn allowed p.2
  | [] => by simp [keysInEntries]
  | (k, v) :: m => by simp only [keysInEntries, keysInEntries_iff, List.forall_mem_cons, and_assoc]

theorem mem_insert {m : List (String × JsonValue)} {k : String} {v : JsonValue}
    {p : String × JsonValue} (hp : p ∈ insert m k v) : p ∈ m ∨ p = (k, v) := by
  unfold insert assocInsert at hp
  split at hp
  · obtain ⟨q, hq, hqp⟩ := List.mem_map.mp hp
    split at hqp
    · exact .inr hqp.symm
    · exact .inl (hqp ▸ hq)
  · simpa using hp

theorem keysInEntries_insert {m : List (String × JsonValue)} {k : String} {v : JsonValue}
    (hm : keysInEntries allowed m) (hk : allowed k) (hv : keysIn allowed v) :
    keysInEntries allowed (insert m k v) := by
  rw [keysInEntries_iff] at hm ⊢
  intro p hp
  rcases mem_insert hp with hp | rfl
  · exact hm p hp
  · exact ⟨hk, hv⟩

end JsonValue

section PropList

variable {σ : Type} (rt : StringifyRuntime σ) (h : Heap)

/-- The keys a property list allows: what `coerce_to_string` can make of one
    of its items. -/
def propListKeys (list : Object) (k : String) : Prop :=
  ∃ item ∈ propItems h list, ∃ w w', rt.coerceToString item w = .ok k w'

theorem serializeValueWith_propList_keysIn (list : Object) :
    ∀ fuel v, (serializeValueWith rt h (some (.propList list)) fuel v).Ensures
      (JsonValue.keysIn (propListKeys rt h list))
  | 0, _ => fun _ _ _ _ _ hrun => nomatch hrun
  | fuel + 1, v => by
    have ih := serializeValueWith_propList_keysIn list fuel
    cases v with
    | object obj =>
      cases hd : h.data obj with
      | boxed prim =>
        simp only [serializeValueWith, hd]
        exact ih prim.val
      | array es =>
        simp only [serializeValueWith, hd]
        exact Stringifier.ensures_withObject <| Stringifier.ensures_map
          (Stringifier.ensures_mapM fun _ _ =>
            Stringifier.ensures_bind (Stringifier.ensures_call _) fun mapped _ => ih mapped)
          fun _ hvs => JsonValue.keysInElements_iff.mpr hvs
      | plain props =>
        simp only [serializeValueWith, hd]
        refine Stringifier.ensures_withObject <| Stringifier.ensures_map
          (Stringifier.ensures_foldlM (I := JsonValue.keysInEntries (propListKeys rt h list))
            trivial fun js hjs item hitem => ?_) fun _ hm => hm
        refine Stringifier.ensures_bind (Stringifier.ensures_call _) fun key hkey =>
          Stringifier.ensures_bind (Stringifier.ensures_call _) fun mapped _ => ?_
        split
        · exact Stringifier.ensures_pure hjs
        · exact Stringifier.ensures_map (ih mapped) fun _ hv =>
            JsonValue.keysInEntries_insert hjs ⟨item, hitem, hkey⟩ hv
    | number n => exact Stringifier.ensures_pure (by cases n <;> trivial)
    | _ => exact Stringifier.ensures_pure trivial

end PropList

/-! ### `stringify` -/

/-- What `stringify` reads of its arguments, beyond the serializer's runtime.
    None of these is in this source. -/
structure JsonStringifyRuntime (σ : Type) extends StringifyRuntime σ where
  /-- `coerce_to_object(..).ok()`: `None` for `undefined` and `null`; a
      primitive is boxed. -/
  coerceToObject : Value → Option Object
  /-- `as_function_object`, as the replacer's call. -/
  asFunctionObject : Object → Option (Value → Value → EStateM Error σ Value)
  /-- `Value::as_number`. -/
  asNumber : Value → Option F64
  /-- The first ten code units of a string, as bytes: `Units::Bytes` as they
      are, wide units through `to_utf8_lossy`. -/
  indentUnits : String → List UInt8
  /-- serde_json's `to_string`, or its `PrettyFormatter` with the indent. -/
  print : Option (List UInt8) → JsonValue → String

/-- The error for a replacer that is neither a function nor an array. -/
def replacerNotFunctionOrArray : Error :=
  "TypeError: Error #1131: Replacer argument to JSON stringifier must be an array or a two parameter function."

/-- A runtime where no object has a `toJSON`, only an object coerces to one,
    and only a number is one. -/
def plainStringifyRuntime : JsonStringifyRuntime Unit where
  toJson _ := none
  coerceToString _ := pure ""
  getProperty _ _ := .undefined
  coerceToObject
    | .object o => some o
    | _ => none
  asFunctionObject _ := none
  asNumber
    | .number n => some n
    | _ => none
  indentUnits s := s.toUTF8.data.toList.take 10
  print _ _ := ""

section Stringify

variable {σ : Type} (rt : JsonStringifyRuntime σ) (h : Heap)

/-- The replacer argument: a function, an array as a property list, or none
    when it is not an object; any other object is refused. -/
def replacerOf (v : Value) : Except Error (Option (Replacer σ)) :=
  match rt.coerceToObject v with
  | none => .ok none
  | some obj =>
    match rt.asFunctionObject obj with
    | some f => .ok (some (.function f))
    | none =>
      match h.data obj with
      | .array _ => .ok (some (.propList obj))
      | _ => .error replacerNotFunctionOrArray

/-- `spaces.as_number().unwrap_or(0.0).clamp(0.0, 10.0) as u16`: the cast
    truncates toward zero, and takes NaN to `0`. -/
def clampIndent : F64 → Nat
  | .finite q => ⌊max 0 (min q 10)⌋₊
  | .posInf => 10
  | .negInf => 0
  | .nan => 0

/-- The indent: a non-empty string's first ten units, or as many spaces as
    the clamped number; none for an empty string or a size of `0`. -/
def indentOf (spaces : Value) : Option (List UInt8) :=
  match spaces with
  | .string s => if s.isEmpty then none else some (rt.indentUnits s)
  | _ =>
    let indentSize := clampIndent ((rt.asNumber spaces).getD (.finite 0))
    if indentSize = 0 then none else some (List.replicate indentSize 32)

/-- `JSON.stringify`. -/
def stringify (fuel : Nat) (args : List Value) : ExceptT Error (StateT σ Option) Value := do
  let val := args.getD 0 .undefined
  let replacer ← MonadExcept.ofExcept (replacerOf rt h (args.getD 1 .undefined))
  let indent := indentOf rt (args.getD 2 .undefined)
  let json ← (serializeWith rt.toStringifyRuntime h replacer fuel val).run' []
  pure (.string (rt.print indent json))

/-- A replacer that is an object but neither a function nor an array fails
    `stringify` before any code runs: the world is as it was. -/
theorem stringify_of_not_replacer (fuel : Nat) (args : List Value) (w : σ) {obj : Object}
    (hobj : rt.coerceToObject (args.getD 1 .undefined) = some obj)
    (hfun : rt.asFunctionObject obj = none) (harr : ∀ es, h.data obj ≠ .array es) :
    (stringify rt h fuel args).run.run w = some (.error replacerNotFunctionOrArray, w) := by
  have : replacerOf rt h (args.getD 1 .undefined) = .error replacerNotFunctionOrArray := by
    simp only [replacerOf, hobj, hfun]
  simp only [stringify, this]
  rfl

/-- An ordinary object given as the replacer. -/
example : (stringify plainStringifyRuntime Heap.empty 1 [.bool true, .object ⟨3⟩]).run.run () =
    some (.error replacerNotFunctionOrArray, ()) := rfl

/-- With one argument and no callable `toJSON`, `stringify` prints, with no
    indent, the document of the serializer that calls no code, and touches no
    world. -/
theorem stringify_single (hjson : ∀ o, rt.toJson o = none)
    (hundefined : rt.coerceToObject .undefined = none) (hnumber : rt.asNumber .undefined = none)
    (fuel : Nat) (v : Value) (w : σ) :
    (stringify rt h fuel [v]).run.run w =
      (((serializeValue h fuel v).run' []).run).map fun r =>
        (r.map fun json => .string (rt.print none json), w) := by
  have hreplacer : replacerOf rt h .undefined = .ok none := by simp only [replacerOf, hundefined]
  have hindent : indentOf rt .undefined = none := by simp [indentOf, hnumber, clampIndent]
  simp only [stringify, List.getD_cons_zero, List.getD_cons_succ, List.getD_nil, hreplacer,
    hindent]
  show (do
      let json ← (serializeWith rt.toStringifyRuntime h none fuel v).run' []
      pure (Value.string (rt.print none json)) : ExceptT Error (StateT σ Option) Value).run.run w = _
  rw [serializeWith_none rt.toStringifyRuntime h hjson, ExceptT.run_bind, StateT.run_bind,
    Stringifier.run'_lift]
  rcases ((serializeValue h fuel v).run' []).run with _ | _ | _ <;> rfl

theorem stringify_single_bool :
    (∀ o, plainStringifyRuntime.toJson o = none) ∧
      plainStringifyRuntime.coerceToObject .undefined = none ∧
      plainStringifyRuntime.asNumber .undefined = none ∧
      (stringify plainStringifyRuntime Heap.empty 1 [.bool true]).run.run () =
        some (.ok (.string (plainStringifyRuntime.print none (.bool true))), ()) :=
  ⟨fun _ => rfl, rfl, rfl,
    (stringify_single plainStringifyRuntime Heap.empty (fun _ => rfl) rfl rfl 1 (.bool true) ()).trans
      rfl⟩

end Stringify

end RuffleAvm
