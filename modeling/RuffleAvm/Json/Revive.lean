/-
  RuffleAvm/Json/Revive.lean
  ==========================
  **`JSON.parse` with its reviver** (`avm2/globals/json.rs`):
  `deserialize_json_inner` and `deserialize_json` as the code has them, the
  reviver called on every member and element after its own members, and last
  on the whole document under the key `""`, and the native `parse` around
  them.

  A reviver is any function: its call may fail, and may change the heap, so
  the deserializer runs in `EStateM Error Heap`, where a failure keeps the
  heap it leaves.  `Json/Parse.lean` models the reviver-free path in
  `StateM Heap`; two results tie the layers together:

  * with no reviver, the code is that deserializer, lifted — the same value
    and heap, and never a failure (`deserializeJsonWith_none`);
  * a reviver that hands back the value it is given, and leaves the heap as it
    found it, changes nothing (`deserializeJsonWith_of_returns_value`).
-/
import RuffleAvm.Json.Parse

namespace RuffleAvm

/-! ### The reviver's monad -/

/-- A step of `JSON.parse` with a reviver: it may fail, keeping the heap. -/
abbrev Revive := EStateM Error Heap

namespace Revive

variable {α β : Type}

/-- A step that cannot fail, in the reviver's monad. -/
def ofStateM (x : StateM Heap α) : Revive α := fun h => .ok (x.run h).1 (x.run h).2

theorem ofStateM_pure (a : α) : ofStateM (pure a) = pure a := rfl

theorem ofStateM_bind (x : StateM Heap α) (f : α → StateM Heap β) :
    ofStateM (x >>= f) = ofStateM x >>= fun a => ofStateM (f a) := rfl

theorem ofStateM_modify (f : Heap → Heap) : ofStateM (modify f) = modify f := rfl

theorem ofStateM_ite (c : Prop) [Decidable c] (x y : StateM Heap α) :
    ofStateM (if c then x else y) = if c then ofStateM x else ofStateM y := by
  split <;> rfl

end Revive

/-! ### The deserializer with a reviver -/

section Deserialize

-- `Value::from(usize)` (`value.rs`, not in this source): the key an array
-- element is revived under; nothing here depends on its value.
variable (indexKey : Nat → Value)

mutual

/-- `deserialize_json_inner`: an object is allocated before its members, an
    array after its elements, and each member and element, once
    deserialized, is passed to the reviver with its key. -/
def deserializeJsonInnerWith (reviver : Option (Value → Value → Revive Value)) :
    JsonValue → Revive Value
  | .null => pure .null
  | .string s => pure (.string s)
  | .bool b => pure (.bool b)
  | .number number =>
    let number := number.asF64
    pure <| if number.fract.beq (.finite 0) then .integer (f64ToWrappingI32 number)
      else .number number
  | .object jsObj => do
    let obj ← Revive.ofStateM (allocate (.plain []))
    reviveEntries reviver obj jsObj
    pure (.object obj)
  | .array jsArr => do
    let arr ← reviveElements reviver 0 jsArr
    let array ← Revive.ofStateM (allocate (.array arr))
    pure (.object array)

/-- The loop of `deserialize_json_inner` over an array's elements, from the
    index `key`. -/
def reviveElements (reviver : Option (Value → Value → Revive Value)) (key : Nat) :
    List JsonValue → Revive (List Value)
  | [] => pure []
  | val :: rest => do
    let val ← deserializeJsonInnerWith reviver val
    let mappedVal ← match reviver with
      | none => pure val
      | some reviver => reviver (indexKey key) val
    let vals ← reviveElements reviver (key + 1) rest
    pure (mappedVal :: vals)

/-- The loop of `deserialize_json_inner` over an object's members: a member
    the reviver maps to `undefined` is deleted, any other is set. -/
def reviveEntries (reviver : Option (Value → Value → Revive Value)) (obj : Object) :
    List (String × JsonValue) → Revive Unit
  | [] => pure ()
  | (key, val) :: rest => do
    let val ← deserializeJsonInnerWith reviver val
    let mappedVal ← match reviver with
      | none => pure val
      | some reviver => reviver (.string key) val
    if mappedVal = .undefined then modify (·.deleteProperty obj key)
    else modify (·.setProperty obj key mappedVal)
    reviveEntries reviver obj rest

end

/-- `deserialize_json`: the document, then the reviver on the whole of it
    under the key `""`. -/
def deserializeJsonWith (reviver : Option (Value → Value → Revive Value)) (json : JsonValue) :
    Revive Value := do
  let val ← deserializeJsonInnerWith indexKey reviver json
  match reviver with
  | none => pure val
  | some reviver => reviver (.string "") val

/-! ### No reviver, or one that returns its value -/

mutual

theorem deserializeJsonInnerWith_none : ∀ json : JsonValue,
    deserializeJsonInnerWith indexKey none json = Revive.ofStateM (deserializeJsonInner json)
  | .null | .string _ | .bool _ | .number _ => rfl
  | .object m => by
    simp only [deserializeJsonInnerWith, deserializeJsonInner, Revive.ofStateM_bind,
      Revive.ofStateM_pure, reviveEntries_none]
  | .array a => by
    simp only [deserializeJsonInnerWith, deserializeJsonInner, Revive.ofStateM_bind,
      Revive.ofStateM_pure, reviveElements_none]

theorem reviveElements_none : ∀ (key : Nat) (l : List JsonValue),
    reviveElements indexKey none key l = Revive.ofStateM (deserializeElements l)
  | _, [] => rfl
  | key, val :: rest => by
    simp only [reviveElements, deserializeElements, Revive.ofStateM_bind, Revive.ofStateM_pure,
      pure_bind, deserializeJsonInnerWith_none val, reviveElements_none (key + 1) rest]

theorem reviveEntries_none : ∀ (obj : Object) (l : List (String × JsonValue)),
    reviveEntries indexKey none obj l = Revive.ofStateM (deserializeEntries obj l)
  | _, [] => rfl
  | obj, (key, val) :: rest => by
    simp only [reviveEntries, deserializeEntries, Revive.ofStateM_bind, Revive.ofStateM_ite,
      Revive.ofStateM_modify, pure_bind, deserializeJsonInnerWith_none val,
      reviveEntries_none obj rest]

end

/-- With no reviver, `JSON.parse`'s deserializer is the reviver-free one: the
    same value and the same heap, and never a failure. -/
theorem deserializeJsonWith_none (json : JsonValue) :
    deserializeJsonWith indexKey none json = Revive.ofStateM (deserializeJson json) := by
  simp only [deserializeJsonWith, deserializeJsonInnerWith_none, bind_pure, deserializeJson]

section ReturnsValue

variable {reviver : Value → Value → Revive Value}

mutual

theorem deserializeJsonInnerWith_of_returns_value (hreviver : ∀ key val, reviver key val = pure val) :
    ∀ json : JsonValue,
      deserializeJsonInnerWith indexKey (some reviver) json =
        deserializeJsonInnerWith indexKey none json
  | .null | .string _ | .bool _ | .number _ => rfl
  | .object m => by
    simp only [deserializeJsonInnerWith, reviveEntries_of_returns_value hreviver]
  | .array a => by
    simp only [deserializeJsonInnerWith, reviveElements_of_returns_value hreviver]

theorem reviveElements_of_returns_value (hreviver : ∀ key val, reviver key val = pure val) :
    ∀ (key : Nat) (l : List JsonValue),
      reviveElements indexKey (some reviver) key l = reviveElements indexKey none key l
  | _, [] => rfl
  | key, val :: rest => by
    simp only [reviveElements, hreviver, deserializeJsonInnerWith_of_returns_value hreviver val,
      reviveElements_of_returns_value hreviver (key + 1) rest]

theorem reviveEntries_of_returns_value (hreviver : ∀ key val, reviver key val = pure val) :
    ∀ (obj : Object) (l : List (String × JsonValue)),
      reviveEntries indexKey (some reviver) obj l = reviveEntries indexKey none obj l
  | _, [] => rfl
  | obj, (key, val) :: rest => by
    simp only [reviveEntries, hreviver, deserializeJsonInnerWith_of_returns_value hreviver val,
      reviveEntries_of_returns_value hreviver obj rest]

end

/-- A reviver that hands back the value it is given and leaves the heap as it
    was makes `JSON.parse` deserialize as it does with no reviver. -/
theorem deserializeJsonWith_of_returns_value (hreviver : ∀ key val, reviver key val = pure val)
    (json : JsonValue) :
    deserializeJsonWith indexKey (some reviver) json = Revive.ofStateM (deserializeJson json) := by
  simp only [deserializeJsonWith, deserializeJsonInnerWith_of_returns_value indexKey hreviver,
    hreviver, bind_pure, deserializeJsonInnerWith_none, deserializeJson]

end ReturnsValue

end Deserialize

theorem deserializeJsonWith_of_returns_value_nested :
    (∀ key val, (fun (_ : Value) (v : Value) => (pure v : Revive Value)) key val = pure val) ∧
    deserializeJsonWith (fun _ => .undefined) (some fun _ v => pure v)
        (.object [("a", .array [.null, .bool true])]) =
      Revive.ofStateM (deserializeJson (.object [("a", .array [.null, .bool true])])) :=
  ⟨fun _ _ => rfl, deserializeJsonWith_of_returns_value _ (fun _ _ => rfl) _⟩

/-! ### The native -/

/-- What `JSON.parse` calls outside this file: `coerce_to_string`,
    `coerce_to_object`, `Object::call` of the reviver with no receiver,
    `serde_json::from_str`, and `Value::from(usize)`. -/
structure JsonParseRuntime where
  coerceToString : Value → Revive String
  coerceToObject : Value → Revive Object
  call : Object → Value → Value → Revive Value
  fromStr : String → Option JsonValue
  indexKey : Nat → Value

/-- The error of text serde_json does not accept. -/
def invalidJsonParseInput : Error := "SyntaxError: Error #1132: Invalid JSON parse input."

/-- `JSON.parse`: the text is the first argument as a string, the reviver the
    second as an object, if it is one. -/
def parse (rt : JsonParseRuntime) (args : List Value) : Revive Value := do
  let input ← rt.coerceToString (args.getD 0 .undefined)
  let reviver ← resultOk (rt.coerceToObject (args.getD 1 .undefined))
  match rt.fromStr input with
  | none => throw invalidJsonParseInput
  | some parsed => deserializeJsonWith rt.indexKey (reviver.map rt.call) parsed

/-- `JSON.parse` given only the text, where `undefined` is no object: the
    reviver-free deserializer on the document serde_json reads, or `#1132`
    for text it rejects. -/
theorem parse_without_reviver (rt : JsonParseRuntime) (text : Value)
    (hundefined : ∀ h, ∃ e, rt.coerceToObject .undefined h = .error e h) :
    parse rt [text] = (do
      let input ← rt.coerceToString text
      match rt.fromStr input with
      | none => throw invalidJsonParseInput
      | some parsed => Revive.ofStateM (deserializeJson parsed)) := by
  funext h
  simp only [parse, List.getD_cons_zero, List.getD_cons_succ, List.getD_nil, bind,
    EStateM.bind]
  cases rt.coerceToString text h with
  | error e h' => rfl
  | ok input h' =>
    obtain ⟨e, he⟩ := hundefined h'
    simp only [resultOk, he, Option.map_none']
    cases rt.fromStr input with
    | none => rfl
    | some parsed => exact congrFun (deserializeJsonWith_none rt.indexKey parsed) h'

/-- A runtime that reads every text as `[1]` and turns no value into an
    object. -/
def arrayOfOneRuntime : JsonParseRuntime where
  coerceToString _ := pure "[1]"
  coerceToObject _ := throw "TypeError"
  call _ _ val := pure val
  fromStr _ := some (.array [.number (.posInt 1)])
  indexKey _ := .undefined

theorem parse_without_reviver_arrayOfOne :
    (∀ h, ∃ e, arrayOfOneRuntime.coerceToObject .undefined h = .error e h) ∧
    parse arrayOfOneRuntime [.string "[1]"] = (do
      let input ← arrayOfOneRuntime.coerceToString (.string "[1]")
      match arrayOfOneRuntime.fromStr input with
      | none => throw invalidJsonParseInput
      | some parsed => Revive.ofStateM (deserializeJson parsed)) :=
  ⟨fun _ => ⟨_, rfl⟩, parse_without_reviver _ _ fun _ => ⟨_, rfl⟩⟩

end RuffleAvm
