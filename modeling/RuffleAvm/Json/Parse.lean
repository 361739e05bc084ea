/-
  RuffleAvm/Json/Parse.lean
  =========================
  **`JSON.parse`'s deserializer** (`avm2/globals/json.rs`):
  `deserialize_json_inner` and `deserialize_json` without a reviver, on the
  document serde_json has parsed.  Objects and arrays are allocated on the
  heap as the code allocates them: an object before its members, an array
  after its elements.

  A number becomes an `Integer` whenever its double has no fractional part —
  through `f64_to_wrapping_i32`, which wraps it modulo `2^32` — and a `Number`
  otherwise.  `deserializeNumber_numeric_iff` says exactly when the value
  keeps the number: when it is not integral, or lies in the `i32` range.  An
  integral number outside that range, such as `3000000000`, comes back as a
  different one (`parse_integral_number_wraps`), also after a round trip
  through `JSON.stringify` (`stringify_parse_unsigned_wraps`).
-/
import RuffleAvm.Json.Serialize

namespace RuffleAvm

/-! ### The deserializer -/

/-- Allocate an object holding `d` (`construct`, `ArrayObject::from_storage`). -/
def allocate (d : ObjectData) : StateM Heap Object :=
  modifyGet fun h => ((h.alloc d).2, (h.alloc d).1)

mutual

/-- `deserialize_json_inner` with no reviver: a mapped value is the value
    itself. -/
def deserializeJsonInner : JsonValue → StateM Heap Value
  | .null => pure .null
  | .string s => pure (.string s)
  | .bool b => pure (.bool b)
  | .number number =>
    let number := number.asF64
    pure <| if number.fract.beq (.finite 0) then .integer (f64ToWrappingI32 number)
      else .number number
  | .object jsObj => do
    let obj ← allocate (.plain [])
    deserializeEntries obj jsObj
    pure (.object obj)
  | .array jsArr => do
    let arr ← deserializeElements jsArr
    let array ← allocate (.array arr)
    pure (.object array)

/-- The loop of `deserialize_json_inner` over an array's elements. -/
def deserializeElements : List JsonValue → StateM Heap (List Value)
  | [] => pure []
  | val :: rest => do
    let val ← deserializeJsonInner val
    let vals ← deserializeElements rest
    pure (val :: vals)

/-- The loop of `deserialize_json_inner` over an object's members, setting
    each on `obj` — or deleting it, for a value that is `undefined`. -/
def deserializeEntries (obj : Object) : List (String × JsonValue) → StateM Heap Unit
  | [] => pure ()
  | (key, val) :: rest => do
    let val ← deserializeJsonInner val
    if val = .undefined then modify (·.deleteProperty obj key)
    else modify (·.setProperty obj key val)
    deserializeEntries obj rest

end

/-- `deserialize_json` with no reviver. -/
def deserializeJson (json : JsonValue) : StateM Heap Value := deserializeJsonInner json

/-! ### Numbers -/

/-- The number a value holds, if it holds one. -/
def Value.numeric? : Value → Option F64
  | .integer i => some (.finite i.val)
  | .unsigned u => some (.finite u.toNat)
  | .number x => some x
  | _ => none

theorem JsonNumber.asF64_finite (n : JsonNumber) : ∃ q, n.asF64 = .finite q := by
  cases n <;> exact ⟨_, rfl⟩

/-- `fract() == 0.0` holds of a finite double exactly when it is an integer. -/
theorem F64.fract_beq_zero_iff (q : ℚ) :
    (F64.finite q).fract.beq (.finite 0) = true ↔ ∃ z : ℤ, q = z := by
  constructor
  · intro h
    simp only [F64.fract, F64.beq, beq_iff_eq, sub_eq_zero] at h
    exact ⟨_, h⟩
  · rintro ⟨z, rfl⟩
    simp [F64.fract, F64.beq, Rat.num_intCast, Rat.den_intCast]

theorem deserializeJsonInner_integral {n : JsonNumber} {z : ℤ} (hz : n.asF64 = .finite z)
    (h : Heap) : (deserializeJsonInner (.number n)).run h = (.integer (I32.wrap z), h) := by
  simp only [deserializeJsonInner, hz, (F64.fract_beq_zero_iff _).mpr ⟨z, rfl⟩, if_true,
    f64ToWrappingI32, Rat.num_intCast, Rat.den_intCast]
  rw [show ((1 : ℕ) : ℤ) = 1 from rfl, Int.tdiv_one]
  rfl

theorem deserializeJsonInner_fractional {n : JsonNumber} {q : ℚ} (hq : n.asF64 = .finite q)
    (hfrac : ∀ z : ℤ, q ≠ z) (h : Heap) :
    (deserializeJsonInner (.number n)).run h = (.number (.finite q), h) := by
  have : (F64.finite q).fract.beq (.finite 0) = false := Bool.eq_false_iff.mpr fun ht =>
    let ⟨z, hz⟩ := (F64.fract_beq_zero_iff q).mp ht
    hfrac z hz
  simp only [deserializeJsonInner, hq, this]
  rfl

/-- A number keeps its value through the deserializer exactly when it is not
    an integer outside the `i32` range. -/
theorem deserializeNumber_numeric_iff (n : JsonNumber) (h : Heap) :
    ((deserializeJsonInner (.number n)).run h).1.numeric? = some n.asF64 ↔
      ∀ z : ℤ, n.asF64 = .finite z → -2147483648 ≤ z ∧ z < 2147483648 := by
  obtain ⟨q, hq⟩ := n.asF64_finite
  by_cases hint : ∃ z : ℤ, q = z
  · obtain ⟨z, rfl⟩ := hint
    rw [deserializeJsonInner_integral hq, hq]
    simp [Value.numeric?, I32.wrap_val_eq_iff]
  · push_neg at hint
    rw [deserializeJsonInner_fractional hq hint, hq]
    simp only [Value.numeric?, F64.finite.injEq, true_iff]
    exact fun z hz => absurd hz (hint z)

/-! ### An integer outside the `i32` range -/

theorem parse_integral_number_wraps (h : Heap) :
    (deserializeJson (.number (.posInt 3000000000))).run h =
        (.integer ⟨-1294967296, by decide, by decide⟩, h) ∧
      ((deserializeJson (.number (.posInt 3000000000))).run h).1.numeric? ≠
        some (.finite 3000000000) := by
  have hz : (JsonNumber.posInt 3000000000).asF64 = .finite ((3000000000 : ℤ) : ℚ) := rfl
  have hw : I32.wrap 3000000000 = ⟨-1294967296, by decide, by decide⟩ := I32.ext_val (by decide)
  refine ⟨by rw [deserializeJson, deserializeJsonInner_integral hz, hw], ?_⟩
  rw [deserializeJson, deserializeJsonInner_integral hz, hw]
  simp only [Value.numeric?, ne_eq, Option.some.injEq, F64.finite.injEq]
  decide

theorem stringify_parse_unsigned_wraps (h h' : Heap) :
    ((serializeValue h 1 (.unsigned 3000000000)).run []).run =
        some (.ok (.number (.posInt 3000000000), [])) ∧
      (deserializeJson (.number (.posInt 3000000000))).run h' =
        (.integer ⟨-1294967296, by decide, by decide⟩, h') := by
  have hz : (JsonNumber.posInt 3000000000).asF64 = .finite ((3000000000 : ℤ) : ℚ) := rfl
  refine ⟨rfl, ?_⟩
  rw [deserializeJson, deserializeJsonInner_integral hz]
  exact congrArg (·, h') (congrArg Value.integer (I32.ext_val (by decide)))

end RuffleAvm
