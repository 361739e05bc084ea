/-
  RuffleAvm/Json/Value.lean
  =========================
  **The JSON documents the natives exchange with serde_json**: `JsonValue`,
  its numbers, its object map, and the conversions between them and AVM2
  numbers that `json.rs` calls (`JsonValue::from`, `Number::as_f64`).

  serde_json is not in this source: each of its pieces here is modelled from
  its documented behaviour, and says so.  A number is an unsigned or a
  negative 64-bit integer, or a finite double; converting an integer to a
  double rounds it to 53 significant bits, ties to even.
-/
import Mathlib.Algebra.Group.Nat.Basic
import RuffleAvm.Basic

namespace RuffleAvm

/-- Modelled from the spec: serde_json's `Number` — a `u64`, a negative `i64`,
    or a finite `f64`. -/
inductive JsonNumber where
  | posInt (u : UInt64)
  | negInt (i : Int) (neg : i < 0) (ge_min : -9223372036854775808 ≤ i)
  | float (f : ℚ)
deriving DecidableEq, Repr

/-- Modelled from the spec: serde_json's `Value`.  An object is its `Map`,
    one entry per key. -/
inductive JsonValue where
  | null
  | bool (b : Bool)
  | number (n : JsonNumber)
  | string (s : String)
  | array (a : List JsonValue)
  | object (m : List (String × JsonValue))
deriving Repr

namespace JsonValue

/-- Modelled from the spec: `Map::insert` — replaces the value of a present
    key in place, and adds a new key at the end.  (serde_json may keep its
    keys sorted instead; no result here reads the order of keys.) -/
def insert (m : List (String × JsonValue)) (k : String) (v : JsonValue) :
    List (String × JsonValue) :=
  assocInsert m k v

/-- Modelled from the spec: `JsonValue::from(i32)` — a negative value is a
    `NegInt`, any other a `PosInt`. -/
def ofI32 (i : I32) : JsonValue :=
  .number <| if h : i.val < 0 then .negInt i.val h (by have := i.min_le; omega)
    else .posInt i.val.toNat.toUInt64

/-- Modelled from the spec: `JsonValue::from(u32)`. -/
def ofU32 (u : UInt32) : JsonValue := .number (.posInt u.toUInt64)

/-- Modelled from the spec: `JsonValue::from(f64)` — `Number::from_f64`, and
    `null` for an infinity or NaN. -/
def ofF64 : F64 → JsonValue
  | .finite q => .number (.float q)
  | _ => .null

end JsonValue

/-- Modelled from the spec: `n as f64` for an integer `n < 2^64` — `n` rounded
    to 53 significant bits, ties to even. -/
def roundToF64 (n : Nat) : Nat :=
  if n < 2 ^ 53 then n
  else
    let s := Nat.log2 n - 52
    let q := n / 2 ^ s
    let r := n % 2 ^ s
    (if 2 * r > 2 ^ s ∨ (2 * r = 2 ^ s ∧ q % 2 = 1) then q + 1 else q) * 2 ^ s

/-- Modelled from the spec: `Number::as_f64`, which is never `None`. -/
def JsonNumber.asF64 : JsonNumber → F64
  | .posInt u => .finite (roundToF64 u.toNat)
  | .negInt i _ _ => .finite (-(roundToF64 i.natAbs : ℤ))
  | .float f => .finite f

end RuffleAvm
