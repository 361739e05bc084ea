/-
  RuffleAvm/Basic.lean
  ====================
  **Shared vocabulary of the model**: object identity, the error values the
  natives return, and the machine numbers the interpreters compute with.

  Objects are garbage-collected pointers compared with `Object::ptr_eq`, so an
  object is modelled by its pointer alone; what an object *holds* is modelled
  by each component that reads it (a dispatch list, a serializer heap, a
  dictionary).  `i32` is an integer carrying its range, so a value outside it
  cannot be built; `f64` keeps finite values exactly, as rationals — every
  operation the model applies to them (`fract`, `trunc`, comparison) is exact
  on doubles.
-/
import Mathlib.Data.Rat.Defs

namespace RuffleAvm

/-- A garbage-collected object reference, compared by pointer
    (`Object::ptr_eq`). -/
structure Object where
  ptr : Nat
deriving DecidableEq, Repr

/-- The error a native returns: `Error::from(&str)`, i.e. its message. -/
abbrev Error := String

@[simp] theorem except_error_bind {ε α β : Type} (e : ε) (f : α → Except ε β) :
    (Except.error e >>= f) = .error e := rfl

@[simp] theorem except_ok_bind {ε α β : Type} (a : α) (f : α → Except ε β) :
    (Except.ok a >>= f) = f a := rfl

/-- `Result::ok` of a step with effects: its error becomes `None`, and what it
    did to the world stays. -/
def resultOk {ε σ α : Type} (x : EStateM ε σ α) : EStateM ε σ (Option α) := fun s =>
  match x s with
  | .ok a s' => .ok (some a) s'
  | .error _ s' => .ok none s'

/-- A map keyed by strings kept as a list of entries, one per key: setting a
    present key replaces its value in place, a new key is added last.  Both
    maps the JSON natives fill are such maps (`JsonValue.insert`,
    `Heap.setProperty`). -/
def assocInsert {β : Type} (m : List (String × β)) (k : String) (v : β) : List (String × β) :=
  if m.any (·.1 == k) then m.map fun p => if p.1 = k then (k, v) else p else m ++ [(k, v)]

@[simp] theorem assocInsert_nil {β : Type} (k : String) (v : β) : assocInsert [] k v = [(k, v)] :=
  rfl

theorem lookup_map_replace {β : Type} (m : List (String × β)) (k n : String) (v : β) :
    (m.map fun p => if p.1 = k then (k, v) else p).lookup n =
      if n = k then (m.lookup k).map fun _ => v else m.lookup n := by
  induction m with
  | nil => split <;> rfl
  | cons p m ih =>
    obtain ⟨a, b⟩ := p
    by_cases ha : a = k
    · subst ha
      by_cases hn : n = a
      · simp [hn]
      · simp [List.lookup_cons, hn, beq_eq_false_iff_ne.mpr hn, ih]
    · by_cases hn : n = k
      · subst hn
        simp [List.lookup_cons, ha, beq_eq_false_iff_ne.mpr (Ne.symm ha), ih]
      · simp only [List.map_cons, ha, if_false, List.lookup_cons, ih, hn]

/-- Looking a key up after `assocInsert`: the new value at its key, the old
    entries elsewhere. -/
theorem lookup_assocInsert {β : Type} (m : List (String × β)) (k n : String) (v : β) :
    (assocInsert m k v).lookup n = if n = k then some v else m.lookup n := by
  unfold assocInsert
  split_ifs with hany hn hn
  · subst hn
    obtain ⟨p, hp, hpk⟩ := List.any_eq_true.mp hany
    have : (m.lookup n).isSome :=
      List.lookup_isSome_iff.mpr ⟨p, hp, beq_iff_eq.mpr (beq_iff_eq.mp hpk).symm⟩
    obtain ⟨b, hb⟩ := Option.isSome_iff_exists.mp this
    simp [lookup_map_replace, hb]
  · rw [lookup_map_replace, if_neg hn]
  · subst hn
    have : m.lookup n = none := List.lookup_eq_none_iff.mpr fun p hp =>
      bne_iff_ne.mpr fun h => hany (List.any_eq_true.mpr ⟨p, hp, beq_iff_eq.mpr h.symm⟩)
    simp [List.lookup_append, this]
  · simp [List.lookup_append, List.lookup_cons, beq_eq_false_iff_ne.mpr hn]

/-! ### `i32` -/

/-- A Rust `i32`. -/
structure I32 where
  val : Int
  min_le : -2147483648 ≤ val
  lt_max : val < 2147483648
deriving DecidableEq, Repr

namespace I32

theorem ext_val {a b : I32} (h : a.val = b.val) : a = b := by
  cases a; cases b; cases h; rfl

/-- The `i32` an integer wraps to (`as i32` on the low 32 bits). -/
def wrap (x : Int) : I32 :=
  ⟨x.bmod 4294967296,
    by have := Int.le_bmod (x := x) (m := 4294967296) (by decide); omega,
    by have := Int.bmod_lt (x := x) (m := 4294967296) (by decide); omega⟩

/-- Wrapping keeps exactly the integers in range. -/
theorem wrap_val_eq_iff (z : ℤ) : (wrap z).val = z ↔ -2147483648 ≤ z ∧ z < 2147483648 := by
  simp only [wrap, Int.bmod_def]
  split_ifs <;> omega

/-- `i32::MAX`. -/
def max : I32 := ⟨2147483647, by decide, by decide⟩

instance : OfNat I32 0 := ⟨⟨0, by decide, by decide⟩⟩

@[simp] theorem zero_val : (0 : I32).val = 0 := rfl

end I32

/-! ### `f64` -/

/-- A Rust `f64`.  Finite values are kept exactly, as rationals; the sign of a
    zero is not tracked. -/
inductive F64 where
  | finite (q : ℚ)
  | posInf
  | negInf
  | nan
deriving DecidableEq, Repr

namespace F64

/-- `f64::fract`: `self - self.trunc()`, with `trunc` rounding toward zero;
    NaN at an infinity. -/
def fract : F64 → F64
  | finite q => finite (q - q.num.tdiv q.den)
  | _ => nan

/-- `==` on `f64`: NaN equals nothing. -/
def beq : F64 → F64 → Bool
  | finite a, finite b => a == b
  | posInf, posInf => true
  | negInf, negInf => true
  | _, _ => false

end F64

/-- Modelled from the spec: `ecma_conversions::f64_to_wrapping_i32`
    (not in this source), ECMAScript's `ToInt32` — an infinity or NaN is
    `0`; otherwise the value is truncated and wrapped modulo `2^32`. -/
def f64ToWrappingI32 : F64 → I32
  | .finite q => I32.wrap (q.num.tdiv q.den)
  | _ => 0

end RuffleAvm
