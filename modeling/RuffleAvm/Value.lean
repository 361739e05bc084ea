/-
  RuffleAvm/Value.lean
  ====================
  **AVM2 values and the objects they refer to**, as the natives of
  `avm2/globals/json.rs`, `vector.rs` and `object/dictionary_object.rs` read
  them.

  `Value` has the eight variants `AvmSerializer::serialize_value` matches on
  exhaustively.  Strings are Lean strings — sequences of Unicode scalar
  values — so `to_utf8_lossy` and `AvmString::new_utf8` are the identity on
  them; an unpaired surrogate is not modelled.

  An object is what the serializer tells apart: a boxed primitive
  (`as_primitive`), an array (`is_of_type(array)`, read through `ArrayIter`),
  or a plain object read through its enumerable dynamic properties.  The heap
  maps every object to its data; it is finite in the sense that only the
  objects below `next` were allocated, and every other one reads as an empty
  plain object, with nothing to visit.
-/
import RuffleAvm.Basic
import Mathlib.Data.Finset.Card

namespace RuffleAvm

/-! ### Values -/

/-- `Value`. -/
inductive Value where
  | undefined
  | null
  | bool (b : Bool)
  | number (n : F64)
  | unsigned (u : UInt32)
  | integer (i : I32)
  | string (s : String)
  | object (o : Object)
deriving DecidableEq, Repr

namespace Value

/-- `Value::is_primitive`: every value but an object. -/
def isPrimitive : Value → Bool
  | .object _ => false
  | _ => true

/-- The object a value refers to, if it is one. -/
def asObject? : Value → Option Object
  | .object o => some o
  | _ => none

@[simp] theorem asObject?_object (o : Object) : (Value.object o).asObject? = some o := rfl

theorem asObject?_eq_some {v : Value} {o : Object} : v.asObject? = some o ↔ v = .object o := by
  cases v <;> simp [asObject?]

end Value

/-- A primitive value, as a boxed primitive object holds it. -/
structure Primitive where
  val : Value
  isPrimitive : val.isPrimitive = true
deriving DecidableEq, Repr

/-! ### Objects and the heap -/

/-- What an object holds, as the natives read it. -/
inductive ObjectData where
  /-- A boxed primitive: `as_primitive` returns it. -/
  | boxed (prim : Primitive)
  /-- An `Array`, with its elements in index order. -/
  | array (elements : List Value)
  /-- A plain object: its enumerable dynamic properties in enumeration order,
      each with the value `get_property` returns for it. -/
  | plain (props : List (String × Value))
deriving DecidableEq, Repr

namespace ObjectData

/-- The values the data refers to: an array's elements, a plain object's
    property values; a boxed primitive refers to nothing. -/
def values : ObjectData → List Value
  | .boxed _ => []
  | .array elements => elements
  | .plain props => props.map (·.2)

/-- The objects the data refers to. -/
def children (d : ObjectData) : List Object := d.values.filterMap Value.asObject?

theorem mem_children {d : ObjectData} {o : Object} : o ∈ d.children ↔ .object o ∈ d.values := by
  simp [children, Value.asObject?_eq_some]

/-- A boxed primitive: `as_primitive` returns `Some`. -/
def isBoxed : ObjectData → Bool
  | .boxed _ => true
  | _ => false

end ObjectData

/-- The heap: every object's data.  Objects from `next` on were never
    allocated, and read as empty plain objects. -/
structure Heap where
  data : Object → ObjectData
  next : Nat
  unallocated : ∀ o : Object, next ≤ o.ptr → data o = .plain []

namespace Heap

/-- The empty heap. -/
def empty : Heap := ⟨fun _ => .plain [], 0, fun _ _ => rfl⟩

/-- The objects allocated so far. -/
def allocated (h : Heap) : Finset Object := (Finset.range h.next).image Object.mk

theorem data_of_not_mem_allocated (h : Heap) {o : Object} (ho : o ∉ h.allocated) :
    h.data o = .plain [] :=
  h.unallocated o <| Nat.le_of_not_lt fun hlt =>
    ho (Finset.mem_image.mpr ⟨o.ptr, Finset.mem_range.mpr hlt, rfl⟩)

theorem card_allocated_le (h : Heap) : h.allocated.card ≤ h.next :=
  Finset.card_image_le.trans (Finset.card_range _).le

/-- Allocate a fresh object holding `d`. -/
def alloc (h : Heap) (d : ObjectData) : Heap × Object :=
  (⟨fun o => if o.ptr = h.next then d else h.data o, h.next + 1,
    fun o ho => by
      simp only [if_neg (show o.ptr ≠ h.next by omega)]; exact h.unallocated o (by omega)⟩,
    ⟨h.next⟩)

/-- Replace the data of an allocated object. -/
def set (h : Heap) (o : Object) (d : ObjectData) : Heap :=
  if ho : o.ptr < h.next then
    ⟨fun o' => if o' = o then d else h.data o', h.next,
      fun o' h' => by
        simp only [if_neg (show o' ≠ o by rintro rfl; omega)]; exact h.unallocated o' h'⟩
  else h

/-- Modelled from the spec: `set_property` of a dynamic property on a plain
    object (`ScriptObject`, not in this source) — `assocInsert` on its
    properties. -/
def setProperty (h : Heap) (o : Object) (k : String) (v : Value) : Heap :=
  match h.data o with
  | .plain props => h.set o (.plain (assocInsert props k v))
  | _ => h

/-- Modelled from the spec: `delete_property` of a dynamic property on a plain
    object — the property is removed. -/
def deleteProperty (h : Heap) (o : Object) (k : String) : Heap :=
  match h.data o with
  | .plain props => h.set o (.plain (props.filter (·.1 != k)))
  | _ => h

/-- An edge of the object graph: `o` refers to `o'`. -/
def Edge (h : Heap) (o o' : Object) : Prop := o' ∈ (h.data o).children

end Heap

end RuffleAvm
