/-
  RuffleAvm/Dictionary.lean
  =========================
  **Enumerating a `flash.utils.Dictionary`** (`avm2/object/dictionary_object.rs`):
  `get_next_enumerant` and `get_enumerant_name`, which join the base object's
  enumerable dynamic names to the keys of the dictionary's object space.

  The base enumerates its `E` names at the 1-based indices `1..=E`; the object
  space is meant to follow at `E + 1, …, E + K`.  The code lets the base answer
  only below `E` and reads object-space key `index - E`, one place too far:
  index `i ≥ E` reads the joined sequence at the 0-based position `i` where
  the 1-based index `i` stands for position `i - 1` (`getEnumerantName_eq`).
  So the protocol that advances from index 0 (`enumerate_eq`) and the loop of
  `JSON.stringify` that stops at the first `Undefined`
  (`serializeObjectNames_eq`) both skip the entry at the seam — the last base
  name, or the first key when there is no base name — and the protocol ends on
  an `Undefined` name.  A dictionary holding one key and no dynamic name
  enumerates nothing but `Undefined` (`singleKeyDictionary_enumerates_undefined`).

  Indices are `u32`; the model takes them as naturals, which is exact while
  `E + K` fits in a `u32`: `saturating_sub` is then truncated subtraction and
  `saturating_add(1)` never saturates.
-/
import RuffleAvm.Value

namespace RuffleAvm

/-! ### The dictionary -/

/-- Modelled from the spec: the base `ScriptObjectData` (`script_object.rs`,
    not in this source), as enumeration reads it — its enumerable dynamic
    names, in enumeration order. -/
structure ScriptObjectData where
  enumerants : List String
deriving DecidableEq, Repr

namespace ScriptObjectData

/-- Modelled from the spec: `get_last_enumerant`, the last index `E`. -/
def getLastEnumerant (base : ScriptObjectData) : Nat := base.enumerants.length

/-- Modelled from the spec: `get_enumerant_name` — the name at a 1-based
    index, `None` at index 0 and past `E`. -/
def getEnumerantName (base : ScriptObjectData) (index : Nat) : Option Value :=
  if index = 0 then none else base.enumerants[index - 1]?.map .string

end ScriptObjectData

/-- `DictionaryObjectData`: the base object, and the keys of the object space
    in the order the map iterates them — each key once.  The values the keys
    map to are not read by enumeration. -/
structure DictionaryObjectData where
  base : ScriptObjectData
  objectSpace : List Object
  nodup : objectSpace.Nodup

namespace DictionaryObjectData

variable (d : DictionaryObjectData)

/-- `get_next_enumerant`. -/
def getNextEnumerant (lastIndex : Nat) : Option Nat :=
  let lastEnumerant := d.base.getLastEnumerant
  let objectSpaceLength := d.objectSpace.length
  if lastIndex < lastEnumerant + objectSpaceLength then some (lastIndex + 1) else none

/-- `get_enumerant_name`. -/
def getEnumerantName (index : Nat) : Value :=
  let lastEnumerant := d.base.getLastEnumerant
  if index < lastEnumerant then (d.base.getEnumerantName index).getD .undefined
  else
    let objectSpaceIndex := index - lastEnumerant
    (d.objectSpace[objectSpaceIndex]?.map .object).getD .undefined

/-- The names the dictionary is meant to enumerate, at the 1-based indices
    `1..=E+K`: the base names, then the keys. -/
def names : List Value := d.base.enumerants.map .string ++ d.objectSpace.map .object

@[simp] theorem length_names :
    d.names.length = d.base.getLastEnumerant + d.objectSpace.length := by
  simp [names, ScriptObjectData.getLastEnumerant]

theorem getNextEnumerant_eq_some {lastIndex index : Nat} :
    d.getNextEnumerant lastIndex = some index ↔
      lastIndex < d.base.getLastEnumerant + d.objectSpace.length ∧ index = lastIndex + 1 := by
  simp only [getNextEnumerant]
  split_ifs with h <;> simp [h, eq_comm]

/-- Index `i` below `E` reads base name `i` (none at 0); from `E` on, index `i`
    reads position `i` of `names`, not position `i - 1`. -/
theorem getEnumerantName_eq (index : Nat) :
    d.getEnumerantName index =
      if index < d.base.getLastEnumerant then
        (if index = 0 then none else d.names[index - 1]?).getD .undefined
      else (d.names[index]?).getD .undefined := by
  have hE : (d.base.enumerants.map Value.string).length = d.base.getLastEnumerant :=
    List.length_map _ _
  simp only [getEnumerantName, names, ScriptObjectData.getEnumerantName]
  split_ifs with hlt h0
  · rfl
  · rw [List.getElem?_append_left (by omega), List.getElem?_map]
  · rw [List.getElem?_append_right (by omega), List.getElem?_map, hE]

theorem getEnumerantName_of_le {index : Nat}
    (h : d.base.getLastEnumerant + d.objectSpace.length ≤ index) :
    d.getEnumerantName index = .undefined := by
  rw [getEnumerantName_eq, if_neg (by omega), List.getElem?_eq_none (by simpa using h)]
  rfl

end DictionaryObjectData

/-! ### The two loops -/

namespace DictionaryObjectData

/-- Modelled from the spec: the AVM2 enumeration protocol (`hasnext2` and
    `nextname`, in the interpreter, not in this source) — from `lastIndex`,
    advance with `get_next_enumerant` until it returns `None`, reading every
    visited index with `get_enumerant_name`. -/
def enumerateFrom (d : DictionaryObjectData) (lastIndex : Nat) : List Value :=
  match _h : d.getNextEnumerant lastIndex with
  | some index => d.getEnumerantName index :: d.enumerateFrom index
  | none => []
termination_by d.base.getLastEnumerant + d.objectSpace.length - lastIndex
decreasing_by have := d.getNextEnumerant_eq_some.mp _h; omega

/-- The protocol from index 0. -/
def enumerate (d : DictionaryObjectData) : List Value := d.enumerateFrom 0

/-- The enumerant loop of `AvmSerializer::serialize_object` (`json.rs`) on a
    dictionary: `for i in 1..`, up to the first `Undefined` name. -/
def serializeObjectNames (d : DictionaryObjectData) (i : Nat) : List Value :=
  if h : d.getEnumerantName i = .undefined then []
  else d.getEnumerantName i :: d.serializeObjectNames (i + 1)
termination_by d.base.getLastEnumerant + d.objectSpace.length - i
decreasing_by
  have : i < d.base.getLastEnumerant + d.objectSpace.length :=
    Nat.lt_of_not_le fun hle => h (d.getEnumerantName_of_le hle)
  omega

variable (d : DictionaryObjectData)

theorem enumerateFrom_of_some {lastIndex index : Nat}
    (h : d.getNextEnumerant lastIndex = some index) :
    d.enumerateFrom lastIndex = d.getEnumerantName index :: d.enumerateFrom index := by
  rw [enumerateFrom]
  split <;> simp_all

theorem enumerateFrom_of_none {lastIndex : Nat} (h : d.getNextEnumerant lastIndex = none) :
    d.enumerateFrom lastIndex = [] := by
  rw [enumerateFrom]
  split <;> simp_all

/-- The protocol visits exactly the indices after `lastIndex` up to `E + K`. -/
theorem enumerateFrom_eq (lastIndex : Nat) :
    d.enumerateFrom lastIndex =
      (List.range' (lastIndex + 1)
        (d.base.getLastEnumerant + d.objectSpace.length - lastIndex)).map d.getEnumerantName := by
  induction lastIndex using enumerateFrom.induct d with
  | case1 lastIndex index h ih =>
    obtain ⟨hlt, rfl⟩ := d.getNextEnumerant_eq_some.mp h
    rw [d.enumerateFrom_of_some h, ih,
      show d.base.getLastEnumerant + d.objectSpace.length - lastIndex =
        (d.base.getLastEnumerant + d.objectSpace.length - (lastIndex + 1)) + 1 by omega,
      List.range'_succ]
    rfl
  | case2 lastIndex h =>
    have : ¬lastIndex < d.base.getLastEnumerant + d.objectSpace.length := fun hlt =>
      Option.noConfusion (h.symm.trans (if_pos hlt))
    rw [d.enumerateFrom_of_none h,
      show d.base.getLastEnumerant + d.objectSpace.length - lastIndex = 0 by omega]
    rfl

/-- The name at index `j + 1` is entry `j` of `names` with the entry at the
    seam, position `E - 1`, taken out. -/
theorem getEnumerantName_succ (j : Nat) :
    d.getEnumerantName (j + 1) =
      ((d.names.eraseIdx (d.base.getLastEnumerant - 1))[j]?).getD .undefined := by
  rw [getEnumerantName_eq, List.getElem?_eraseIdx, if_neg (Nat.succ_ne_zero j),
    Nat.add_sub_cancel]
  by_cases h : j + 1 < d.base.getLastEnumerant
  · rw [if_pos h, if_pos (by omega)]
  · rw [if_neg h, if_neg (by omega)]

theorem names_ne_undefined {v : Value} (hv : v ∈ d.names) : v ≠ .undefined := by
  simp only [names, List.mem_append, List.mem_map] at hv
  rcases hv with ⟨_, _, rfl⟩ | ⟨_, _, rfl⟩ <;> nofun

theorem length_names_eraseIdx :
    (d.names.eraseIdx (d.base.getLastEnumerant - 1)).length =
      d.base.getLastEnumerant + d.objectSpace.length - 1 := by
  rw [List.length_eraseIdx, length_names]
  split_ifs with h <;> omega

/-- The protocol yields `names` without the entry at the seam, then an
    `Undefined` name. -/
theorem enumerate_eq :
    d.enumerate = d.names.eraseIdx (d.base.getLastEnumerant - 1) ++
      if d.base.getLastEnumerant + d.objectSpace.length = 0 then [] else [.undefined] := by
  have hlen := d.length_names_eraseIdx
  rw [enumerate, enumerateFrom_eq, Nat.sub_zero]
  apply List.ext_getElem?
  intro j
  rw [List.getElem?_map, List.getElem?_append, hlen]
  by_cases hj : j < d.base.getLastEnumerant + d.objectSpace.length
  · rw [List.getElem?_range' _ _ hj, Option.map_some', Nat.one_mul, Nat.add_comm,
      getEnumerantName_succ]
    split_ifs with h1 h0
    · rw [List.getElem?_eq_getElem (by omega)]; rfl
    · omega
    · rw [List.getElem?_eq_none (by omega), show j - _ = 0 by omega]; rfl
  · rw [List.getElem?_eq_none (by simpa using hj), if_neg (by omega)]
    split_ifs
    · rfl
    · exact (List.getElem?_eq_none (by simp only [List.length_singleton]; omega)).symm

theorem serializeObjectNames_of_undefined {i : Nat} (h : d.getEnumerantName i = .undefined) :
    d.serializeObjectNames i = [] := by
  rw [serializeObjectNames, dif_pos h]

theorem serializeObjectNames_of_ne {i : Nat} (h : d.getEnumerantName i ≠ .undefined) :
    d.serializeObjectNames i = d.getEnumerantName i :: d.serializeObjectNames (i + 1) := by
  rw [serializeObjectNames, dif_neg h]

/-- From index `i ≥ 1`, the loop of `JSON.stringify` yields what is left of
    `names`, without the entry at the seam, from position `i - 1` on. -/
theorem serializeObjectNames_of_pos (i : Nat) (hi : 0 < i) :
    d.serializeObjectNames i = (d.names.eraseIdx (d.base.getLastEnumerant - 1)).drop (i - 1) := by
  induction i using serializeObjectNames.induct d with
  | case1 i hu =>
    obtain ⟨j, rfl⟩ : ∃ j, i = j + 1 := ⟨i - 1, by omega⟩
    rw [d.serializeObjectNames_of_undefined hu, Nat.add_sub_cancel, List.drop_eq_nil_of_le]
    rw [getEnumerantName_succ] at hu
    cases hj : (d.names.eraseIdx (d.base.getLastEnumerant - 1))[j]? with
    | none => exact List.getElem?_eq_none_iff.mp hj
    | some v =>
      rw [hj] at hu
      exact absurd hu (d.names_ne_undefined (List.mem_of_mem_eraseIdx (List.getElem?_mem hj)))
  | case2 i hu ih =>
    obtain ⟨j, rfl⟩ : ∃ j, i = j + 1 := ⟨i - 1, by omega⟩
    rw [d.serializeObjectNames_of_ne hu, ih (Nat.succ_pos _), Nat.add_sub_cancel,
      Nat.add_sub_cancel]
    rw [getEnumerantName_succ] at hu ⊢
    cases hj : (d.names.eraseIdx (d.base.getLastEnumerant - 1))[j]? with
    | none => rw [hj] at hu; exact absurd rfl hu
    | some v =>
      obtain ⟨hlt, rfl⟩ := List.getElem?_eq_some_iff.mp hj
      exact List.getElem_cons_drop _ _ hlt

/-- The loop of `JSON.stringify` yields `names` without the entry at the seam:
    the protocol's names but its last. -/
theorem serializeObjectNames_eq :
    d.serializeObjectNames 1 = d.names.eraseIdx (d.base.getLastEnumerant - 1) :=
  d.serializeObjectNames_of_pos 1 Nat.one_pos

end DictionaryObjectData

/-- A dictionary holding one key and no dynamic name. -/
def singleKeyDictionary : DictionaryObjectData := ⟨⟨[]⟩, [⟨0⟩], List.nodup_singleton _⟩

theorem singleKeyDictionary_enumerates_undefined :
    singleKeyDictionary.names = [.object ⟨0⟩] ∧
      singleKeyDictionary.getEnumerantName 0 = .object ⟨0⟩ ∧
      singleKeyDictionary.getEnumerantName 1 = .undefined ∧
      singleKeyDictionary.enumerate = [.undefined] ∧
      singleKeyDictionary.serializeObjectNames 1 = [] := by
  refine ⟨rfl, rfl, rfl, ?_, ?_⟩
  · rw [DictionaryObjectData.enumerate_eq]; rfl
  · rw [DictionaryObjectData.serializeObjectNames_eq]; rfl

end RuffleAvm
