/-
  RuffleAvm/DispatchList.lean
  ===========================
  **The AVM2 dispatch list** (`avm2/events.rs`, `DispatchList`): for every
  event type, a `BTreeMap` from priority to the vector of handlers registered
  at that priority, in the order they were added.

  The outer `FnvHashMap` is only ever read or updated at one key and never
  iterated, so it is a function from event names (`none` for an absent entry).
  The `BTreeMap` is its list of entries in key order, and that order is a
  field of the type: every map this file builds is sorted, and
  `iter_event_handlers` can read the priorities off it in reverse.

  Each operation is followed by its *bucket lemma*: what it does to the vector
  stored at one event type and priority.  The refinement against the flat
  registration log (`DispatchLog.lean`) is assembled from those alone.
  The query `has_event_listener` agrees with what dispatch would yield
  (`hasEventListener_iff_iterEventHandlers`), on every table.
-/
import RuffleAvm.Basic

namespace RuffleAvm

/-! ### `BTreeMap<i32, V>` -/

/-- A `BTreeMap` keyed by `i32`: its entries in increasing key order. -/
structure BTreeMap (V : Type) where
  entries : List (I32 × V)
  sorted : (entries.map (·.1.val)).Pairwise (· < ·)

namespace BTreeMap

variable {V : Type}

def empty : BTreeMap V := ⟨[], .nil⟩

/-- The keys of the map, in increasing order. -/
def keys (m : BTreeMap V) : List I32 := m.entries.map (·.1)

/-- `BTreeMap::get`. -/
def get? (m : BTreeMap V) (k : I32) : Option V := m.entries.lookup k

/-- The entry list behind `entry(k).or_insert_with(|| d)` followed by an
    in-place update `f` of the value it returns. -/
def alterAux (k : I32) (d : V) (f : V → V) : List (I32 × V) → List (I32 × V)
  | [] => [(k, f d)]
  | (k', v) :: es =>
    if k.val < k'.val then (k, f d) :: (k', v) :: es
    else if k.val = k'.val then (k', f v) :: es
    else (k', v) :: alterAux k d f es

theorem mem_keys_alterAux {k : I32} {d : V} {f : V → V} {x : Int} :
    ∀ {es : List (I32 × V)}, x ∈ (alterAux k d f es).map (·.1.val) →
      x = k.val ∨ x ∈ es.map (·.1.val)
  | [], hx => .inl (List.mem_singleton.mp hx)
  | (k', v) :: es, hx => by
    unfold alterAux at hx
    by_cases hlt : k.val < k'.val
    · rwa [if_pos hlt, List.map_cons, List.mem_cons] at hx
    by_cases heq : k.val = k'.val
    · rw [if_neg hlt, if_pos heq] at hx; exact .inr hx
    rw [if_neg hlt, if_neg heq, List.map_cons, List.mem_cons] at hx
    rcases hx with rfl | hx
    · exact .inr (List.mem_cons_self _ _)
    · exact (mem_keys_alterAux hx).imp_right (List.mem_cons_of_mem _)

theorem sorted_alterAux (k : I32) (d : V) (f : V → V) :
    ∀ {es : List (I32 × V)}, (es.map (·.1.val)).Pairwise (· < ·) →
      ((alterAux k d f es).map (·.1.val)).Pairwise (· < ·)
  | [], _ => by simp [alterAux]
  | (k', v) :: es, h => by
    simp only [List.map_cons, List.pairwise_cons, List.mem_map] at h
    unfold alterAux
    by_cases hlt : k.val < k'.val
    · rw [if_pos hlt]
      simp only [List.map_cons, List.pairwise_cons, List.mem_cons, List.mem_map]
      refine ⟨?_, h.1, h.2⟩
      rintro _ (rfl | ⟨e, he, rfl⟩)
      · exact hlt
      · have := h.1 _ ⟨e, he, rfl⟩; omega
    by_cases heq : k.val = k'.val
    · rw [if_neg hlt, if_pos heq]
      simpa only [List.map_cons, List.pairwise_cons, List.mem_map] using h
    rw [if_neg hlt, if_neg heq]
    simp only [List.map_cons, List.pairwise_cons]
    refine ⟨fun x hx => ?_, sorted_alterAux k d f h.2⟩
    rcases mem_keys_alterAux hx with rfl | hx
    · omega
    · obtain ⟨e, he, rfl⟩ := List.mem_map.mp hx
      exact h.1 _ ⟨e, he, rfl⟩

/-- `entry(k).or_insert_with(|| d)`, then the update `f` of the value. -/
def alter (m : BTreeMap V) (k : I32) (d : V) (f : V → V) : BTreeMap V :=
  ⟨alterAux k d f m.entries, sorted_alterAux k d f m.sorted⟩

/-- `iter_mut` applying `f` to every value. -/
def mapValues (f : V → V) (m : BTreeMap V) : BTreeMap V :=
  ⟨m.entries.map fun e => (e.1, f e.2), by simpa [Function.comp_def] using m.sorted⟩

/-! #### Lookup -/

theorem lookup_cons_ite {b : V} {es : List (I32 × V)} (k a : I32) :
    ((k, b) :: es).lookup a = if a = k then some b else es.lookup a := by
  by_cases h : a = k
  · simp [h]
  · have : (a == k) = false := by simpa using h
    simp [List.lookup_cons, h, this]

/-- Every key of a sorted list is above a key that precedes it, so the
    earlier key is not looked up in the rest. -/
theorem lookup_eq_none_of_lt {es : List (I32 × V)} {k : I32}
    (h : ∀ e ∈ es, k.val < e.1.val) : es.lookup k = none := by
  simp only [List.lookup_eq_none_iff, bne_iff_ne, ne_eq]
  intro e he hk; have := h e he; rw [hk] at this; omega

theorem lookup_alterAux (k : I32) (d : V) (f : V → V) (k₀ : I32) :
    ∀ {es : List (I32 × V)}, (es.map (·.1.val)).Pairwise (· < ·) →
      (alterAux k d f es).lookup k₀ =
        if k₀ = k then some (f ((es.lookup k).getD d)) else es.lookup k₀
  | [], _ => by by_cases h : k₀ = k <;> simp [alterAux, lookup_cons_ite, h]
  | (k', v) :: es, h => by
    simp only [List.map_cons, List.pairwise_cons, List.mem_map] at h
    have hes : ∀ e ∈ es, k'.val < e.1.val := fun e he => h.1 _ ⟨e, he, rfl⟩
    unfold alterAux
    by_cases hlt : k.val < k'.val
    · -- `k` is new and below every key: it goes in front
      rw [if_pos hlt]
      have hk : k ≠ k' := fun h => by rw [h] at hlt; omega
      have hnone : es.lookup k = none :=
        lookup_eq_none_of_lt fun e he => by have := hes e he; omega
      by_cases h₀ : k₀ = k <;> simp [lookup_cons_ite, h₀, hk, hnone]
    by_cases heq : k.val = k'.val
    · -- `k` is already there: its value is updated in place
      rw [if_neg hlt, if_pos heq]
      obtain rfl : k = k' := I32.ext_val heq
      by_cases h₀ : k₀ = k <;> simp [lookup_cons_ite, h₀]
    -- `k` lies further on
    rw [if_neg hlt, if_neg heq]
    have hk : k ≠ k' := fun h => heq (h ▸ rfl)
    rw [lookup_cons_ite, lookup_alterAux k d f k₀ h.2]
    by_cases h₀ : k₀ = k
    · subst h₀; simp [lookup_cons_ite, hk]
    · by_cases h₁ : k₀ = k' <;> simp [lookup_cons_ite, h₀, h₁, hk.symm]

@[simp] theorem get?_empty (k : I32) : (empty : BTreeMap V).get? k = none := rfl

theorem get?_alter (m : BTreeMap V) (k : I32) (d : V) (f : V → V) (k₀ : I32) :
    (m.alter k d f).get? k₀ = if k₀ = k then some (f ((m.get? k).getD d)) else m.get? k₀ :=
  lookup_alterAux k d f k₀ m.sorted

theorem get?_mapValues (f : V → V) (m : BTreeMap V) (k : I32) :
    (m.mapValues f).get? k = (m.get? k).map f := by
  simp only [get?, mapValues]
  generalize m.entries = es
  induction es with
  | nil => rfl
  | cons e es ih =>
    rw [List.map_cons, lookup_cons_ite, lookup_cons_ite, ih]
    split_ifs <;> rfl

/-- In a sorted map an entry is found by its key. -/
theorem get?_of_mem {m : BTreeMap V} {k : I32} {v : V} (h : (k, v) ∈ m.entries) :
    m.get? k = some v := by
  obtain ⟨es, hs⟩ := m
  simp only [get?] at h ⊢
  induction es with
  | nil => simp at h
  | cons e es ih =>
    obtain ⟨k', v'⟩ := e
    simp only [List.map_cons, List.pairwise_cons, List.mem_map] at hs
    rcases List.mem_cons.mp h with h | h
    · cases h; rw [lookup_cons_ite, if_pos rfl]
    · have hk : k ≠ k' := fun hk => absurd (hs.1 _ ⟨_, h, rfl⟩) (by simp [hk])
      rw [lookup_cons_ite, if_neg hk, ih hs.2 h]

theorem mem_of_get?_eq_some {m : BTreeMap V} {k : I32} {v : V} (h : m.get? k = some v) :
    (k, v) ∈ m.entries := by
  obtain ⟨es, hs⟩ := m
  simp only [get?] at h ⊢
  clear hs
  induction es with
  | nil => simp at h
  | cons e es ih =>
    obtain ⟨k', v'⟩ := e
    rw [lookup_cons_ite] at h
    split_ifs at h with hk
    · cases h; subst hk; exact List.mem_cons_self _ _
    · exact List.mem_cons_of_mem _ (ih h)

theorem pairwise_keys (m : BTreeMap V) : (m.entries.map (·.1)).Pairwise fun a b => a.val < b.val :=
  List.pairwise_map.mpr (List.pairwise_map.mp m.sorted)

/-- Reading the values in key order is reading each key's value: the keys of a
    sorted map are distinct. -/
theorem flatMap_entries (m : BTreeMap (List V)) (es : List (I32 × List V))
    (hes : ∀ e ∈ es, e ∈ m.entries) :
    es.flatMap (·.2) = (es.map (·.1)).flatMap fun k => (m.get? k).getD [] := by
  rw [List.flatMap_map]
  simp only [List.flatMap]
  congr 1
  exact List.map_congr_left fun e he => by simp [get?_of_mem (hes e he)]

end BTreeMap

/-! ### Event handlers and the dispatch list -/

/-- A single registration of a handler (`EventHandler`).  Its derived equality
    is the source's `PartialEq`: the same capture flag and a pointer-equal
    handler. -/
structure EventHandler where
  handler : Object
  useCapture : Bool
deriving DecidableEq, Repr

/-- The priority map of one event type (an `event_sheaf` in the source). -/
abbrev EventSheaf := BTreeMap (List EventHandler)

/-- `DispatchList`: the handlers of each event type, by priority and order
    added. -/
structure DispatchList where
  events : String → Option EventSheaf

namespace DispatchList

/-- `DispatchList::new`. -/
def new : DispatchList := ⟨fun _ => none⟩

/-- `get_event`. -/
def getEvent (d : DispatchList) (event : String) : Option EventSheaf := d.events event

/-- `get_event_mut`, which inserts an empty map for an unknown event type,
    followed by the update `f` of the map it returns. -/
def updateEvent (d : DispatchList) (event : String) (f : EventSheaf → EventSheaf) :
    DispatchList :=
  ⟨fun e => if e = event then some (f ((d.events event).getD .empty)) else d.events e⟩

/-- `add_event_listener`: silently does nothing when the handler is already
    registered for the event at any priority; otherwise pushes it at the end of
    its priority's vector (`get_event_priority_mut(..).push(..)`). -/
def addEventListener (d : DispatchList) (event : String) (priority : I32) (handler : Object)
    (useCapture : Bool) : DispatchList :=
  let newHandler : EventHandler := ⟨handler, useCapture⟩
  if (d.getEvent event).any (·.entries.any (·.2.contains newHandler)) then d
  else d.updateEvent event (·.alter priority [] (· ++ [newHandler]))

/-- `remove_event_listener`: at every priority of the event, removes the first
    equal handler (`position` then `remove`). -/
def removeEventListener (d : DispatchList) (event : String) (handler : Object)
    (useCapture : Bool) : DispatchList :=
  let oldHandler : EventHandler := ⟨handler, useCapture⟩
  d.updateEvent event (BTreeMap.mapValues (·.erase oldHandler))

/-- `has_event_listener`: some priority of the event holds a handler. -/
def hasEventListener (d : DispatchList) (event : String) : Bool :=
  (d.getEvent event).any (·.entries.any (!·.2.isEmpty))

/-- `iter_event_handlers`: through `get_event_mut`, so it inserts an empty map
    for an unknown event type; then the handlers from the highest priority down,
    each priority's in the order added, keeping those of the requested phase.
    Returns the updated list with the handlers. -/
def iterEventHandlers (d : DispatchList) (event : String) (useCapture : Bool) :
    DispatchList × List Object :=
  let sheaf := (d.events event).getD .empty
  (d.updateEvent event id,
    ((sheaf.entries.reverse.flatMap (·.2)).filter (·.useCapture == useCapture)).map (·.handler))

/-- The vector of handlers stored for `event` at `priority` (empty when absent). -/
def bucket (d : DispatchList) (event : String) (priority : I32) : List EventHandler :=
  ((d.getEvent event).bind (·.get? priority)).getD []

/-! #### Bucket lemmas -/

@[simp] theorem bucket_new (e : String) (p : I32) : new.bucket e p = [] := rfl

theorem bucket_eq_sheaf (d : DispatchList) (e : String) (p : I32) :
    d.bucket e p = (((d.events e).getD .empty).get? p).getD [] := by
  cases h : d.events e <;> simp [bucket, getEvent, h]

theorem bucket_updateEvent (d : DispatchList) (event : String) (f : EventSheaf → EventSheaf)
    (e : String) (p : I32) :
    (d.updateEvent event f).bucket e p =
      if e = event then ((f ((d.events event).getD .empty)).get? p).getD [] else d.bucket e p := by
  by_cases h : e = event <;> simp [bucket, getEvent, updateEvent, h]

/-- The registration test of `add_event_listener` asks whether some priority's
    vector holds the handler. -/
theorem registered_iff (d : DispatchList) (event : String) (h : EventHandler) :
    (d.getEvent event).any (·.entries.any (·.2.contains h)) = true ↔
      ∃ p, h ∈ d.bucket event p := by
  simp only [bucket, getEvent]
  cases d.events event with
  | none => simp
  | some m =>
    simp only [Option.any_some, List.any_eq_true, List.elem_eq_mem, decide_eq_true_eq,
      Option.some_bind]
    constructor
    · rintro ⟨⟨k, v⟩, he, hv⟩
      exact ⟨k, by simpa [BTreeMap.get?_of_mem he] using hv⟩
    · rintro ⟨k, hk⟩
      cases hg : m.get? k with
      | none => simp [hg] at hk
      | some v => exact ⟨(k, v), BTreeMap.mem_of_get?_eq_some hg, by simpa [hg] using hk⟩

/-- `has_event_listener` asks whether some priority of the event holds a
    handler. -/
theorem hasEventListener_iff_exists_bucket (d : DispatchList) (event : String) :
    d.hasEventListener event = true ↔ ∃ p, d.bucket event p ≠ [] := by
  simp only [hasEventListener, bucket, getEvent]
  cases d.events event with
  | none => simp
  | some m =>
    simp only [Option.any_some, List.any_eq_true, Bool.not_eq_true', List.isEmpty_eq_false,
      Option.some_bind]
    constructor
    · rintro ⟨⟨k, v⟩, he, hv⟩
      exact ⟨k, by simpa [BTreeMap.get?_of_mem he] using hv⟩
    · rintro ⟨k, hk⟩
      cases hg : m.get? k with
      | none => simp [hg] at hk
      | some v => exact ⟨(k, v), BTreeMap.mem_of_get?_eq_some hg, by simpa [hg] using hk⟩

theorem addEventListener_of_registered {d : DispatchList} {event : String} {priority : I32}
    {handler : Object} {useCapture : Bool} (h : ∃ p, ⟨handler, useCapture⟩ ∈ d.bucket event p) :
    d.addEventListener event priority handler useCapture = d := by
  simp only [addEventListener, (registered_iff d event _).mpr h, if_true]

theorem bucket_addEventListener_of_not_registered {d : DispatchList} {event : String}
    {priority : I32} {handler : Object} {useCapture : Bool}
    (h : ¬∃ p, ⟨handler, useCapture⟩ ∈ d.bucket event p) (e : String) (p : I32) :
    (d.addEventListener event priority handler useCapture).bucket e p =
      if e = event ∧ p = priority then d.bucket e p ++ [⟨handler, useCapture⟩]
      else d.bucket e p := by
  have hr := mt (registered_iff d event ⟨handler, useCapture⟩).mp h
  simp only [Bool.not_eq_true] at hr
  simp only [addEventListener, hr, Bool.false_eq_true, if_false, bucket_updateEvent,
    BTreeMap.get?_alter]
  by_cases he : e = event <;> by_cases hp : p = priority <;>
    simp [he, hp, bucket_eq_sheaf]

theorem bucket_removeEventListener (d : DispatchList) (event : String) (handler : Object)
    (useCapture : Bool) (e : String) (p : I32) :
    (d.removeEventListener event handler useCapture).bucket e p =
      if e = event then (d.bucket e p).erase ⟨handler, useCapture⟩ else d.bucket e p := by
  simp only [removeEventListener, bucket_updateEvent, BTreeMap.get?_mapValues]
  by_cases he : e = event
  · subst he
    cases hg : ((d.events e).getD .empty).get? p <;> simp [bucket_eq_sheaf, hg]
  · simp [he]

theorem bucket_iterEventHandlers (d : DispatchList) (event : String) (useCapture : Bool)
    (e : String) (p : I32) : (d.iterEventHandlers event useCapture).1.bucket e p = d.bucket e p := by
  simp only [iterEventHandlers, bucket_updateEvent, id]
  by_cases he : e = event
  · subst he; simp [bucket_eq_sheaf]
  · simp [he]

/-- What `iter_event_handlers` yields, priority by priority: each key of the
    event's map, from the highest down, contributes its vector's handlers of the
    requested phase. -/
theorem iterEventHandlers_eq (d : DispatchList) (event : String) (useCapture : Bool) :
    (d.iterEventHandlers event useCapture).2 =
      ((d.events event).getD .empty).keys.reverse.flatMap fun p =>
        ((d.bucket event p).filter (·.useCapture == useCapture)).map (·.handler) := by
  simp only [iterEventHandlers, bucket_eq_sheaf]
  rw [BTreeMap.flatMap_entries _ _ fun e he => List.mem_reverse.mp he, List.filter_flatMap,
    List.map_flatMap, BTreeMap.keys, List.map_reverse]

/-- `has_event_listener` reports a listener exactly when `iter_event_handlers`
    yields a handler for one of the two phases.  Empty vectors left by removals
    and empty maps inserted by `get_event_mut` count as no listener on both
    sides, so this holds of every dispatch list, reachable or not. -/
theorem hasEventListener_iff_iterEventHandlers (d : DispatchList) (event : String) :
    d.hasEventListener event = true ↔
      (d.iterEventHandlers event true).2 ≠ [] ∨ (d.iterEventHandlers event false).2 ≠ [] := by
  set stored := ((d.events event).getD .empty).entries.reverse.flatMap (·.2)
  have has : d.hasEventListener event = true ↔ stored ≠ [] := by
    simp only [hasEventListener, getEvent, stored]
    cases d.events event <;> simp [BTreeMap.empty, List.flatMap_eq_nil_iff]
  have yields (c : Bool) :
      (d.iterEventHandlers event c).2 ≠ [] ↔ ∃ h, h ∈ stored ∧ h.useCapture = c := by
    simp only [iterEventHandlers, ne_eq, List.map_eq_nil_iff, List.filter_eq_nil_iff, beq_iff_eq]
    push_neg; rfl
  rw [has, yields, yields, ← exists_or, ← List.length_pos, List.length_pos_iff_exists_mem]
  simp only [← and_or_left, Bool.eq_false_or_eq_true, and_true]

end DispatchList

end RuffleAvm
