/-
  RuffleAvm/DispatchLog.lean
  ==========================
  **The dispatch list refines a flat registration log.**

  The abstract model of a `DispatchList` is the list of live registrations
  `(event, priority, handler, use_capture)` in the order they were made.
  Adding appends unless the pair is already registered for the event at any
  priority; removing deletes it; and the handlers of an event and phase are
  read off the log priority by priority, from the highest down, each
  priority's in log order.

  The concrete list is related to the log by its *buckets*: at every event
  type and priority, the vector of the `BTreeMap` is the log's registrations
  there, in order (`Refines`).  Every call preserves that relation together
  with the log's uniqueness invariant (`refines_step`), hence so does every
  sequence of calls from `DispatchList::new()` (`refines_run`), and
  `iter_event_handlers` then yields exactly what the log says
  (`iterEventHandlers_eq_handlers`).  The sorted keys of the `BTreeMap` are
  what make the last step go through: the concrete list walks its keys, which
  may include emptied priorities, and the log walks its own priorities; two
  strictly decreasing lists that agree on every priority that contributes
  anything contribute the same handlers (`flatMap_eq_of_desc`).  The query
  `has_event_listener` reads the same relation: it holds exactly when the
  log has a registration for the event (`hasEventListener_iff_log`).
-/
import RuffleAvm.DispatchList
import Mathlib.Data.List.Dedup

namespace RuffleAvm

/-! ### Strictly decreasing priority lists -/

/-- Strictly decreasing in value. -/
def Desc (xs : List I32) : Prop := xs.Pairwise fun a b => b.val < a.val

/-- Two strictly decreasing lists with the same members are equal. -/
theorem eq_of_desc_of_mem_iff : ∀ {xs ys : List I32}, Desc xs → Desc ys →
    (∀ a, a ∈ xs ↔ a ∈ ys) → xs = ys
  | [], [], _, _, _ => rfl
  | [], y :: _, _, _, h => absurd ((h y).mpr (List.mem_cons_self _ _)) (List.not_mem_nil _)
  | x :: _, [], _, _, h => absurd ((h x).mp (List.mem_cons_self _ _)) (List.not_mem_nil _)
  | x :: xs, y :: ys, hx, hy, h => by
    rw [Desc, List.pairwise_cons] at hx hy
    have hxy : x = y := by
      by_contra hne
      have h₁ := ((List.mem_cons.mp ((h x).mp (List.mem_cons_self _ _))).resolve_left hne)
      have h₂ := ((List.mem_cons.mp ((h y).mpr (List.mem_cons_self _ _))).resolve_left
        (Ne.symm hne))
      have := hy.1 x h₁; have := hx.1 y h₂; omega
    subst hxy
    congr 1
    refine eq_of_desc_of_mem_iff hx.2 hy.2 fun a => ⟨fun ha => ?_, fun ha => ?_⟩
    · have := hx.1 a ha
      exact (List.mem_cons.mp ((h a).mp (List.mem_cons_of_mem _ ha))).resolve_left
        fun h => by subst h; omega
    · have := hy.1 a ha
      exact (List.mem_cons.mp ((h a).mpr (List.mem_cons_of_mem _ ha))).resolve_left
        fun h => by subst h; omega

/-- Elements that contribute nothing can be dropped from a `flatMap`. -/
theorem flatMap_filter_ne_nil {β : Type} (f : I32 → List β) :
    ∀ xs : List I32, (xs.filter fun p => !(f p).isEmpty).flatMap f = xs.flatMap f
  | [] => rfl
  | x :: xs => by
    cases h : f x with
    | nil => simp [List.filter_cons, h, flatMap_filter_ne_nil f xs]
    | cons => simp [List.filter_cons, h, flatMap_filter_ne_nil f xs]

/-- Two strictly decreasing lists that agree on every element contributing
    something yield the same `flatMap`. -/
theorem flatMap_eq_of_desc {β : Type} (f : I32 → List β) {xs ys : List I32}
    (hx : Desc xs) (hy : Desc ys) (h : ∀ p, f p ≠ [] → (p ∈ xs ↔ p ∈ ys)) :
    xs.flatMap f = ys.flatMap f := by
  rw [← flatMap_filter_ne_nil f xs, ← flatMap_filter_ne_nil f ys]
  congr 1
  refine eq_of_desc_of_mem_iff (hx.sublist (List.filter_sublist _))
    (hy.sublist (List.filter_sublist _)) fun a => ?_
  simp only [List.mem_filter, Bool.not_eq_true', List.isEmpty_eq_false]
  exact and_congr_left (h a)

/-! ### The registration log -/

/-- One live registration. -/
structure Registration where
  event : String
  priority : I32
  handler : EventHandler
deriving DecidableEq, Repr

/-- The flat registration log: every live registration, in the order made. -/
abbrev RegistrationLog := List Registration

namespace RegistrationLog

/-- Adding appends unless the pair is registered for the event at any
    priority. -/
def add (L : RegistrationLog) (event : String) (priority : I32) (h : EventHandler) :
    RegistrationLog :=
  if L.any (fun r => r.event = event ∧ r.handler = h) then L else L ++ [⟨event, priority, h⟩]

/-- Removing deletes the pair's registration for the event. -/
def remove (L : RegistrationLog) (event : String) (h : EventHandler) : RegistrationLog :=
  L.filter fun r => !(r.event = event ∧ r.handler = h)

/-- The handlers registered for `event` at `priority`, in log order. -/
def bucket (L : RegistrationLog) (event : String) (priority : I32) : List EventHandler :=
  (L.filter fun r => r.event = event ∧ r.priority = priority).map (·.handler)

/-- The priorities used for `event`, from the highest down, each once. -/
def priorities (L : RegistrationLog) (event : String) : List I32 :=
  ((L.filter (·.event = event)).map (·.priority)).dedup.mergeSort fun a b => b.val ≤ a.val

/-- The handlers for `event` in the given phase: by descending priority, ties
    in log order. -/
def handlers (L : RegistrationLog) (event : String) (useCapture : Bool) : List Object :=
  (L.priorities event).flatMap fun p =>
    ((L.bucket event p).filter (·.useCapture == useCapture)).map (·.handler)

/-- No pair is registered twice for one event type. -/
def Unique (L : RegistrationLog) : Prop :=
  L.Pairwise fun r s => ¬(r.event = s.event ∧ r.handler = s.handler)

theorem desc_priorities (L : RegistrationLog) (event : String) : Desc (L.priorities event) := by
  have hs : (L.priorities event).Pairwise fun a b => decide (b.val ≤ a.val) :=
    List.sorted_mergeSort (fun a b c hab hbc => by simp only [decide_eq_true_eq] at *; omega)
      (fun a b => by simpa only [Bool.or_eq_true, decide_eq_true_eq] using le_total b.val a.val) _
  have hn : (L.priorities event).Nodup :=
    (List.mergeSort_perm _ _).nodup_iff.mpr (List.nodup_dedup _)
  refine (hs.and hn).imp fun {a b} ⟨hab, hne⟩ => ?_
  simp only [decide_eq_true_eq] at hab
  exact lt_of_le_of_ne hab fun h => hne (I32.ext_val h.symm)

theorem mem_priorities {L : RegistrationLog} {event : String} {p : I32} :
    p ∈ L.priorities event ↔ L.bucket event p ≠ [] := by
  simp [priorities, bucket, List.mem_mergeSort, List.mem_dedup, List.filter_eq_nil_iff, and_assoc]

theorem bucket_append (L : RegistrationLog) (r : Registration) (e : String) (p : I32) :
    (L ++ [r]).bucket e p = L.bucket e p ++ if r.event = e ∧ r.priority = p then [r.handler] else [] := by
  by_cases h : r.event = e ∧ r.priority = p <;> simp [bucket, List.filter_append, h]

theorem bucket_remove (L : RegistrationLog) (event : String) (h : EventHandler) (e : String)
    (p : I32) : (L.remove event h).bucket e p =
      if e = event then (L.bucket e p).filter (· != h) else L.bucket e p := by
  by_cases he : e = event
  · subst he
    simp only [remove, bucket, if_true, List.filter_map, List.filter_filter]
    congr 1
    apply List.filter_congr
    intro r _
    by_cases h₁ : r.event = e <;> by_cases h₂ : r.handler = h <;> simp [h₁, h₂]
  · simp only [remove, bucket, he, if_false, List.filter_filter]
    congr 1
    apply List.filter_congr
    intro r _
    by_cases h₁ : r.event = e <;> simp [h₁, he]

theorem any_iff_exists_bucket (L : RegistrationLog) (event : String) (h : EventHandler) :
    L.any (fun r => r.event = event ∧ r.handler = h) = true ↔ ∃ p, h ∈ L.bucket event p := by
  simp only [List.any_eq_true, decide_eq_true_eq, bucket, List.mem_map, List.mem_filter]
  constructor
  · rintro ⟨r, hr, rfl, rfl⟩; exact ⟨r.priority, r, ⟨hr, rfl, rfl⟩, rfl⟩
  · rintro ⟨p, r, ⟨hr, hrp⟩, rfl⟩; exact ⟨r, hr, hrp.1, rfl⟩

/-- Under uniqueness a pair sits in one bucket of an event, at most once. -/
theorem Unique.nodup_bucket {L : RegistrationLog} (hu : L.Unique) (e : String) (p : I32) :
    (L.bucket e p).Nodup := by
  rw [bucket, List.Nodup, List.pairwise_map]
  refine (hu.sublist (List.filter_sublist _)).imp_of_mem fun hr hs hrs heq => hrs ⟨?_, heq⟩
  simp only [List.mem_filter, decide_eq_true_eq] at hr hs
  rw [hr.2.1, hs.2.1]

theorem Unique.eq_of_mem : ∀ {L : RegistrationLog}, L.Unique → ∀ {r s : Registration},
    r ∈ L → s ∈ L → r.event = s.event → r.handler = s.handler → r = s
  | [], _, _, _, hr, _, _, _ => absurd hr (List.not_mem_nil _)
  | _ :: _, hu, _, _, hr, hs, he, hh => by
    rw [Unique, List.pairwise_cons] at hu
    rcases List.mem_cons.mp hr with rfl | hr' <;> rcases List.mem_cons.mp hs with rfl | hs'
    · rfl
    · exact absurd ⟨he, hh⟩ (hu.1 _ hs')
    · exact absurd ⟨he.symm, hh.symm⟩ (hu.1 _ hr')
    · exact Unique.eq_of_mem hu.2 hr' hs' he hh

/-- Under uniqueness a pair sits in one bucket of an event. -/
theorem Unique.eq_of_mem_bucket {L : RegistrationLog} (hu : L.Unique) {e : String} {p q : I32}
    {h : EventHandler} (hp : h ∈ L.bucket e p) (hq : h ∈ L.bucket e q) : p = q := by
  simp only [bucket, List.mem_map, List.mem_filter, decide_eq_true_eq] at hp hq
  obtain ⟨r, ⟨hr, rfl, rfl⟩, rfl⟩ := hp
  obtain ⟨s, ⟨hs, hse, rfl⟩, hh⟩ := hq
  rw [hu.eq_of_mem hr hs hse.symm hh.symm]

theorem Unique.add {L : RegistrationLog} (hu : L.Unique) (event : String) (priority : I32)
    (h : EventHandler) : (L.add event priority h).Unique := by
  unfold RegistrationLog.add
  split_ifs with hreg
  · exact hu
  · rw [Unique, List.pairwise_append]
    refine ⟨hu, List.pairwise_singleton _ _, fun r hr s hs ⟨he, hh⟩ => hreg ?_⟩
    rw [List.mem_singleton] at hs; subst hs
    exact List.any_eq_true.mpr ⟨r, hr, by simp [he, hh]⟩

theorem Unique.remove {L : RegistrationLog} (hu : L.Unique) (event : String) (h : EventHandler) :
    (L.remove event h).Unique :=
  hu.filter _

theorem mem_handlers {L : RegistrationLog} {e : String} {c : Bool} {x : Object} :
    x ∈ L.handlers e c ↔ ∃ r ∈ L, r.event = e ∧ r.handler = ⟨x, c⟩ := by
  simp only [handlers, List.mem_flatMap, mem_priorities, List.mem_map, List.mem_filter,
    bucket, beq_iff_eq]
  constructor
  · rintro ⟨p, -, h, ⟨⟨r, ⟨hr, hrp⟩, rfl⟩, hc⟩, rfl⟩
    simp only [decide_eq_true_eq] at hrp
    exact ⟨r, hr, hrp.1, by rw [← hc]⟩
  · rintro ⟨r, hr, rfl, hh⟩
    refine ⟨r.priority, ?_, r.handler, ⟨⟨r, ⟨hr, by simp⟩, rfl⟩, by simp [hh]⟩, by simp [hh]⟩
    exact List.ne_nil_of_mem (List.mem_map_of_mem _ (List.mem_filter.mpr ⟨hr, by simp⟩))

end RegistrationLog

/-! ### Calls and runs -/

/-- A call on a dispatch list. -/
inductive DispatchOp where
  | add (event : String) (priority : I32) (handler : Object) (useCapture : Bool)
  | remove (event : String) (handler : Object) (useCapture : Bool)
  | iter (event : String) (useCapture : Bool)
  | has (event : String)
deriving DecidableEq, Repr

namespace DispatchList

/-- One call; `has_event_listener` leaves the list as it is. -/
def step (d : DispatchList) : DispatchOp → DispatchList
  | .add e p h c => d.addEventListener e p h c
  | .remove e h c => d.removeEventListener e h c
  | .iter e c => (d.iterEventHandlers e c).1
  | .has _ => d

def run (d : DispatchList) (ops : List DispatchOp) : DispatchList := ops.foldl step d

/-- Each handler/capture pair occurs at most once across all priorities of an
    event type. -/
def PairsUnique (d : DispatchList) : Prop :=
  ∀ e, (((d.events e).getD .empty).entries.flatMap (·.2)).Nodup

end DispatchList

namespace RegistrationLog

def step (L : RegistrationLog) : DispatchOp → RegistrationLog
  | .add e p h c => L.add e p ⟨h, c⟩
  | .remove e h c => L.remove e ⟨h, c⟩
  | .iter _ _ | .has _ => L

def run (L : RegistrationLog) (ops : List DispatchOp) : RegistrationLog := ops.foldl step L

/-- Runs without an `add` of the pair never register it. -/
theorem not_registered_run {e : String} {h : Object} {c : Bool} :
    ∀ (ops : List DispatchOp) {L : RegistrationLog}, (∀ p, DispatchOp.add e p h c ∉ ops) →
      (∀ r ∈ L, ¬(r.event = e ∧ r.handler = ⟨h, c⟩)) →
      ∀ r ∈ L.run ops, ¬(r.event = e ∧ r.handler = ⟨h, c⟩)
  | [], _, _, hL => hL
  | op :: ops, L, hops, hL => by
    refine not_registered_run ops (fun p hp => hops p (List.mem_cons_of_mem _ hp)) ?_
    cases op with
    | add e' p' h' c' =>
      simp only [step, add]
      split_ifs
      · exact hL
      · intro r hr
        rcases List.mem_append.mp hr with hr | hr
        · exact hL r hr
        · rw [List.mem_singleton] at hr; subst hr
          rintro ⟨rfl, hh⟩
          cases hh
          exact hops p' (List.mem_cons_self _ _)
    | remove e' h' c' =>
      exact fun r hr => hL r (List.mem_of_mem_filter hr)
    | iter => exact hL
    | has => exact hL

end RegistrationLog

/-! ### Refinement -/

/-- The dispatch list stores exactly the log's registrations, bucket by
    bucket. -/
def Refines (d : DispatchList) (L : RegistrationLog) : Prop :=
  ∀ e p, d.bucket e p = L.bucket e p

section Refinement

variable {d : DispatchList} {L : RegistrationLog}

theorem registered_iff_log (hr : Refines d L) (e : String) (h : EventHandler) :
    (∃ q, h ∈ d.bucket e q) ↔ L.any (fun r => r.event = e ∧ r.handler = h) = true := by
  rw [show d.bucket e = L.bucket e from funext (hr e), RegistrationLog.any_iff_exists_bucket]

theorem refines_addEventListener (hr : Refines d L) (e : String) (p : I32) (h : Object)
    (c : Bool) : Refines (d.addEventListener e p h c) (L.add e p ⟨h, c⟩) := by
  by_cases hreg : ∃ q, (⟨h, c⟩ : EventHandler) ∈ d.bucket e q
  · rw [DispatchList.addEventListener_of_registered hreg, RegistrationLog.add,
      if_pos ((registered_iff_log hr e _).mp hreg)]
    exact hr
  · intro e' p'
    rw [DispatchList.bucket_addEventListener_of_not_registered hreg, RegistrationLog.add,
      if_neg (mt (registered_iff_log hr e _).mpr hreg), RegistrationLog.bucket_append, hr]
    by_cases h' : e' = e ∧ p' = p
    · obtain ⟨rfl, rfl⟩ := h'; simp
    · have : ¬(e = e' ∧ p = p') := fun ⟨h₁, h₂⟩ => h' ⟨h₁.symm, h₂.symm⟩
      simp [h', this]

theorem refines_removeEventListener (hr : Refines d L) (hu : L.Unique) (e : String) (h : Object)
    (c : Bool) : Refines (d.removeEventListener e h c) (L.remove e ⟨h, c⟩) := by
  intro e' p'
  rw [DispatchList.bucket_removeEventListener, RegistrationLog.bucket_remove, hr]
  split_ifs
  · exact (hu.nodup_bucket e' p').erase_eq_filter _
  · rfl

/-- One call preserves the refinement and the log's uniqueness. -/
theorem refines_step (hr : Refines d L) (hu : L.Unique) (op : DispatchOp) :
    Refines (d.step op) (L.step op) ∧ (L.step op).Unique := by
  cases op with
  | add e p h c => exact ⟨refines_addEventListener hr e p h c, hu.add e p _⟩
  | remove e h c => exact ⟨refines_removeEventListener hr hu e h c, hu.remove e _⟩
  | iter e c =>
    exact ⟨fun e' p' => (DispatchList.bucket_iterEventHandlers d e c e' p').trans (hr e' p'), hu⟩
  | has e => exact ⟨hr, hu⟩

/-- Every run preserves them. -/
theorem refines_run : ∀ (ops : List DispatchOp) {d : DispatchList} {L : RegistrationLog},
    Refines d L → L.Unique → Refines (d.run ops) (L.run ops) ∧ (L.run ops).Unique
  | [], _, _, hr, hu => ⟨hr, hu⟩
  | op :: ops, _, _, hr, hu =>
    let h := refines_step hr hu op
    refines_run ops h.1 h.2

theorem refines_new : Refines DispatchList.new [] := fun _ _ => rfl

/-- `iter_event_handlers` yields what the log says: by descending priority,
    ties in log order. -/
theorem iterEventHandlers_eq_handlers (hr : Refines d L) (e : String) (c : Bool) :
    (d.iterEventHandlers e c).2 = L.handlers e c := by
  rw [DispatchList.iterEventHandlers_eq, RegistrationLog.handlers,
    show d.bucket e = L.bucket e from funext (hr e)]
  refine flatMap_eq_of_desc _ ?_ (L.desc_priorities e) fun p hp => ?_
  · exact List.pairwise_reverse.mpr ((d.events e).getD .empty).pairwise_keys
  · have hb : L.bucket e p ≠ [] := fun h => hp (by simp [h])
    refine ⟨fun _ => RegistrationLog.mem_priorities.mpr hb, fun _ => ?_⟩
    have hd : d.bucket e p ≠ [] := by rwa [hr]
    rw [DispatchList.bucket_eq_sheaf] at hd
    cases hg : ((d.events e).getD .empty).get? p with
    | none => simp [hg] at hd
    | some v =>
      exact List.mem_reverse.mpr (List.mem_map.mpr ⟨(p, v), BTreeMap.mem_of_get?_eq_some hg, rfl⟩)

/-- `has_event_listener` reports whether the log holds a registration for the
    event. -/
theorem hasEventListener_iff_log (hr : Refines d L) (e : String) :
    d.hasEventListener e = true ↔ ∃ r ∈ L, r.event = e := by
  simp only [DispatchList.hasEventListener_iff_exists_bucket, hr e, RegistrationLog.bucket,
    ne_eq, List.map_eq_nil_iff, List.filter_eq_nil_iff, decide_eq_true_eq, not_forall, not_not]
  constructor
  · rintro ⟨p, r, hr, he, -⟩
    exact ⟨r, hr, he⟩
  · rintro ⟨r, hr, he⟩
    exact ⟨r.priority, r, hr, he, rfl⟩

theorem pairsUnique_of_refines (hr : Refines d L) (hu : L.Unique) : d.PairsUnique := by
  intro e
  set m := (d.events e).getD .empty
  rw [BTreeMap.flatMap_entries m _ fun _ h => h, List.nodup_flatMap]
  have hb : ∀ k, (m.get? k).getD [] = L.bucket e k := fun k => by
    rw [← hr, DispatchList.bucket_eq_sheaf]
  refine ⟨fun k _ => by rw [hb]; exact hu.nodup_bucket e k, ?_⟩
  refine m.pairwise_keys.imp fun {a b} hab x hxa hxb => ?_
  simp only [hb] at hxa hxb
  have := hu.eq_of_mem_bucket hxa hxb
  subst this; omega

/-- After a removal the pair is in no bucket of the event, so adding it again
    puts it last in its priority's vector. -/
theorem bucket_readd (hr : Refines d L) (hu : L.Unique) (e : String) (p : I32) (h : Object)
    (c : Bool) : ((d.removeEventListener e h c).addEventListener e p h c).bucket e p =
      (d.removeEventListener e h c).bucket e p ++ [⟨h, c⟩] := by
  have hgone : ¬∃ q, (⟨h, c⟩ : EventHandler) ∈ (d.removeEventListener e h c).bucket e q := by
    rintro ⟨q, hq⟩
    rw [DispatchList.bucket_removeEventListener, if_pos rfl, hr] at hq
    exact (hu.nodup_bucket e q).not_mem_erase hq
  simp [DispatchList.bucket_addEventListener_of_not_registered hgone]

/-- After a removal the handler is not yielded again for that phase until an
    `add` of the same pair. -/
theorem not_mem_iterEventHandlers_of_removed (hr : Refines d L) (hu : L.Unique) (e : String)
    (h : Object) (c : Bool) (ops : List DispatchOp) (hops : ∀ p, DispatchOp.add e p h c ∉ ops) :
    h ∉ (((d.removeEventListener e h c).run ops).iterEventHandlers e c).2 := by
  obtain ⟨hr', hu'⟩ := refines_run ops (refines_removeEventListener hr hu e h c) (hu.remove e _)
  rw [iterEventHandlers_eq_handlers hr', RegistrationLog.mem_handlers]
  rintro ⟨r, hr, hre⟩
  refine RegistrationLog.not_registered_run ops hops (fun r hr hre => ?_) r hr hre
  simp only [RegistrationLog.remove, List.mem_filter] at hr
  simp [hre] at hr

end Refinement

/-! ### Every run from `DispatchList::new()` -/

/-- The dispatch list reached by any sequence of calls from
    `DispatchList::new()` refines the registration log reached by the same
    calls: `iter_event_handlers` yields exactly the log's handlers for the event
    and phase, by descending priority with ties in log order.  Consequently
    every pair occurs at most once per event type; re-adding a registered pair
    at any priority changes nothing; a removed pair comes back last in its
    priority when re-added; and it is never yielded again before that. -/
theorem dispatchList_refines_registrationLog (ops : List DispatchOp) :
    (∀ e c, ((DispatchList.new.run ops).iterEventHandlers e c).2 =
      (RegistrationLog.run [] ops).handlers e c) ∧
    (DispatchList.new.run ops).PairsUnique ∧
    (∀ e p h c, (∃ q, (⟨h, c⟩ : EventHandler) ∈ (DispatchList.new.run ops).bucket e q) →
      (DispatchList.new.run ops).addEventListener e p h c = DispatchList.new.run ops) ∧
    (∀ e p h c,
      (((DispatchList.new.run ops).removeEventListener e h c).addEventListener e p h c).bucket e p =
        ((DispatchList.new.run ops).removeEventListener e h c).bucket e p ++ [⟨h, c⟩]) ∧
    (∀ e h c (ops' : List DispatchOp), (∀ p, DispatchOp.add e p h c ∉ ops') →
      h ∉ ((((DispatchList.new.run ops).removeEventListener e h c).run ops').iterEventHandlers
        e c).2) := by
  obtain ⟨hr, hu⟩ := refines_run ops refines_new List.Pairwise.nil
  exact ⟨iterEventHandlers_eq_handlers hr, pairsUnique_of_refines hr hu,
    fun _ _ _ _ => DispatchList.addEventListener_of_registered,
    bucket_readd hr hu, fun e h c ops' => not_mem_iterEventHandlers_of_removed hr hu e h c ops'⟩

/-- Over every run from `DispatchList::new()`, `has_event_listener` reports
    whether the registration log of the same calls holds a registration for
    the event. -/
theorem hasEventListener_run_iff (ops : List DispatchOp) (e : String) :
    (DispatchList.new.run ops).hasEventListener e = true ↔
      ∃ r ∈ RegistrationLog.run [] ops, r.event = e :=
  hasEventListener_iff_log (refines_run ops refines_new List.Pairwise.nil).1 e

end RuffleAvm
