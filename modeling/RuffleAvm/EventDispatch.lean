/-
  RuffleAvm/EventDispatch.lean
  ============================
  **Three-phase event dispatch** (`avm2/events.rs`: `Event`,
  `dispatch_event_to_target`, `dispatch_event`).

  `dispatch_event` collects the target's ancestors, runs the capturing loop
  over them from the root down, fires at the target, and, for a bubbling
  event, runs the bubbling loop from the parent up; every loop stops at the
  first object reached after propagation has been stopped, and every error
  aborts the whole dispatch.  At each object `dispatch_event_to_target` takes
  the snapshot `iter_event_handlers` returns for the current phase and calls
  the handlers in it until one stops propagation immediately.

  Listeners are arbitrary: a call of a handler sees the whole world (the event,
  every dispatch list, the calls made so far) and answers with the actions it
  takes — stopping propagation, stopping it immediately, cancelling, adding or
  removing listeners on any object — and possibly an error.  The world records
  every call in `invoked`.

  The result (`dispatchEvent_eq_reference`) compares the code with a
  reference dispatch written apart from it (`Reference`): a walk over the list
  of *visits* — every ancestor capturing from the root down, the target, then
  every ancestor bubbling from the parent up if the event bubbles — in which
  each visit enters its phase, is skipped once propagation has stopped, and
  otherwise calls the snapshot taken there up to and including the first
  handler that fails or stops propagation immediately, with the event's flags
  read and written as fields.  The proof goes through the code's own walk
  (`dispatchEvent_eq_dispatchWalk`), which rests on what no listener can
  change (`World.Keeps`): the event's type, bubbling flag and phase, and that
  stopped propagation stays stopped; then the code's handler loop, which
  checks before each call, is the reference's, which checks after it
  (`callHandlers_eq_callSnapshot`).
-/
import RuffleAvm.DispatchList

namespace RuffleAvm

/-! ### Events -/

/-- `EventPhase`. -/
inductive EventPhase where
  | capturing
  | atTarget
  | bubbling
deriving DecidableEq, Repr

/-- `PropagationMode`. -/
inductive PropagationMode where
  | allow
  | stop
  | stopImmediate
deriving DecidableEq, Repr

/-- The fields of `Event` that dispatch reads or writes (`event_data` is read
    by none of the modelled functions). -/
structure Event where
  bubbles : Bool
  cancelable : Bool
  cancelled : Bool
  propagation : PropagationMode
  currentTarget : Option Object
  eventPhase : EventPhase
  target : Option Object
  eventType : String
deriving DecidableEq, Repr

namespace Event

def cancel (ev : Event) : Event :=
  if ev.cancelable then { ev with cancelled := true } else ev

def isPropagationStopped (ev : Event) : Bool := ev.propagation != .allow

def stopPropagation (ev : Event) : Event :=
  if ev.propagation != .stopImmediate then { ev with propagation := .stop } else ev

def isPropagationStoppedImmediately (ev : Event) : Bool := ev.propagation == .stopImmediate

def stopImmediatePropagation (ev : Event) : Event := { ev with propagation := .stopImmediate }

end Event

/-! ### The world a dispatch runs in -/

/-- What the private `dispatch_list` slot of an object holds. -/
inductive DispatchSlot where
  /-- Not an object: `coerce_to_object` fails, and the object acts as if its
      list were empty. -/
  | missing
  /-- An object that is not a dispatch list: `as_dispatch_mut` is `None`. -/
  | notDispatch
  | list (d : DispatchList)

/-- The in-flight event, every object's dispatch-list slot and private
    `target` slot, and the handler calls made so far. -/
structure World where
  event : Event
  dispatchLists : Object → DispatchSlot
  targets : Object → Option Object
  invoked : List Object

namespace World

def setEvent (w : World) (ev : Event) : World := { w with event := ev }

def setPhase (w : World) (phase : EventPhase) : World :=
  w.setEvent { w.event with eventPhase := phase }

/-- Replace the dispatch list of `o`, when its slot holds one. -/
def updateList (w : World) (o : Object) (f : DispatchList → DispatchList) : World :=
  { w with dispatchLists := fun o' =>
      if o' = o then
        match w.dispatchLists o with
        | .list d => .list (f d)
        | slot => slot
      else w.dispatchLists o' }

@[simp] theorem updateList_event (w : World) (o : Object) (f : DispatchList → DispatchList) :
    (w.updateList o f).event = w.event := rfl

end World

/-- What a listener may do to the world during its call. -/
inductive ListenerAction where
  | stopPropagation
  | stopImmediatePropagation
  | cancel
  | addEventListener (target : Object) (event : String) (priority : I32) (handler : Object)
      (useCapture : Bool)
  | removeEventListener (target : Object) (event : String) (handler : Object) (useCapture : Bool)

/-- What one call of a handler does: its actions, in order, and the error it
    ends with, if any. -/
structure ListenerCall where
  actions : List ListenerAction
  error : Option Error

/-- The behaviour of every listener: what a call of a handler does in the world
    it is called in. -/
abbrev Listeners := Object → World → ListenerCall

def World.perform (w : World) : ListenerAction → World
  | .stopPropagation => w.setEvent w.event.stopPropagation
  | .stopImmediatePropagation => w.setEvent w.event.stopImmediatePropagation
  | .cancel => w.setEvent w.event.cancel
  | .addEventListener o e p h c => w.updateList o (·.addEventListener e p h c)
  | .removeEventListener o e h c => w.updateList o (·.removeEventListener e h c)

/-- A `Result<T, Error>` together with the world it leaves. -/
inductive Outcome (α : Type) where
  | ok (a : α) (w : World)
  | error (e : Error) (w : World)

namespace Outcome

variable {α β : Type}

/-- Rust's `?`. -/
def bind : Outcome α → (α → World → Outcome β) → Outcome β
  | .ok a w, f => f a w
  | .error e w, _ => .error e w

def world : Outcome α → World
  | .ok _ w => w
  | .error _ w => w

@[simp] theorem ok_bind (a : α) (w : World) (f : α → World → Outcome β) :
    (ok a w).bind f = f a w := rfl

@[simp] theorem error_bind (e : Error) (w : World) (f : α → World → Outcome β) :
    (error e w).bind f = error e w := rfl

theorem bind_assoc {γ : Type} (x : Outcome α) (f : α → World → Outcome β)
    (g : β → World → Outcome γ) :
    (x.bind f).bind g = x.bind fun a w => (f a w).bind g := by
  cases x <;> rfl

/-- Two continuations that agree on every world `x` can succeed in. -/
theorem bind_congr {x : Outcome α} {f g : α → World → Outcome β}
    (h : ∀ a w, x = ok a w → f a w = g a w) : x.bind f = x.bind g := by
  cases x with
  | ok a w => exact h a w rfl
  | error => rfl

end Outcome

/-! ### `dispatch_event_to_target` -/

def dispatchListMissing : Error := "Internal dispatch list is missing during dispatch!"

/-- `handler.call(global, [event], activation)`: the call is recorded, its
    actions are performed in order, and its error, if any, is returned. -/
def callHandler (ls : Listeners) (handler : Object) (w : World) : Outcome Unit :=
  let w := { w with invoked := w.invoked ++ [handler] }
  let r := ls handler w
  let w' := r.actions.foldl World.perform w
  match r.error with
  | none => .ok () w'
  | some e => .error e w'

/-- The loop over the snapshot: stops before a handler once propagation has
    been stopped immediately, and at the first error. -/
def callHandlers (ls : Listeners) : List Object → World → Outcome Unit
  | [], w => .ok () w
  | h :: hs, w =>
    if w.event.isPropagationStoppedImmediately then .ok () w
    else (callHandler ls h w).bind fun _ => callHandlers ls hs

/-- `dispatch_event_to_target`: an object without a dispatch list is skipped;
    otherwise the event's current target is set, the snapshot of handlers for
    the event type and the phase (`use_capture` iff capturing) is taken, and
    the handlers in it are called. -/
def dispatchEventToTarget (ls : Listeners) (target : Object) (w : World) : Outcome Unit :=
  let w' := w.setEvent { w.event with currentTarget := some target }
  match w.dispatchLists target with
  | .missing => .ok () w
  | .notDispatch => .error dispatchListMissing w'
  | .list d =>
    let snapshot := d.iterEventHandlers w.event.eventType (w.event.eventPhase == .capturing)
    callHandlers ls snapshot.2 (w'.updateList target fun _ => snapshot.1)

/-! ### `dispatch_event` -/

/-- The display hierarchy `parent_of` walks: each object's parent, and a depth
    every parent is strictly below, so the walk to the root ends. -/
structure DisplayTree where
  parentOf : Object → Option Object
  depth : Object → Nat
  depth_lt : ∀ o p, parentOf o = some p → depth p < depth o

/-- The `ancestor_list` of `dispatch_event`: the parent, its parent, and so on
    up to the root. -/
def DisplayTree.ancestors (t : DisplayTree) (o : Object) : List Object :=
  match h : t.parentOf o with
  | none => []
  | some p =>
    have := t.depth_lt o p h
    p :: t.ancestors p
termination_by t.depth o

/-- One phase loop of `dispatch_event`: stops at the first object reached after
    propagation has been stopped, and at the first error. -/
def dispatchEach (ls : Listeners) : List Object → World → Outcome Unit
  | [], w => .ok () w
  | o :: os, w =>
    if w.event.isPropagationStopped then .ok () w
    else (dispatchEventToTarget ls o w).bind fun _ => dispatchEach ls os

/-- The dispatch target: the private `target` slot when it holds an object,
    else the dispatcher itself. -/
def dispatchTarget (w : World) (this : Object) : Object := (w.targets this).getD this

/-- `dispatch_event`: returns whether the event was not cancelled. -/
def dispatchEvent (ls : Listeners) (tree : DisplayTree) (this : Object) (w : World) :
    Outcome Bool :=
  let target := dispatchTarget w this
  let ancestorList := tree.ancestors target
  let w := w.setEvent { w.event with eventPhase := .capturing, target := some target }
  (dispatchEach ls ancestorList.reverse w).bind fun _ w =>
  let w := w.setPhase .atTarget
  (if !w.event.isPropagationStopped then dispatchEventToTarget ls target w else .ok () w).bind
    fun _ w =>
  let w := w.setPhase .bubbling
  (if w.event.bubbles then dispatchEach ls ancestorList w else .ok () w).bind fun _ w =>
  .ok (!w.event.cancelled) w

/-! ### What no step changes -/

/-- What no listener and no dispatch step changes: the event's type, bubbling
    flag and phase; and stopped propagation stays stopped. -/
structure World.Keeps (w w' : World) : Prop where
  eventType : w'.event.eventType = w.event.eventType
  bubbles : w'.event.bubbles = w.event.bubbles
  phase : w'.event.eventPhase = w.event.eventPhase
  stopped : w.event.isPropagationStopped → w'.event.isPropagationStopped

namespace World.Keeps

theorem refl (w : World) : w.Keeps w := ⟨rfl, rfl, rfl, id⟩

theorem trans {w₁ w₂ w₃ : World} (h₁ : w₁.Keeps w₂) (h₂ : w₂.Keeps w₃) : w₁.Keeps w₃ :=
  ⟨h₂.eventType.trans h₁.eventType, h₂.bubbles.trans h₁.bubbles, h₂.phase.trans h₁.phase,
    h₂.stopped ∘ h₁.stopped⟩

/-- A step that leaves the event alone keeps everything. -/
theorem of_event_eq {w w' : World} (h : w'.event = w.event) : w.Keeps w' := by
  constructor <;> simp [h]

end World.Keeps

theorem World.keeps_perform (w : World) (a : ListenerAction) : w.Keeps (w.perform a) := by
  cases a with
  | stopPropagation =>
    unfold perform setEvent Event.stopPropagation
    split_ifs
    · exact ⟨rfl, rfl, rfl, fun _ => rfl⟩
    · exact .refl w
  | stopImmediatePropagation => exact ⟨rfl, rfl, rfl, fun _ => rfl⟩
  | cancel =>
    unfold perform setEvent Event.cancel
    split_ifs
    · exact ⟨rfl, rfl, rfl, id⟩
    · exact .refl w
  | addEventListener => exact .of_event_eq rfl
  | removeEventListener => exact .of_event_eq rfl

theorem World.keeps_foldl_perform :
    ∀ (as : List ListenerAction) (w : World), w.Keeps (as.foldl World.perform w)
  | [], w => .refl w
  | a :: as, w => (w.keeps_perform a).trans (keeps_foldl_perform as _)

/-- A continuation that keeps every world `x` succeeds in. -/
theorem Outcome.keeps_bind {α β : Type} {w : World} {x : Outcome α} {f : α → World → Outcome β}
    (hx : w.Keeps x.world) (hf : ∀ a w', x = .ok a w' → w'.Keeps (f a w').world) :
    w.Keeps (x.bind f).world := by
  cases x with
  | ok a w' => exact hx.trans (hf a w' rfl)
  | error => exact hx

theorem keeps_callHandler (ls : Listeners) (h : Object) (w : World) :
    w.Keeps (callHandler ls h w).world := by
  have h₁ : w.Keeps { w with invoked := w.invoked ++ [h] } := ⟨rfl, rfl, rfl, id⟩
  unfold callHandler
  dsimp only
  split <;> exact h₁.trans (World.keeps_foldl_perform _ _)

theorem keeps_callHandlers (ls : Listeners) :
    ∀ (hs : List Object) (w : World), w.Keeps (callHandlers ls hs w).world
  | [], w => .refl w
  | h :: hs, w => by
    unfold callHandlers
    split
    · exact .refl w
    · exact Outcome.keeps_bind (keeps_callHandler ls h w) fun _ w' _ => keeps_callHandlers ls hs w'

theorem keeps_dispatchEventToTarget (ls : Listeners) (o : Object) (w : World) :
    w.Keeps (dispatchEventToTarget ls o w).world := by
  unfold dispatchEventToTarget
  split
  · exact .refl w
  · exact ⟨rfl, rfl, rfl, id⟩
  · exact (⟨rfl, rfl, rfl, id⟩ : w.Keeps ((w.setEvent { w.event with currentTarget := some o
      }).updateList o fun _ => _)).trans (keeps_callHandlers ls _ _)

/-! ### The three loops as one walk -/

/-- The objects an event visits, with the phase of each visit: the ancestors
    from the root down while capturing, the target, then the ancestors from the
    parent up if the event bubbles. -/
def visits (target : Object) (ancestors : List Object) (bubbles : Bool) :
    List (Object × EventPhase) :=
  ancestors.reverse.map (·, .capturing) ++
    (target, .atTarget) :: if bubbles then ancestors.map (·, .bubbling) else []

/-- One visit made with the code's own steps: the event enters the visit's
    phase, and `dispatch_event_to_target` runs unless propagation has
    stopped. -/
def dispatchVisit (ls : Listeners) (v : Object × EventPhase) (w : World) : Outcome Unit :=
  let w := w.setPhase v.2
  if w.event.isPropagationStopped then .ok () w else dispatchEventToTarget ls v.1 w

def dispatchVisits (ls : Listeners) : List (Object × EventPhase) → World → Outcome Unit
  | [], w => .ok () w
  | v :: vs, w => (dispatchVisit ls v w).bind fun _ => dispatchVisits ls vs

/-- The walk over every visit, with the event left in the bubbling phase. -/
def dispatchWalk (ls : Listeners) (tree : DisplayTree) (this : Object) (w : World) :
    Outcome Bool :=
  let target := dispatchTarget w this
  let w := w.setEvent { w.event with eventPhase := .capturing, target := some target }
  (dispatchVisits ls (visits target (tree.ancestors target) w.event.bubbles) w).bind fun _ w =>
  let w := w.setPhase .bubbling
  .ok (!w.event.cancelled) w

theorem World.setPhase_of_eq {w : World} {ph : EventPhase} (h : w.event.eventPhase = ph) :
    w.setPhase ph = w := by
  subst h; rfl

theorem dispatchVisits_append (ls : Listeners) :
    ∀ (xs ys : List (Object × EventPhase)) (w : World),
      dispatchVisits ls (xs ++ ys) w = (dispatchVisits ls xs w).bind fun _ => dispatchVisits ls ys
  | [], _, _ => rfl
  | x :: xs, ys, w => by
    simp only [List.cons_append, dispatchVisits, Outcome.bind_assoc]
    exact Outcome.bind_congr fun _ w' _ => dispatchVisits_append ls xs ys w'

/-- A visit ends in its own phase. -/
theorem phase_dispatchVisit {ls : Listeners} {v : Object × EventPhase} {w w' : World} {a : Unit}
    (h : dispatchVisit ls v w = .ok a w') : w'.event.eventPhase = v.2 := by
  unfold dispatchVisit at h
  dsimp only at h
  split at h
  · cases h; rfl
  · have := (keeps_dispatchEventToTarget ls v.1 (w.setPhase v.2)).phase
    rw [h] at this; exact this

theorem keeps_dispatchVisit_bubbles (ls : Listeners) (v : Object × EventPhase) (w : World) :
    (dispatchVisit ls v w).world.event.bubbles = w.event.bubbles := by
  unfold dispatchVisit
  dsimp only
  split
  · rfl
  · exact (keeps_dispatchEventToTarget ls v.1 _).bubbles

theorem bubbles_dispatchVisits (ls : Listeners) : ∀ (vs : List (Object × EventPhase)) (w : World)
    (a : Unit) (w' : World), dispatchVisits ls vs w = .ok a w' → w'.event.bubbles = w.event.bubbles
  | [], _, _, _, h => by cases h; rfl
  | v :: vs, w, a, w', h => by
    unfold dispatchVisits at h
    cases hv : dispatchVisit ls v w with
    | error => rw [hv] at h; cases h
    | ok _ w₁ =>
      rw [hv, Outcome.ok_bind] at h
      have := keeps_dispatchVisit_bubbles ls v w
      rw [hv] at this
      exact (bubbles_dispatchVisits ls vs w₁ a w' h).trans this

/-- Once propagation has stopped, every further visit of the phase is skipped. -/
theorem dispatchVisits_of_stopped (ls : Listeners) (ph : EventPhase) :
    ∀ (os : List Object) (w : World), w.event.isPropagationStopped → w.event.eventPhase = ph →
      dispatchVisits ls (os.map (·, ph)) w = .ok () w
  | [], _, _, _ => rfl
  | o :: os, w, hs, hp => by
    simp only [List.map_cons, dispatchVisits, dispatchVisit, World.setPhase_of_eq hp, hs, if_true,
      Outcome.ok_bind]
    exact dispatchVisits_of_stopped ls ph os w hs hp

/-- A phase loop of `dispatch_event`, run with the event in that phase, is the
    walk over the phase's visits. -/
theorem dispatchEach_eq_dispatchVisits (ls : Listeners) (ph : EventPhase) :
    ∀ (os : List Object) (w : World), w.event.eventPhase = ph →
      dispatchEach ls os w = dispatchVisits ls (os.map (·, ph)) w
  | [], _, _ => rfl
  | o :: os, w, hp => by
    simp only [dispatchEach, List.map_cons, dispatchVisits, dispatchVisit, World.setPhase_of_eq hp]
    split
    · exact (dispatchVisits_of_stopped ls ph os w ‹_› hp).symm
    · refine Outcome.bind_congr fun _ w' h => dispatchEach_eq_dispatchVisits ls ph os w' ?_
      have := (keeps_dispatchEventToTarget ls o w).phase
      rw [h] at this; exact this.trans hp

/-- Leaving the event in a phase after the visits of that phase is the same as
    entering the phase before them. -/
theorem dispatchVisits_setPhase (ls : Listeners) (ph : EventPhase) :
    ∀ (os : List Object) (w : World),
      ((dispatchVisits ls (os.map (·, ph)) w).bind fun _ w =>
          let w := w.setPhase ph; Outcome.ok (!w.event.cancelled) w) =
        (dispatchVisits ls (os.map (·, ph)) (w.setPhase ph)).bind fun _ w =>
          Outcome.ok (!w.event.cancelled) w
  | [], _ => rfl
  | o :: os, w => by
    simp only [List.map_cons, dispatchVisits, Outcome.bind_assoc]
    refine Outcome.bind_congr fun _ w' h => ?_
    rw [dispatchVisits_setPhase ls ph os w', World.setPhase_of_eq (phase_dispatchVisit h)]

/-- The capturing loop, the target and the bubbling loop, each with the phase
    set once before it and stopping at the first object reached after
    propagation has stopped, make exactly the visits of `visits` in order,
    each skipped once propagation has stopped, and abort at the first
    error. -/
theorem dispatchEvent_eq_dispatchWalk (ls : Listeners) (tree : DisplayTree) (this : Object)
    (w : World) : dispatchEvent ls tree this w = dispatchWalk ls tree this w := by
  unfold dispatchEvent dispatchWalk visits
  dsimp only
  generalize dispatchTarget w this = t
  generalize hw₀ : w.setEvent { w.event with eventPhase := .capturing, target := some t } = w₀
  have hp₀ : w₀.event.eventPhase = .capturing := by rw [← hw₀]; rfl
  rw [dispatchEach_eq_dispatchVisits ls .capturing _ w₀ hp₀, dispatchVisits_append,
    Outcome.bind_assoc]
  refine Outcome.bind_congr fun _ w₁ h₁ => ?_
  simp only [dispatchVisits, dispatchVisit, Outcome.bind_assoc]
  have htarget : ∀ (b : Bool) (x y : Outcome Unit), (if (!b) = true then x else y) =
      if b = true then y else x := by intro b x y; cases b <;> rfl
  rw [htarget]
  refine Outcome.bind_congr fun _ w₂ h₂ => ?_
  have hb : w₂.event.bubbles = w₀.event.bubbles := by
    have := keeps_dispatchVisit_bubbles ls (t, .atTarget) w₁
    unfold dispatchVisit at this; dsimp only at this; rw [h₂] at this
    exact this.trans (bubbles_dispatchVisits ls _ w₀ _ w₁ h₁)
  have hb' : (w₂.setPhase .bubbling).event.bubbles = w₀.event.bubbles := hb
  rw [hb']
  cases w₀.event.bubbles
  · rfl
  · rw [if_pos rfl, if_pos rfl, dispatchEach_eq_dispatchVisits ls .bubbling _ _ rfl]
    exact (dispatchVisits_setPhase ls .bubbling _ w₂).symm

/-! ### The reference dispatch

What dispatch is for, written without the code's loops and without the
`Event` methods: the event's flags are read and written as fields, every
object of `visits` is visited in turn, and at each the snapshot of its
handlers is called up to and including the first call that fails or leaves
propagation stopped immediately. -/

namespace Reference

/-- What a listener's action does: `stop_propagation` stops the event unless
    it was stopped immediately, `stop_immediate_propagation` stops it
    immediately, `cancel` cancels it if it is cancelable, and the listener
    calls add to or remove from the dispatch list of the object they name. -/
def perform (w : World) : ListenerAction → World
  | .stopPropagation => { w with event := { w.event with
      propagation := if w.event.propagation = .stopImmediate then .stopImmediate else .stop } }
  | .stopImmediatePropagation => { w with event := { w.event with propagation := .stopImmediate } }
  | .cancel => { w with event := { w.event with
      cancelled := w.event.cancelled || w.event.cancelable } }
  | .addEventListener o e p h c => w.updateList o (·.addEventListener e p h c)
  | .removeEventListener o e h c => w.updateList o (·.removeEventListener e h c)

/-- The handlers of a snapshot, each called in turn — the call recorded, its
    actions performed — up to and including the first call that fails, whose
    error ends the dispatch, or that leaves propagation stopped
    immediately. -/
def callSnapshot (ls : Listeners) : List Object → World → Outcome Unit
  | [], w => .ok () w
  | h :: hs, w =>
    let w := { w with invoked := w.invoked ++ [h] }
    let r := ls h w
    let w := r.actions.foldl perform w
    match r.error with
    | some e => .error e w
    | none => if w.event.propagation = .stopImmediate then .ok () w else callSnapshot ls hs w

/-- A visit: the event enters the visit's phase, and the object is skipped
    once propagation has stopped.  Otherwise an object with no dispatch list
    is passed over and one whose slot holds something else fails; an object
    with one becomes the current target, and the handlers registered on it
    for the event type, capturing or not as the phase is, are read at that
    moment and called. -/
def visit (ls : Listeners) (v : Object × EventPhase) (w : World) : Outcome Unit :=
  let w := { w with event := { w.event with eventPhase := v.2 } }
  if w.event.propagation ≠ .allow then .ok () w
  else
    let w' := { w with event := { w.event with currentTarget := some v.1 } }
    match w.dispatchLists v.1 with
    | .missing => .ok () w
    | .notDispatch => .error dispatchListMissing w'
    | .list d =>
      let snapshot := d.iterEventHandlers w.event.eventType (v.2 == .capturing)
      callSnapshot ls snapshot.2 (w'.updateList v.1 fun _ => snapshot.1)

def visitAll (ls : Listeners) : List (Object × EventPhase) → World → Outcome Unit
  | [], w => .ok () w
  | v :: vs, w => (visit ls v w).bind fun _ => visitAll ls vs

end Reference

/-- The reference dispatch: the event gets its target and starts capturing,
    every visit of `visits` is made in order up to the first error, and the
    event is left in the bubbling phase; the result is whether it was not
    cancelled. -/
def referenceDispatch (ls : Listeners) (tree : DisplayTree) (this : Object) (w : World) :
    Outcome Bool :=
  let target := dispatchTarget w this
  let w := { w with event := { w.event with eventPhase := .capturing, target := some target } }
  (Reference.visitAll ls (visits target (tree.ancestors target) w.event.bubbles) w).bind
    fun _ w => .ok (!w.event.cancelled) { w with event := { w.event with eventPhase := .bubbling } }

/-! ### The code against the reference -/

/-- The `Event` methods do what the reference does to the event's fields. -/
theorem World.perform_eq_reference : World.perform = Reference.perform := by
  funext w a
  obtain ⟨⟨bubbles, cancelable, cancelled, propagation, _, _, _, _⟩, _, _, _⟩ := w
  cases a <;> try rfl
  · cases propagation <;> rfl
  · cases cancelable <;> cases cancelled <;> rfl

/-- Over a snapshot entered with propagation not stopped immediately,
    checking before each call, as the code does, stops after the same call as
    checking after it. -/
theorem callHandlers_eq_callSnapshot (ls : Listeners) : ∀ (hs : List Object) (w : World),
    w.event.propagation ≠ .stopImmediate → callHandlers ls hs w = Reference.callSnapshot ls hs w
  | [], _, _ => rfl
  | h :: hs, w, hw => by
    have hnot : w.event.isPropagationStoppedImmediately = false := by
      simpa [Event.isPropagationStoppedImmediately] using hw
    simp only [callHandlers, hnot, Bool.false_eq_true, if_false, callHandler,
      World.perform_eq_reference, Reference.callSnapshot]
    cases (ls h { w with invoked := w.invoked ++ [h] }).error with
    | some e => rfl
    | none =>
      dsimp only [Outcome.ok_bind]
      split
      · rename_i hstop
        cases hs with
        | nil => rfl
        | cons => simp [callHandlers, Event.isPropagationStoppedImmediately, hstop]
      · exact callHandlers_eq_callSnapshot ls hs _ ‹_›

/-- Of two handlers, the first stopping propagation immediately, only the
    first is called, by the code and by the reference alike. -/
example :
    let ls : Listeners := fun h _ => ⟨if h = ⟨1⟩ then [.stopImmediatePropagation] else [], none⟩
    let w : World := ⟨⟨false, false, false, .allow, none, .atTarget, none, "click"⟩,
      fun _ => .missing, fun _ => none, []⟩
    (callHandlers ls [⟨1⟩, ⟨2⟩] w).world.invoked = [⟨1⟩] ∧
      (Reference.callSnapshot ls [⟨1⟩, ⟨2⟩] w).world.invoked = [⟨1⟩] := ⟨rfl, rfl⟩

theorem dispatchVisit_eq_reference (ls : Listeners) (v : Object × EventPhase) (w : World) :
    dispatchVisit ls v w = Reference.visit ls v w := by
  simp only [dispatchVisit, Reference.visit, World.setPhase, World.setEvent,
    Event.isPropagationStopped, bne_iff_ne, ne_eq]
  split_ifs with hp
  · simp only [dispatchEventToTarget]
    split
    · rfl
    · rfl
    · exact callHandlers_eq_callSnapshot ls _ _ (by simp [World.setEvent, hp])
  · rfl

theorem dispatchVisits_eq_reference (ls : Listeners) :
    ∀ (vs : List (Object × EventPhase)) (w : World),
      dispatchVisits ls vs w = Reference.visitAll ls vs w
  | [], _ => rfl
  | v :: vs, w => by
    simp only [dispatchVisits, Reference.visitAll, dispatchVisit_eq_reference]
    exact Outcome.bind_congr fun _ w' _ => dispatchVisits_eq_reference ls vs w'

end RuffleAvm
