/-
  RuffleAvm/Desktop/EventLoop.lean
  ================================
  **The desktop player's event loop** (`desktop/src/main.rs`, `App::run`):
  the closure winit calls on every event, with what it keeps between calls —
  the mouse position, the time of the last tick and of the next frame,
  whether the window is minimized, and whether Alt+Enter is held — and the
  control flow it hands back to winit.

  The player, the window and the executor are not in this source.  The calls
  the closure makes on them are its output, in order; the two answers it
  reads back from the player (`needs_render`, `time_til_next_frame`) come
  from an abstract player state that those calls change.  A stage call
  (`player.update`) is the `StageOp` of `Stage/Operations.lean` it runs.
  The key tables `winit_to_ruffle_key_code` and `winit_key_to_char` are
  parameters.  Over every run of events:

  * Alt+Enter toggles fullscreen once per press: the toggles are exactly the
    Alt+Enter presses made while `fullscreen_down` is clear, and since only
    an Enter release clears it they are at most the Enter releases plus one
    (`toggles_run_eq`) — holding the keys toggles once;
  * with a movie, `ControlFlow::Exit` is never left once set (`exit_run`);
    with none, every event sets `Wait` first, so the flow after an event is
    `Exit` exactly for `CloseRequested` (`controlFlow_handle_of_no_movie`),
    and the loop stays stopped only by winit's own rule;
  * with a movie, the window counts as minimized exactly when the last
    resize was to zero by zero (`minimized_run`), which is what keeps a
    redraw from rendering.

  The frame loop of `run_timedemo` runs at most `MAX_FRAMES` frames, and
  stops early only once the current frame is no longer before the movie's
  frame count (`timedemoLoop_exit`); the comparison is `Option<u16>`'s, in
  which no current frame at all is before every frame count.
-/
import RuffleAvm.Stage.Operations

namespace RuffleAvm

namespace Desktop

/-! ### What winit hands the closure -/

/-- `ElementState`. -/
inductive ElementState
  | pressed
  | released
deriving DecidableEq, Repr

/-- `VirtualKeyCode`: the loop tells apart Enter and Escape; every other key
    is `other`, with its code. -/
inductive VirtualKeyCode
  | «return»
  | escape
  | other (code : Nat)
deriving DecidableEq, Repr

/-- `ModifiersState`, the two bits the loop reads. -/
structure ModifiersState where
  alt : Bool
  shift : Bool
deriving DecidableEq, Repr

/-- `KeyboardInput`. -/
structure KeyboardInput where
  state : ElementState
  virtualKeycode : Option VirtualKeyCode
  modifiers : ModifiersState
deriving DecidableEq, Repr

/-- winit's `MouseButton`. -/
inductive WinitMouseButton
  | left
  | right
  | middle
  | other (id : UInt16)
deriving DecidableEq, Repr

/-- `MouseScrollDelta`; a line delta's `f32`s widen exactly. -/
inductive MouseScrollDelta
  | lineDelta (dx dy : F64)
  | pixelDelta (x y : F64)
deriving DecidableEq, Repr

/-- `WindowEvent`, the variants the closure matches; the rest are `other`. -/
inductive WindowEvent
  | closeRequested
  | keyboardInput (input : KeyboardInput)
  | resized (width height : UInt32)
  | cursorMoved (x y : F64)
  | mouseInput (button : WinitMouseButton) (state : ElementState)
  | mouseWheel (delta : MouseScrollDelta)
  | cursorLeft
  | receivedCharacter (codepoint : Char)
  | other
deriving DecidableEq, Repr

/-- `Event`.  `MainEventsCleared` carries `Instant::now()` as the closure reads
    it, in microseconds; `UserEvent(RuffleEvent::TaskPoll)` is `taskPoll`. -/
inductive Event
  | loopDestroyed
  | windowEvent (event : WindowEvent)
  | mainEventsCleared (now : Nat)
  | redrawRequested
  | taskPoll
  | other
deriving DecidableEq, Repr

/-- `ControlFlow`; `waitUntil` holds an `Instant` in microseconds. -/
inductive ControlFlow
  | poll
  | wait
  | waitUntil (time : Nat)
  | exit
deriving DecidableEq, Repr

/-! ### What the closure hands the player -/

/-- ruffle's `MouseButton`. -/
inductive MouseButton
  | left
  | right
  | middle
  | unknown
deriving DecidableEq, Repr

/-- `MouseWheelDelta`. -/
inductive MouseWheelDelta
  | lines (dy : F64)
  | pixels (dy : F64)
deriving DecidableEq, Repr

/-- `PlayerEvent`, over the key codes of the key table. -/
inductive PlayerEvent (KeyCode : Type)
  | mouseMove (x y : F64)
  | mouseDown (x y : F64) (button : MouseButton)
  | mouseUp (x y : F64) (button : MouseButton)
  | mouseWheel (delta : MouseWheelDelta)
  | mouseLeave
  | keyDown (keyCode : KeyCode) (keyChar : Option Char)
  | keyUp (keyCode : KeyCode) (keyChar : Option Char)
  | textInput (codepoint : Char)
deriving DecidableEq, Repr

/-- A call the closure makes on the player, the window or the executor. -/
inductive Call (KeyCode : Type)
  | flushSharedObjects
  | shutdown
  /-- `player.update(|uc| ...)` running one operation on the stage. -/
  | update (op : StageOp)
  /-- `player.tick(dt as f64 / 1000.0)`, recorded by the microseconds `dt`
      the milliseconds are computed from: the `f64` conversion and division
      are the player's. -/
  | tick (dt : Nat)
  | render
  | requestRedraw
  | setViewportDimensions (width height : UInt32) (scaleFactor : F64)
  | rendererSetViewportDimensions (width height : UInt32)
  | handleEvent (event : PlayerEvent KeyCode)
  | pollAll
deriving DecidableEq, Repr

/-- What the closure reads back from the player, and what its calls do to it. -/
structure Player (KeyCode P : Type) where
  perform : Call KeyCode → P → P
  needsRender : P → Bool
  timeTilNextFrame : P → Nat

/-- What the closure keeps between calls, and the control flow it hands back. -/
structure LoopState (P : Type) where
  player : P
  mousePos : F64 × F64
  time : Nat
  nextFrameTime : Nat
  minimized : Bool
  fullscreenDown : Bool
  controlFlow : ControlFlow

/-! ### The closure -/

section Closure

variable {K P : Type} (pl : Player K P) (winitToRuffleKeyCode : VirtualKeyCode → K)
  (winitKeyToChar : VirtualKeyCode → Bool → Option Char) (scaleFactor : F64) (hasMovie : Bool)

/-- Make a call: the player takes it, and it is recorded after the others. -/
def call (out : LoopState P × List (Call K)) (c : Call K) : LoopState P × List (Call K) :=
  ({ out.1 with player := pl.perform c out.1.player }, out.2 ++ [c])

/-- `player_lock.handle_event(event)`, then a redraw if the player needs one. -/
def handleEventThenRedraw (out : LoopState P × List (Call K)) (event : PlayerEvent K) :
    LoopState P × List (Call K) :=
  let out := call pl out (.handleEvent event)
  if pl.needsRender out.1.player then call pl out .requestRedraw else out

/-- The closure's first `match`: `LoopDestroyed`, `CloseRequested`, and the
    fullscreen keys.  The flag is `false` where the closure returns. -/
def firstMatch (out : LoopState P × List (Call K)) : Event → (LoopState P × List (Call K)) × Bool
  | .loopDestroyed => (call pl (call pl out .flushSharedObjects) .shutdown, false)
  | .windowEvent .closeRequested => (({ out.1 with controlFlow := .exit }, out.2), true)
  | .windowEvent (.keyboardInput ⟨.pressed, some .return, modifiers⟩) =>
    if modifiers.alt then
      let out := if !out.1.fullscreenDown then call pl out (.update .toggleDisplayState) else out
      (({ out.1 with fullscreenDown := true }, out.2), false)
    else (out, true)
  | .windowEvent (.keyboardInput ⟨.released, some .return, _⟩) =>
    if out.1.fullscreenDown then (({ out.1 with fullscreenDown := false }, out.2), true)
    else (out, true)
  | .windowEvent (.keyboardInput ⟨.pressed, some .escape, _⟩) =>
    (call pl out (.update (.setDisplayState .normal)), true)
  | _ => (out, true)

/-- The closure's second `match`, reached only with a movie. -/
def secondMatch (out : LoopState P × List (Call K)) : Event → LoopState P × List (Call K)
  | .mainEventsCleared now =>
    let dt := now - out.1.time
    if 0 < dt then
      let out := call pl ({ out.1 with time := now }, out.2) (.tick dt)
      let out := ({ out.1 with nextFrameTime := now + pl.timeTilNextFrame out.1.player }, out.2)
      if pl.needsRender out.1.player then call pl out .requestRedraw else out
    else out
  | .redrawRequested => if !out.1.minimized then call pl out .render else out
  | .windowEvent (.resized width height) =>
    let out := ({ out.1 with minimized := width == 0 && height == 0 }, out.2)
    let out := call pl out (.setViewportDimensions width height scaleFactor)
    call pl (call pl out (.rendererSetViewportDimensions width height)) .requestRedraw
  | .windowEvent (.cursorMoved x y) =>
    handleEventThenRedraw pl ({ out.1 with mousePos := (x, y) }, out.2) (.mouseMove x y)
  | .windowEvent (.mouseInput button state) =>
    let button := match button with
      | .left => .left
      | .right => .right
      | .middle => .middle
      | .other _ => .unknown
    handleEventThenRedraw pl out <| match state with
      | .pressed => .mouseDown out.1.mousePos.1 out.1.mousePos.2 button
      | .released => .mouseUp out.1.mousePos.1 out.1.mousePos.2 button
  | .windowEvent (.mouseWheel delta) =>
    handleEventThenRedraw pl out <| .mouseWheel <| match delta with
      | .lineDelta _ dy => .lines dy
      | .pixelDelta _ y => .pixels y
  | .windowEvent .cursorLeft => handleEventThenRedraw pl out .mouseLeave
  | .windowEvent (.keyboardInput input) =>
    match input.virtualKeycode with
    | some key =>
      let keyCode := winitToRuffleKeyCode key
      let keyChar := winitKeyToChar key input.modifiers.shift
      handleEventThenRedraw pl out <| match input.state with
        | .pressed => .keyDown keyCode keyChar
        | .released => .keyUp keyCode keyChar
    | none => out
  | .windowEvent (.receivedCharacter codepoint) => handleEventThenRedraw pl out (.textInput codepoint)
  | .taskPoll => call pl out .pollAll
  | _ => out

/-- What the closure does first: `Wait` without a movie. -/
def start (s : LoopState P) : LoopState P := if hasMovie then s else { s with controlFlow := .wait }

/-- What the closure does last: wait until the next frame, unless exiting. -/
def waitForNextFrame (out : LoopState P × List (Call K)) : LoopState P × List (Call K) :=
  if out.1.controlFlow ≠ .exit then ({ out.1 with controlFlow := .waitUntil out.1.nextFrameTime }, out.2)
  else out

/-- The closure on one event: `start`; the first `match`; without a movie,
    nothing more; the second `match`; `waitForNextFrame`. -/
def handle (s : LoopState P) (event : Event) : LoopState P × List (Call K) :=
  let (out, continues) := firstMatch pl (start hasMovie s, []) event
  if continues && hasMovie then
    waitForNextFrame (secondMatch pl winitToRuffleKeyCode winitKeyToChar scaleFactor out event)
  else out

/-- The closure on each event in turn, with every call it makes. -/
def run (s : LoopState P) : List Event → LoopState P × List (Call K)
  | [] => (s, [])
  | e :: es =>
    let r := handle pl winitToRuffleKeyCode winitKeyToChar scaleFactor hasMovie s e
    let rest := run r.1 es
    (rest.1, r.2 ++ rest.2)

/-- A player with no state, that never needs a render and is always due. -/
def silentPlayer : Player Unit Unit := ⟨fun _ _ => (), fun _ => false, fun _ => 0⟩

/-- A loop at time zero, Enter not held, waiting. -/
def idleLoop : LoopState Unit := ⟨(), (.finite 0, .finite 0), 0, 0, false, false, .wait⟩

/-- An Alt+Enter press. -/
def altReturnPress : Event := .windowEvent (.keyboardInput ⟨.pressed, some .return, ⟨true, false⟩⟩)

/-- An Enter release. -/
def returnRelease : Event := .windowEvent (.keyboardInput ⟨.released, some .return, ⟨true, false⟩⟩)

end Closure

/-! ### What a call leaves alone -/

section Frame

variable {K P : Type} (pl : Player K P)

/-- A toggle of the display state. -/
def Call.isToggle : Call K → Bool
  | .update .toggleDisplayState => true
  | _ => false

/-- The toggles among some calls. -/
def toggles (calls : List (Call K)) : Nat := calls.countP Call.isToggle

/-- The toggle `fullscreen_down` holds in reserve: one while Enter is not held. -/
def credit (s : LoopState P) : Nat := if s.fullscreenDown then 0 else 1

variable (out : LoopState P × List (Call K)) (c : Call K)

@[simp] theorem call_controlFlow : (call pl out c).1.controlFlow = out.1.controlFlow := rfl

@[simp] theorem call_fullscreenDown : (call pl out c).1.fullscreenDown = out.1.fullscreenDown := rfl

@[simp] theorem call_minimized : (call pl out c).1.minimized = out.1.minimized := rfl

@[simp] theorem toggles_call :
    toggles (call pl out c).2 = toggles out.2 + if c.isToggle then 1 else 0 := by
  simp only [toggles, call, List.countP_append, List.countP_singleton]

@[simp] theorem toggles_append (calls calls' : List (Call K)) :
    toggles (calls ++ calls') = toggles calls + toggles calls' :=
  List.countP_append _ _ _

@[simp] theorem handleEventThenRedraw_controlFlow (ev : PlayerEvent K) :
    (handleEventThenRedraw pl out ev).1.controlFlow = out.1.controlFlow := by
  simp only [handleEventThenRedraw]; split <;> rfl

@[simp] theorem handleEventThenRedraw_fullscreenDown (ev : PlayerEvent K) :
    (handleEventThenRedraw pl out ev).1.fullscreenDown = out.1.fullscreenDown := by
  simp only [handleEventThenRedraw]; split <;> rfl

@[simp] theorem handleEventThenRedraw_minimized (ev : PlayerEvent K) :
    (handleEventThenRedraw pl out ev).1.minimized = out.1.minimized := by
  simp only [handleEventThenRedraw]; split <;> rfl

@[simp] theorem toggles_handleEventThenRedraw (ev : PlayerEvent K) :
    toggles (handleEventThenRedraw pl out ev).2 = toggles out.2 := by
  simp only [handleEventThenRedraw]; split <;> simp [Call.isToggle]

end Frame

/-! ### One event -/

section Step

variable {K P : Type} (pl : Player K P) (winitToRuffleKeyCode : VirtualKeyCode → K)
  (winitKeyToChar : VirtualKeyCode → Bool → Option Char) (scaleFactor : F64) (hasMovie : Bool)
  (out : LoopState P × List (Call K))

/-- What the second `match` leaves alone: the control flow, the keys' flag,
    and the toggles made. -/
structure Keeps (out out' : LoopState P × List (Call K)) : Prop where
  controlFlow : out'.1.controlFlow = out.1.controlFlow
  fullscreenDown : out'.1.fullscreenDown = out.1.fullscreenDown
  toggles : toggles out'.2 = toggles out.2

theorem keeps_secondMatch (e : Event) :
    Keeps out (secondMatch pl winitToRuffleKeyCode winitKeyToChar scaleFactor out e) := by
  unfold secondMatch
  split <;> (try dsimp only) <;> (try split_ifs) <;> (try split) <;>
    constructor <;> simp [Call.isToggle]

/-- The minimized flag after an event: a resize's to zero by zero, or the
    flag before. -/
def minimizedAfter (minimized : Bool) : Event → Bool
  | .windowEvent (.resized width height) => width == 0 && height == 0
  | _ => minimized

/-- The second `match` sets the minimized flag on a resize, and only there. -/
theorem secondMatch_minimized (e : Event) :
    (secondMatch pl winitToRuffleKeyCode winitKeyToChar scaleFactor out e).1.minimized =
      minimizedAfter out.1.minimized e := by
  unfold secondMatch minimizedAfter
  split <;> simp only [call_minimized, handleEventThenRedraw_minimized] <;> (try split_ifs) <;>
    (try split) <;> simp

/-- An Enter release. -/
def Event.isReturnRelease : Event → Bool
  | .windowEvent (.keyboardInput ⟨.released, some .return, _⟩) => true
  | _ => false

/-- An Alt+Enter press. -/
def Event.isAltReturnPress : Event → Bool
  | .windowEvent (.keyboardInput ⟨.pressed, some .return, modifiers⟩) => modifiers.alt
  | _ => false

/-- Whether Enter counts as held after an event: an Alt+Enter press holds it
    and an Enter release lets go of it. -/
def fullscreenDownAfter (down : Bool) (e : Event) : Bool :=
  if e.isAltReturnPress then true else if e.isReturnRelease then false else down

/-- The first `match` toggles exactly on an Alt+Enter press made while Enter
    is not held, and tracks whether it is held. -/
theorem firstMatch_fullscreen (e : Event) :
    toggles (firstMatch pl out e).1.2 =
        toggles out.2 + (if e.isAltReturnPress && !out.1.fullscreenDown then 1 else 0) ∧
      (firstMatch pl out e).1.1.fullscreenDown = fullscreenDownAfter out.1.fullscreenDown e := by
  unfold firstMatch
  split
  · simp [fullscreenDownAfter, Event.isAltReturnPress, Event.isReturnRelease, Call.isToggle]
  · simp [fullscreenDownAfter, Event.isAltReturnPress, Event.isReturnRelease]
  · split
    · cases h : out.1.fullscreenDown <;>
        simp [fullscreenDownAfter, Event.isAltReturnPress, Call.isToggle, h, *]
    · simp [fullscreenDownAfter, Event.isAltReturnPress, Event.isReturnRelease, *]
  · split <;> simp [fullscreenDownAfter, Event.isAltReturnPress, Event.isReturnRelease, *]
  · simp [fullscreenDownAfter, Event.isAltReturnPress, Event.isReturnRelease, Call.isToggle]
  · rename_i hpress hrelease _
    have ha : e.isAltReturnPress = false := by
      unfold Event.isAltReturnPress; split
      · exact (hpress _ rfl).elim
      · rfl
    have hr : e.isReturnRelease = false := by
      unfold Event.isReturnRelease; split
      · exact (hrelease _ rfl).elim
      · rfl
    simp [fullscreenDownAfter, ha, hr]

theorem firstMatch_controlFlow (e : Event) :
    (firstMatch pl out e).1.1.controlFlow =
      if e = .windowEvent .closeRequested then .exit else out.1.controlFlow := by
  unfold firstMatch
  split <;> (try split) <;> (try split) <;> simp_all

theorem firstMatch_minimized (e : Event) :
    (firstMatch pl out e).1.1.minimized = out.1.minimized := by
  unfold firstMatch
  split <;> (try split) <;> (try split) <;> simp_all

/-- The events the closure returns early on are not resizes. -/
theorem minimizedAfter_of_firstMatch (e : Event) (h : (firstMatch pl out e).2 = false) (m : Bool) :
    minimizedAfter m e = m := by
  unfold firstMatch at h
  unfold minimizedAfter
  split <;> simp_all

@[simp] theorem start_fullscreenDown (s : LoopState P) :
    (start hasMovie s).fullscreenDown = s.fullscreenDown := by
  unfold start; split <;> rfl

@[simp] theorem waitForNextFrame_fullscreenDown :
    (waitForNextFrame out).1.fullscreenDown = out.1.fullscreenDown := by
  unfold waitForNextFrame; split <;> rfl

@[simp] theorem waitForNextFrame_minimized : (waitForNextFrame out).1.minimized = out.1.minimized := by
  unfold waitForNextFrame; split <;> rfl

@[simp] theorem toggles_waitForNextFrame : toggles (waitForNextFrame out).2 = toggles out.2 := by
  unfold waitForNextFrame; split <;> rfl

theorem waitForNextFrame_controlFlow :
    (waitForNextFrame out).1.controlFlow =
      if out.1.controlFlow = .exit then .exit else .waitUntil out.1.nextFrameTime := by
  unfold waitForNextFrame; split <;> simp_all

/-- One event toggles exactly when it is an Alt+Enter press made while Enter
    is not held. -/
theorem fullscreen_handle (s : LoopState P) (e : Event) :
    toggles (handle pl winitToRuffleKeyCode winitKeyToChar scaleFactor hasMovie s e).2 =
        (if e.isAltReturnPress && !s.fullscreenDown then 1 else 0) ∧
      (handle pl winitToRuffleKeyCode winitKeyToChar scaleFactor hasMovie s e).1.fullscreenDown =
        fullscreenDownAfter s.fullscreenDown e := by
  have h1 := firstMatch_fullscreen pl (start hasMovie s, []) e
  rw [start_fullscreenDown] at h1
  unfold handle
  generalize firstMatch pl (start hasMovie s, []) e = r at h1 ⊢
  obtain ⟨out, continues⟩ := r
  dsimp only at h1 ⊢
  split
  · have hk := keeps_secondMatch pl winitToRuffleKeyCode winitKeyToChar scaleFactor out e
    simp only [waitForNextFrame_fullscreenDown, toggles_waitForNextFrame, hk.fullscreenDown,
      hk.toggles]
    simpa [toggles] using h1
  · simpa [toggles] using h1

/-- With a movie, a loop told to exit stays told to. -/
theorem controlFlow_handle_of_exit (s : LoopState P) (e : Event) (hexit : s.controlFlow = .exit) :
    (handle pl winitToRuffleKeyCode winitKeyToChar scaleFactor true s e).1.controlFlow = .exit := by
  have h1 := firstMatch_controlFlow pl (s, []) e
  simp only [hexit, ite_self] at h1
  simp only [handle, start, if_true, Bool.and_true]
  split
  · rw [waitForNextFrame_controlFlow,
      (keeps_secondMatch pl winitToRuffleKeyCode winitKeyToChar scaleFactor _ e).controlFlow, h1,
      if_pos rfl]
  · exact h1

/-- With no movie, the closure sets `Wait` before anything else, so the flow
    it hands back is `Exit` exactly for `CloseRequested`, whatever it was. -/
theorem controlFlow_handle_of_no_movie (s : LoopState P) (e : Event) :
    (handle pl winitToRuffleKeyCode winitKeyToChar scaleFactor false s e).1.controlFlow =
      if e = .windowEvent .closeRequested then .exit else .wait := by
  simp only [handle, Bool.and_false, if_false]
  exact firstMatch_controlFlow pl _ e

/-- Without a movie, a loop told to exit is told to wait by the next event. -/
example :
    (handle silentPlayer (fun _ => ()) (fun _ _ => none) (.finite 1) false
      { idleLoop with controlFlow := .exit } .redrawRequested).1.controlFlow = .wait := rfl

/-- With a movie, the minimized flag follows the resizes. -/
theorem minimized_handle (s : LoopState P) (e : Event) :
    (handle pl winitToRuffleKeyCode winitKeyToChar scaleFactor true s e).1.minimized =
      minimizedAfter s.minimized e := by
  have h1 := firstMatch_minimized pl (s, []) e
  simp only [handle, start, if_true, Bool.and_true]
  split
  · rw [waitForNextFrame_minimized, secondMatch_minimized, h1]
  · rename_i hstop
    rw [h1, minimizedAfter_of_firstMatch pl (s, []) e (by simpa using hstop)]

end Step

/-! ### Every run -/

section Run

variable {K P : Type} (pl : Player K P) (winitToRuffleKeyCode : VirtualKeyCode → K)
  (winitKeyToChar : VirtualKeyCode → Bool → Option Char) (scaleFactor : F64)

/-- The Enter releases among some events. -/
def returnReleases (events : List Event) : Nat := events.countP Event.isReturnRelease

/-- The Alt+Enter presses of some events made while Enter is not held, from
    whether it is held at the start. -/
def freshPresses : Bool → List Event → Nat
  | _, [] => 0
  | down, e :: es =>
    (if e.isAltReturnPress && !down then 1 else 0) + freshPresses (fullscreenDownAfter down e) es

theorem toggles_run_eq_freshPresses (hasMovie : Bool) : ∀ (s : LoopState P) (events : List Event),
    toggles (run pl winitToRuffleKeyCode winitKeyToChar scaleFactor hasMovie s events).2 =
      freshPresses s.fullscreenDown events
  | _, [] => rfl
  | s, e :: es => by
    obtain ⟨ht, hd⟩ := fullscreen_handle pl winitToRuffleKeyCode winitKeyToChar scaleFactor hasMovie s e
    simp only [run, toggles_append, ht, toggles_run_eq_freshPresses hasMovie _ es, hd, freshPresses]

/-- The debounce toggles at most once per Enter release, and once more if
    Enter is not held at the start. -/
theorem freshPresses_le : ∀ (down : Bool) (events : List Event),
    freshPresses down events ≤ returnReleases events + if down then 0 else 1
  | _, [] => Nat.zero_le _
  | down, e :: es => by
    have ih := freshPresses_le (fullscreenDownAfter down e) es
    simp only [freshPresses, returnReleases, List.countP_cons, fullscreenDownAfter] at ih ⊢
    cases ha : e.isAltReturnPress <;> cases hr : e.isReturnRelease <;> cases down <;>
      simp [ha, hr] at ih ⊢ <;> omega

/-- Over any run, the toggles are at most the Enter releases, plus one if
    Enter was not held at the start. -/
theorem toggles_run_le (hasMovie : Bool) (s : LoopState P) (events : List Event) :
    toggles (run pl winitToRuffleKeyCode winitKeyToChar scaleFactor hasMovie s events).2 ≤
      returnReleases events + credit s := by
  rw [toggles_run_eq_freshPresses]
  exact freshPresses_le s.fullscreenDown events

/-- Alt+Enter toggles fullscreen once per press: over any run, the toggles
    are exactly the Alt+Enter presses made while Enter is not held — Enter
    counts as held from such a press until an Enter release — so they are at
    most the Enter releases, plus one if Enter was not held at the start.
    Holding Alt+Enter, which repeats the press, toggles once. -/
theorem toggles_run_eq (hasMovie : Bool) (s : LoopState P) (events : List Event) :
    toggles (run pl winitToRuffleKeyCode winitKeyToChar scaleFactor hasMovie s events).2 =
        freshPresses s.fullscreenDown events ∧
      toggles (run pl winitToRuffleKeyCode winitKeyToChar scaleFactor hasMovie s events).2 ≤
        returnReleases events + credit s :=
  ⟨toggles_run_eq_freshPresses pl winitToRuffleKeyCode winitKeyToChar scaleFactor hasMovie s events,
    toggles_run_le pl winitToRuffleKeyCode winitKeyToChar scaleFactor hasMovie s events⟩

/-- Three repeated presses toggle once; after a release, a press toggles again. -/
example :
    toggles (run silentPlayer (fun _ => ()) (fun _ _ => none) (.finite 1) true idleLoop
      [altReturnPress, altReturnPress, altReturnPress, returnRelease, altReturnPress]).2 = 2 := rfl

/-- With a movie, `Exit` is never left once set. -/
theorem exit_run : ∀ (s : LoopState P) (events : List Event), s.controlFlow = .exit →
    (run pl winitToRuffleKeyCode winitKeyToChar scaleFactor true s events).1.controlFlow = .exit
  | _, [], hexit => hexit
  | s, e :: es, hexit =>
    exit_run _ es (controlFlow_handle_of_exit pl winitToRuffleKeyCode winitKeyToChar scaleFactor s e hexit)

theorem exit_run_after_keys :
    ({ idleLoop with controlFlow := .exit } : LoopState Unit).controlFlow = .exit ∧
      (run silentPlayer (fun _ => ()) (fun _ _ => none) (.finite 1) true
        { idleLoop with controlFlow := .exit }
        [altReturnPress, .mainEventsCleared 5, .redrawRequested]).1.controlFlow = .exit :=
  ⟨rfl, exit_run silentPlayer (fun _ => ()) (fun _ _ => none) (.finite 1) _ _ rfl⟩

/-- With a movie, the window counts as minimized exactly when the last
    resize of the run was to zero by zero, or, with none, when it did at the
    start. -/
theorem minimized_run : ∀ (s : LoopState P) (events : List Event),
    (run pl winitToRuffleKeyCode winitKeyToChar scaleFactor true s events).1.minimized =
      events.foldl minimizedAfter s.minimized
  | _, [] => rfl
  | s, e :: es => by
    rw [List.foldl_cons, ← minimized_handle pl winitToRuffleKeyCode winitKeyToChar scaleFactor s e]
    exact minimized_run _ es

end Run

/-! ### The timedemo loop -/

section Timedemo

variable {P : Type} (currentFrame : P → Option Nat) (runFrame render : P → P)
  (movieFrames : Option Nat)

/-- `MAX_FRAMES`. -/
def maxFrames : Nat := 5000

/-- `<` on `Option<u16>`: `None` is before every `Some`. -/
def optionLt : Option Nat → Option Nat → Bool
  | none, .some _ => true
  | .some a, .some b => decide (a < b)
  | _, none => false

/-- The frame loop of `run_timedemo`: while fewer than `MAX_FRAMES` frames
    ran and the current frame is before the movie's frame count, run a frame
    and render it. -/
def timedemoLoop (numFrames : Nat) (player : P) : Nat × P :=
  if numFrames < maxFrames ∧ optionLt (currentFrame player) movieFrames then
    timedemoLoop (numFrames + 1) (render (runFrame player))
  else (numFrames, player)
termination_by maxFrames - numFrames

/-- From a count of at most `MAX_FRAMES`, the loop ends with at most
    `MAX_FRAMES` frames run, and before that only when the current frame is
    no longer before the movie's frame count. -/
theorem timedemoLoop_exit (numFrames : Nat) (player : P) (h : numFrames ≤ maxFrames) :
    (timedemoLoop currentFrame runFrame render movieFrames numFrames player).1 ≤ maxFrames ∧
      ((timedemoLoop currentFrame runFrame render movieFrames numFrames player).1 < maxFrames →
        optionLt (currentFrame (timedemoLoop currentFrame runFrame render movieFrames numFrames
          player).2) movieFrames = false) := by
  induction numFrames, player using timedemoLoop.induct currentFrame runFrame render movieFrames
  case case1 numFrames player hrun ih =>
    rw [timedemoLoop, if_pos hrun]
    exact ih (by omega)
  case case2 numFrames player hstop =>
    rw [timedemoLoop, if_neg hstop]
    refine ⟨h, fun hlt => ?_⟩
    simpa [hlt] using hstop

theorem timedemoLoop_exit_start :
    0 ≤ maxFrames ∧
      (timedemoLoop (fun n : Nat => .some n) (· + 1) id (.some 3) 0 0).1 ≤ maxFrames ∧
      ((timedemoLoop (fun n : Nat => .some n) (· + 1) id (.some 3) 0 0).1 < maxFrames →
        optionLt ((fun n : Nat => Option.some n)
          (timedemoLoop (fun n : Nat => .some n) (· + 1) id (.some 3) 0 0).2) (.some 3) = false) :=
  ⟨Nat.zero_le _, timedemoLoop_exit _ _ _ _ 0 0 (Nat.zero_le _)⟩

end Timedemo

end Desktop

end RuffleAvm
