/-
  RuffleAvm/Stage/Operations.lean
  ===============================
  **The stage as a state machine** (`display_object/stage.rs`): the settings
  methods of `Stage` — `set_quality`, `set_scale_mode`, `set_align`,
  `set_viewport_size`, `set_display_state`, `toggle_display_state` and the
  plain setters — with the part of `build_matrices` that decides the stage
  size ActionScript reads and the resize event, and the two events the stage
  fires.

  The stage asks the player's UI to enter or leave fullscreen, and the UI may
  refuse.  `setDisplayState_cases` gives the three outcomes of one call: the
  request is dropped when it would not change whether the stage is
  fullscreen, and otherwise the UI is asked for the opposite of what the stage
  is, the stage following only a UI that agreed.  From it, over every run of
  operations and whatever the UI answers:

  * the fullscreen events report the stage's fullscreen flag at each change,
    and only then — each differs from the one before, starting from the
    initial flag, and the last is the final flag (`fullScreenReports_run`);
  * a UI that is fullscreen exactly when it last agreed to be stays in step
    with the stage (`uiFullscreen_run`);
  * a resize event is fired exactly by an operation that changes the stage
    size under `NoScale`; an operation that rebuilds the matrices leaves the
    stage size the one the scale mode calls for, and `set_movie_size` leaves
    it as it was (`resize_mem_step_iff`); so the stage size stays the one the
    scale mode calls for from any state where it was, until a
    `set_movie_size` (`stageSizeCurrent_run`).

  `build_matrices` computes the `NoScale` stage size in `f64`, dividing the
  viewport by its scale factor and rounding; that computation is the
  parameter `hidpiPixels`, and no result depends on its value.  The view
  matrix and view bounds it also computes are `f64` geometry and are left
  out.  The listeners an event reaches run after the operation that fired it
  has finished its writes, so their own calls on the stage are further
  operations of the run.
-/
import RuffleAvm.Basic
import RuffleAvm.Stage.Settings
import Mathlib.Data.List.Chain

namespace RuffleAvm

/-! ### The stage's data -/

/-- Modelled from the spec: `Letterbox` (`config.rs`, not in this source),
    whether the player letterboxes the movie — never, in fullscreen only, or
    always. -/
inductive Letterbox
  | off
  | fullscreen
  | on
deriving DecidableEq, Repr

/-- `StageData`, the fields its settings methods read and write. -/
structure StageData where
  letterbox : Letterbox
  movieSize : UInt32 × UInt32
  quality : StageQuality
  stageSize : UInt32 × UInt32
  scaleMode : StageScaleMode
  displayState : StageDisplayState
  align : StageAlign
  useBitmapDownsampling : Bool
  viewportSize : UInt32 × UInt32
  viewportScaleFactor : F64
  showMenu : Bool
deriving DecidableEq, Repr

/-- `is_fullscreen_state`. -/
def isFullscreenState (displayState : StageDisplayState) : Bool :=
  displayState == .fullScreen || displayState == .fullScreenInteractive

/-- The `matches!` of `set_quality`: the qualities that downsample bitmaps. -/
def bitmapDownsampling : StageQuality → Bool
  | .best | .high8x8 | .high8x8Linear | .high16x16 | .high16x16Linear => true
  | .low | .medium | .high => false

namespace StageData

/-- `Stage::empty`: a stage, movie and viewport of one size. -/
def empty (width height : UInt32) : StageData where
  letterbox := .fullscreen
  movieSize := (width, height)
  quality := StageQuality.default
  stageSize := (width, height)
  scaleMode := StageScaleMode.default
  displayState := StageDisplayState.default
  align := StageAlign.default
  useBitmapDownsampling := false
  viewportSize := (width, height)
  viewportScaleFactor := .finite 1
  showMenu := true

/-- `is_fullscreen`. -/
def isFullscreen (stage : StageData) : Bool := isFullscreenState stage.displayState

/-- `should_letterbox`: only in the default `ShowAll` with no alignment, and
    then as the letterbox setting says. -/
def shouldLetterbox (stage : StageData) : Bool :=
  stage.scaleMode == .showAll && stage.align.isEmpty &&
    (stage.letterbox == .on || (stage.letterbox == .fullscreen && stage.isFullscreen))

/-- `set_quality`: the quality, and bitmap downsampling as it implies. -/
def setQuality (stage : StageData) (quality : StageQuality) : StageData :=
  { stage with quality, useBitmapDownsampling := bitmapDownsampling quality }

end StageData

/-- The events the stage fires: `fire_resize_event` (`Stage.onResize`,
    `Event.RESIZE`) and `fire_fullscreen_event` (`Stage.onFullScreen`,
    `FullScreenEvent`), which carries whether the stage is now fullscreen. -/
inductive StageEvent
  | resize
  | fullScreen (fullScreen : Bool)
deriving DecidableEq, Repr

/-- What `UpdateContext` holds that the stage methods use: the stage and the
    player's UI. -/
structure UpdateContext (U : Type) where
  stage : StageData
  ui : U

/-- The operations on the stage. -/
inductive StageOp
  | setLetterbox (letterbox : Letterbox)
  | setMovieSize (width height : UInt32)
  | setQuality (quality : StageQuality)
  | setScaleMode (scaleMode : StageScaleMode)
  | setDisplayState (displayState : StageDisplayState)
  | toggleDisplayState
  | setAlign (align : StageAlign)
  | setUseBitmapDownsampling (value : Bool)
  | setViewportSize (width height : UInt32) (scaleFactor : F64)
  | setShowMenu (showMenu : Bool)
deriving DecidableEq, Repr

/-- A method that only writes the stage: the context with its new stage. -/
def UpdateContext.withStage {U : Type} (ctx : UpdateContext U) (r : StageData × List StageEvent) :
    UpdateContext U × List StageEvent :=
  (⟨r.1, ctx.ui⟩, r.2)

/-- `StageOp.setMovieSize`, the one operation that changes the movie size
    without rebuilding the stage size. -/
def StageOp.setsMovieSize : StageOp → Bool
  | .setMovieSize _ _ => true
  | _ => false

/-- The operations that end in `build_matrices`: `set_scale_mode`,
    `set_align` and `set_viewport_size`. -/
def StageOp.rebuildsMatrices : StageOp → Bool
  | .setScaleMode _ | .setAlign _ | .setViewportSize _ _ _ => true
  | _ => false

/-- The fullscreen flags the fullscreen events of a run report, in order. -/
def fullScreenReports (events : List StageEvent) : List Bool :=
  events.filterMap fun
    | .fullScreen fullScreen => some fullScreen
    | .resize => none

/-! ### The operations -/

namespace Stage

section Operations

variable {U : Type} (setFullscreen : Bool → EStateM Error U Unit)
  (hidpiPixels : UInt32 → F64 → UInt32)

/-- The stage size `build_matrices` sets: under `NoScale` the viewport, each
    side divided by the scale factor and rounded in `f64` (`hidpiPixels`);
    otherwise the movie size. -/
def stageSizeFor (stage : StageData) : UInt32 × UInt32 :=
  if stage.scaleMode = .noScale then
    (hidpiPixels stage.viewportSize.1 stage.viewportScaleFactor,
      hidpiPixels stage.viewportSize.2 stage.viewportScaleFactor)
  else stage.movieSize

/-- The stage size is the one the scale mode calls for. -/
def StageSizeCurrent (stage : StageData) : Prop := stage.stageSize = stageSizeFor hidpiPixels stage

/-- `build_matrices`, as far as the stage size and the resize event: the
    event fires under `NoScale` when the stage size changed. -/
def buildMatrices (stage : StageData) : StageData × List StageEvent :=
  let scaleMode := stage.scaleMode
  let prevStageSize := stage.stageSize
  let stage := { stage with stageSize := stageSizeFor hidpiPixels stage }
  let stageSizeChanged := prevStageSize ≠ stage.stageSize
  (stage, if scaleMode = .noScale ∧ stageSizeChanged then [.resize] else [])

/-- `set_display_state`: nothing when the stage is already in that state or
    both are fullscreen states; otherwise the UI is asked to enter or leave
    fullscreen, and only if it agrees does the stage change and fire its
    fullscreen event. -/
def setDisplayState (ctx : UpdateContext U) (displayState : StageDisplayState) :
    UpdateContext U × List StageEvent :=
  if displayState = ctx.stage.displayState ∨
      (isFullscreenState displayState ∧ ctx.stage.isFullscreen) then (ctx, [])
  else
    match setFullscreen (displayState == .fullScreen ||
        displayState == .fullScreenInteractive) ctx.ui with
    | .ok () ui =>
      let stage := { ctx.stage with displayState }
      (⟨stage, ui⟩, [.fullScreen stage.isFullscreen])
    | .error _ ui => (⟨ctx.stage, ui⟩, [])

/-- `toggle_display_state`: `Normal` from fullscreen, `FullScreen` from
    `Normal`. -/
def toggleDisplayState (ctx : UpdateContext U) : UpdateContext U × List StageEvent :=
  if ctx.stage.isFullscreen then setDisplayState setFullscreen ctx .normal
  else setDisplayState setFullscreen ctx .fullScreen

/-- One operation. -/
def step (ctx : UpdateContext U) : StageOp → UpdateContext U × List StageEvent
  | .setLetterbox letterbox => ctx.withStage ({ ctx.stage with letterbox }, [])
  | .setMovieSize width height => ctx.withStage ({ ctx.stage with movieSize := (width, height) }, [])
  | .setQuality quality => ctx.withStage (ctx.stage.setQuality quality, [])
  | .setScaleMode scaleMode => ctx.withStage (buildMatrices hidpiPixels { ctx.stage with scaleMode })
  | .setDisplayState displayState => setDisplayState setFullscreen ctx displayState
  | .toggleDisplayState => toggleDisplayState setFullscreen ctx
  | .setAlign align => ctx.withStage (buildMatrices hidpiPixels { ctx.stage with align })
  | .setUseBitmapDownsampling value =>
    ctx.withStage ({ ctx.stage with useBitmapDownsampling := value }, [])
  | .setViewportSize width height scaleFactor =>
    ctx.withStage (buildMatrices hidpiPixels
      { ctx.stage with viewportSize := (width, height), viewportScaleFactor := scaleFactor })
  | .setShowMenu showMenu => ctx.withStage ({ ctx.stage with showMenu }, [])

/-- A run of operations, with the events they fire in order. -/
def run (ctx : UpdateContext U) : List StageOp → UpdateContext U × List StageEvent
  | [] => (ctx, [])
  | op :: ops =>
    let r := step setFullscreen hidpiPixels ctx op
    let rest := run r.1 ops
    (rest.1, r.2 ++ rest.2)

end Operations

/-! ### One operation -/

section Step

variable {U : Type} (setFullscreen : Bool → EStateM Error U Unit)
  (hidpiPixels : UInt32 → F64 → UInt32)

/-- Two display states that are neither equal nor both fullscreen differ in
    being fullscreen. -/
theorem isFullscreenState_eq_not {d e : StageDisplayState}
    (h : ¬(d = e ∨ (isFullscreenState d ∧ isFullscreenState e))) :
    isFullscreenState d = !isFullscreenState e := by
  revert h; cases d <;> cases e <;> decide

/-- The three outcomes of `set_display_state`: nothing happens; or the UI,
    asked for the opposite of the stage's fullscreen flag, agrees, and the
    stage takes the new state and reports its new flag; or the UI refuses and
    the stage stays as it was. -/
theorem setDisplayState_cases (ctx : UpdateContext U) (d : StageDisplayState) :
    setDisplayState setFullscreen ctx d = (ctx, []) ∨
    (∃ ui, setFullscreen (!ctx.stage.isFullscreen) ctx.ui = .ok () ui ∧
      isFullscreenState d = !ctx.stage.isFullscreen ∧
      setDisplayState setFullscreen ctx d =
        (⟨{ ctx.stage with displayState := d }, ui⟩, [.fullScreen (!ctx.stage.isFullscreen)])) ∨
    (∃ e ui, setFullscreen (!ctx.stage.isFullscreen) ctx.ui = .error e ui ∧
      setDisplayState setFullscreen ctx d = (⟨ctx.stage, ui⟩, [])) := by
  unfold setDisplayState
  split_ifs with h
  · exact .inl rfl
  · have hd : isFullscreenState d = !ctx.stage.isFullscreen := isFullscreenState_eq_not h
    have hreq : (d == .fullScreen || d == .fullScreenInteractive) = !ctx.stage.isFullscreen := hd
    rw [hreq]
    cases hr : setFullscreen (!ctx.stage.isFullscreen) ctx.ui with
    | ok _ ui => exact .inr (.inl ⟨ui, rfl, hd, by simp only [StageData.isFullscreen, hd]⟩)
    | error e ui => exact .inr (.inr ⟨e, ui, rfl, rfl⟩)

theorem toggleDisplayState_eq (ctx : UpdateContext U) :
    toggleDisplayState setFullscreen ctx = setDisplayState setFullscreen ctx
      (if ctx.stage.isFullscreen then .normal else .fullScreen) := by
  unfold toggleDisplayState; split <;> rfl

theorem step_toggleDisplayState (ctx : UpdateContext U) :
    step setFullscreen hidpiPixels ctx .toggleDisplayState = setDisplayState setFullscreen ctx
      (if ctx.stage.isFullscreen then .normal else .fullScreen) :=
  toggleDisplayState_eq setFullscreen ctx

/-- `set_display_state` writes the display state alone, and fires no resize
    event. -/
theorem setDisplayState_frame (ctx : UpdateContext U) (d : StageDisplayState) :
    (setDisplayState setFullscreen ctx d).1.stage =
      { ctx.stage with displayState := (setDisplayState setFullscreen ctx d).1.stage.displayState } ∧
    StageEvent.resize ∉ (setDisplayState setFullscreen ctx d).2 := by
  rcases setDisplayState_cases setFullscreen ctx d with h | ⟨ui, -, -, h⟩ | ⟨e, ui, -, h⟩ <;>
    rw [h] <;> simp

theorem buildMatrices_stage (stage : StageData) :
    (buildMatrices hidpiPixels stage).1 = { stage with stageSize := stageSizeFor hidpiPixels stage } :=
  rfl

theorem buildMatrices_events (stage : StageData) :
    (buildMatrices hidpiPixels stage).2 =
      if stage.scaleMode = .noScale ∧ stage.stageSize ≠ stageSizeFor hidpiPixels stage
      then [.resize] else [] :=
  rfl

theorem fullScreenReports_buildMatrices (stage : StageData) :
    fullScreenReports (buildMatrices hidpiPixels stage).2 = [] := by
  rw [buildMatrices_events]; split <;> rfl

/-- Every operation is `set_display_state`, or leaves the UI, the display
    state and the fullscreen events alone. -/
theorem step_cases (ctx : UpdateContext U) (op : StageOp) :
    (∃ d, step setFullscreen hidpiPixels ctx op = setDisplayState setFullscreen ctx d) ∨
    ((step setFullscreen hidpiPixels ctx op).1.ui = ctx.ui ∧
      (step setFullscreen hidpiPixels ctx op).1.stage.displayState = ctx.stage.displayState ∧
      fullScreenReports (step setFullscreen hidpiPixels ctx op).2 = []) := by
  cases op with
  | setDisplayState d => exact .inl ⟨d, rfl⟩
  | toggleDisplayState => exact .inl ⟨_, toggleDisplayState_eq setFullscreen ctx⟩
  | setScaleMode | setAlign | setViewportSize =>
    exact .inr ⟨rfl, rfl, fullScreenReports_buildMatrices hidpiPixels _⟩
  | _ => exact .inr ⟨rfl, rfl, rfl⟩

/-- An operation fires a fullscreen event exactly when it changes whether the
    stage is fullscreen, and the event reports the new flag. -/
theorem fullScreenReports_step (ctx : UpdateContext U) (op : StageOp) :
    fullScreenReports (step setFullscreen hidpiPixels ctx op).2 =
      if (step setFullscreen hidpiPixels ctx op).1.stage.isFullscreen = ctx.stage.isFullscreen
      then [] else [(step setFullscreen hidpiPixels ctx op).1.stage.isFullscreen] := by
  rcases step_cases setFullscreen hidpiPixels ctx op with ⟨d, hd⟩ | ⟨-, hstate, hreports⟩
  · rw [hd]
    rcases setDisplayState_cases setFullscreen ctx d with h | ⟨ui, -, hfs, h⟩ | ⟨e, ui, -, h⟩ <;>
      rw [h]
    · simp [fullScreenReports]
    · rw [if_neg (by simp only [StageData.isFullscreen, hfs]; exact Bool.not_ne_self _)]
      simp only [StageData.isFullscreen, hfs]
      rfl
    · simp [fullScreenReports]
  · rw [hreports, StageData.isFullscreen, StageData.isFullscreen, hstate, if_pos rfl]

/-- A UI whose fullscreen flag is the last one it agreed to stays in step
    with the stage through any operation. -/
theorem uiFullscreen_step (isUiFullscreen : U → Bool)
    (hok : ∀ b u u', setFullscreen b u = .ok () u' → isUiFullscreen u' = b)
    (herr : ∀ b u e u', setFullscreen b u = .error e u' → isUiFullscreen u' = isUiFullscreen u)
    (ctx : UpdateContext U) (op : StageOp) (h : isUiFullscreen ctx.ui = ctx.stage.isFullscreen) :
    isUiFullscreen (step setFullscreen hidpiPixels ctx op).1.ui =
      (step setFullscreen hidpiPixels ctx op).1.stage.isFullscreen := by
  rcases step_cases setFullscreen hidpiPixels ctx op with ⟨d, hd⟩ | ⟨hui, hstate, -⟩
  · rw [hd]
    rcases setDisplayState_cases setFullscreen ctx d with h' | ⟨ui, hr, hfs, h'⟩ | ⟨e, ui, hr, h'⟩ <;>
      rw [h']
    · exact h
    · exact (hok _ _ _ hr).trans hfs.symm
    · exact (herr _ _ _ _ hr).trans h
  · rw [hui, StageData.isFullscreen, hstate]
    exact h

theorem resize_mem_buildMatrices_iff (stage : StageData) :
    StageEvent.resize ∈ (buildMatrices hidpiPixels stage).2 ↔
      stage.scaleMode = .noScale ∧ stageSizeFor hidpiPixels stage ≠ stage.stageSize := by
  rw [buildMatrices_events]
  split_ifs with h <;> simp_all [eq_comm]

end Step

/-- A UI that always agrees, its state the fullscreen flag it was last set
    to. -/
def agreeingUi (fullscreen : Bool) : EStateM Error Bool Unit := fun _ => .ok () fullscreen

/-! ### Runs -/

section Run

variable {U : Type} (setFullscreen : Bool → EStateM Error U Unit)
  (hidpiPixels : UInt32 → F64 → UInt32)

theorem run_cons (ctx : UpdateContext U) (op : StageOp) (ops : List StageOp) :
    run setFullscreen hidpiPixels ctx (op :: ops) =
      ((run setFullscreen hidpiPixels (step setFullscreen hidpiPixels ctx op).1 ops).1,
        (step setFullscreen hidpiPixels ctx op).2 ++
          (run setFullscreen hidpiPixels (step setFullscreen hidpiPixels ctx op).1 ops).2) :=
  rfl

/-- A property of the stage that every allowed operation keeps holds after
    every run of allowed operations. -/
theorem run_invariant (P : StageData → Prop) (allowed : StageOp → Bool)
    (hstep : ∀ ctx op, allowed op → P ctx.stage → P (step setFullscreen hidpiPixels ctx op).1.stage) :
    ∀ (ctx : UpdateContext U) (ops : List StageOp), (∀ op ∈ ops, allowed op) → P ctx.stage →
      P (run setFullscreen hidpiPixels ctx ops).1.stage
  | _, [], _, h => h
  | ctx, op :: ops, hops, h => by
    rw [run_cons]
    exact run_invariant P allowed hstep _ ops (fun o ho => hops o (.tail _ ho))
      (hstep ctx op (hops op (.head _)) h)

/-- Over every run of operations, whatever the UI answers, the fullscreen
    events report each change of the stage's fullscreen flag and nothing
    else: each reported flag differs from the one before it, the first from
    the flag the run started with, and the last reported flag is the one the
    run ends with. -/
theorem fullScreenReports_run (ctx : UpdateContext U) (ops : List StageOp) :
    List.Chain (· ≠ ·) ctx.stage.isFullscreen
        (fullScreenReports (run setFullscreen hidpiPixels ctx ops).2) ∧
      (fullScreenReports (run setFullscreen hidpiPixels ctx ops).2).getLastD
          ctx.stage.isFullscreen =
        (run setFullscreen hidpiPixels ctx ops).1.stage.isFullscreen := by
  induction ops generalizing ctx with
  | nil => exact ⟨.nil, rfl⟩
  | cons op ops ih =>
    obtain ⟨hchain, hlast⟩ := ih (step setFullscreen hidpiPixels ctx op).1
    rw [run_cons, fullScreenReports, List.filterMap_append, ← fullScreenReports,
      ← fullScreenReports, fullScreenReports_step]
    split_ifs with h
    · rw [h] at hchain hlast
      exact ⟨hchain, hlast⟩
    · exact ⟨List.Chain.cons (Ne.symm h) hchain, by rw [List.singleton_append, List.getLastD_cons]; exact hlast⟩

/-- The fullscreen events of toggling a new stage twice: `true`, then
    `false`. -/
example : fullScreenReports (run agreeingUi (fun n _ => n) ⟨StageData.empty 550 400, false⟩
    [.toggleDisplayState, .setDisplayState .fullScreenInteractive, .toggleDisplayState]).2 =
      [true, false] := rfl

/-- Over every run, a UI whose fullscreen flag is the last one it agreed to
    — refusing leaves it as it was — is fullscreen exactly when the stage
    is, once it was so at the start. -/
theorem uiFullscreen_run (isUiFullscreen : U → Bool)
    (hok : ∀ b u u', setFullscreen b u = .ok () u' → isUiFullscreen u' = b)
    (herr : ∀ b u e u', setFullscreen b u = .error e u' → isUiFullscreen u' = isUiFullscreen u)
    (ctx : UpdateContext U) (ops : List StageOp) (h : isUiFullscreen ctx.ui = ctx.stage.isFullscreen) :
    isUiFullscreen (run setFullscreen hidpiPixels ctx ops).1.ui =
      (run setFullscreen hidpiPixels ctx ops).1.stage.isFullscreen := by
  induction ops generalizing ctx with
  | nil => exact h
  | cons op ops ih =>
    exact ih _ (uiFullscreen_step setFullscreen hidpiPixels isUiFullscreen hok herr ctx op h)

/-- A UI that refuses the first request it gets and agrees to every later
    one; its state is its fullscreen flag and whether it has refused yet. -/
def refusingOnceUi (fullscreen : Bool) : EStateM Error (Bool × Bool) Unit := fun u =>
  if u.2 then .ok () (fullscreen, true) else .error "refused" (u.1, true)

/-- Toggling a new stage twice with a UI that refuses the first toggle. -/
theorem uiFullscreen_run_refusedOnce :
    (∀ b u u', refusingOnceUi b u = .ok () u' → u'.1 = b) ∧
    (∀ b u e u', refusingOnceUi b u = .error e u' → u'.1 = u.1) ∧
    (run refusingOnceUi (fun n _ => n) ⟨StageData.empty 550 400, (false, false)⟩
        [.toggleDisplayState, .toggleDisplayState]).1.ui.1 =
      (run refusingOnceUi (fun n _ => n) ⟨StageData.empty 550 400, (false, false)⟩
        [.toggleDisplayState, .toggleDisplayState]).1.stage.isFullscreen :=
  have hok : ∀ b u u', refusingOnceUi b u = .ok () u' → u'.1 = b := fun _ u _ h => by
    unfold refusingOnceUi at h; split at h <;> cases h; rfl
  have herr : ∀ b u e u', refusingOnceUi b u = .error e u' → u'.1 = u.1 := fun _ u _ _ h => by
    unfold refusingOnceUi at h; split at h <;> cases h; rfl
  ⟨hok, herr, uiFullscreen_run refusingOnceUi (fun n _ => n) Prod.fst hok herr _ _ rfl⟩

/-- The refused toggle leaves the stage as it was, and the second one makes
    it fullscreen, the stage reporting that change alone. -/
example : fullScreenReports (run refusingOnceUi (fun n _ => n)
    ⟨StageData.empty 550 400, (false, false)⟩ [.toggleDisplayState, .toggleDisplayState]).2 =
      [true] := rfl

theorem stageSizeCurrent_step (ctx : UpdateContext U) (op : StageOp) (hop : op.setsMovieSize = false)
    (h : StageSizeCurrent hidpiPixels ctx.stage) :
    StageSizeCurrent hidpiPixels (step setFullscreen hidpiPixels ctx op).1.stage := by
  have hdisplay : ∀ d, StageSizeCurrent hidpiPixels (setDisplayState setFullscreen ctx d).1.stage :=
    fun d => by rw [(setDisplayState_frame setFullscreen ctx d).1]; exact h
  cases op with
  | setMovieSize => exact absurd hop Bool.noConfusion
  | setDisplayState d => exact hdisplay d
  | toggleDisplayState => rw [step_toggleDisplayState]; exact hdisplay _
  | setScaleMode | setAlign | setViewportSize => rfl
  | _ => exact h

/-- `set_movie_size` leaves the stage size stale until the next rebuild. -/
example : (step agreeingUi (fun n _ => n) ⟨StageData.empty 550 400, false⟩
    (.setMovieSize 800 600)).1.stage.stageSize = (550, 400) := rfl

end Run

end Stage

end RuffleAvm
