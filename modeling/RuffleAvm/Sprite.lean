/-
  RuffleAvm/Sprite.lean
  =====================
  **`flash.display.Sprite`** (`avm2/globals/flash/display/sprite.rs`): the
  instance constructor, which gives a sprite built from script a movie clip
  of its own, and the `graphics` getter, which creates the sprite's
  `Graphics` object on first use and keeps it in a hidden slot.

  `create_class` declares that slot as an instance trait, so reading and
  writing it are a plain slot read and write.  The runtime operations the
  natives call (`super_init`, `as_display_object`, `instance_of`,
  `MovieClip::new_with_avm2`, `init_display_object`, `get_property`,
  `set_property`, `StageObject::graphics`) are fields of a runtime over a
  world `σ`; `Lawful` states what the natives rely on of them: the slot
  reads back what was written to it, creating the `Graphics` object leaves
  the slot and the display objects alone, and `init_display_object` attaches
  the display object it is given.

  The getter is a cache: a second call returns what the first returned and
  changes nothing (`graphics_graphics`), and after the constructor that value
  is never `undefined` or `null` (`graphics_after_instanceInit`).
-/
import RuffleAvm.QName
import RuffleAvm.Value

namespace RuffleAvm.Sprite

/-- The hidden slot,
    `QName::new(Namespace::private(NS_RUFFLE_INTERNAL), "graphics")`;
    `NS_RUFFLE_INTERNAL` (`avm2/globals.rs`, not in this source) is a
    parameter. -/
def graphicsSlot (nsRuffleInternal : String) : Multiname :=
  .ofQName (QName.new (.private nsRuffleInternal) "graphics")

/-- What the `Sprite` natives use of the runtime, over a world `σ`, with
    display objects `D`. -/
structure SpriteRuntime (σ D : Type) where
  /-- `activation.super_init(this, &[])`. -/
  superInit : Object → EStateM Error σ Unit
  /-- `this.as_display_object()`. -/
  asDisplayObject : σ → Object → Option D
  /-- `this.instance_of()`. -/
  instanceOf : σ → Object → Option Object
  /-- `MovieClip::new_with_avm2(movie, this, class_object, ..)`, with an empty
      movie of the running version. -/
  newMovieClip : Object → Object → EStateM Error σ D
  /-- `this.init_display_object(.., new_do)`. -/
  initDisplayObject : Object → D → σ → σ
  /-- `this.get_property(name, activation)`. -/
  getProperty : Object → Multiname → EStateM Error σ Value
  /-- `this.set_property(name, value, activation)`. -/
  setProperty : Object → Multiname → Value → EStateM Error σ Unit
  /-- `StageObject::graphics(activation, dobj)`. -/
  stageObjectGraphics : D → EStateM Error σ Object

variable {σ D : Type} (rt : SpriteRuntime σ D) (nsRuffleInternal : String)

/-- `instance_init`: after the super constructor, an object with no display
    object gets a new movie clip, which needs its class. -/
def instanceInit (this : Option Object) : EStateM Error σ Value := do
  match this with
  | .some this =>
    rt.superInit this
    if (rt.asDisplayObject (← get) this).isNone then
      match rt.instanceOf (← get) this with
      | none => throw "Attempted to construct Sprite on a bare object"
      | .some classObject =>
        let newDo ← rt.newMovieClip this classObject
        modify (rt.initDisplayObject this newDo)
  | none => pure ()
  return .undefined

/-- `graphics`: the value of the hidden slot, filled on first use with the
    display object's `Graphics` object; `undefined` for an object with no
    display object. -/
def graphics (this : Option Object) : EStateM Error σ Value := do
  match this with
  | .some this =>
    match rt.asDisplayObject (← get) this with
    | .some dobj =>
      let graphics ← match ← rt.getProperty this (graphicsSlot nsRuffleInternal) with
        | .undefined | .null => do
          let graphics := Value.object (← rt.stageObjectGraphics dobj)
          rt.setProperty this (graphicsSlot nsRuffleInternal) graphics
          pure graphics
        | graphics => pure graphics
      return graphics
    | none => pure .undefined
  | none => pure .undefined

/-- What the natives rely on of the runtime: the hidden slot is read and
    written as a slot is (`slot`, `setSlot`), creating the `Graphics` object
    leaves it and the display objects alone, and `init_display_object`
    attaches the display object it is given. -/
structure Lawful where
  slot : σ → Object → Value
  setSlot : σ → Object → Value → σ
  getProperty_slot : ∀ w o, rt.getProperty o (graphicsSlot nsRuffleInternal) w = .ok (slot w o) w
  setProperty_slot : ∀ w o v,
    rt.setProperty o (graphicsSlot nsRuffleInternal) v w = .ok () (setSlot w o v)
  slot_setSlot : ∀ w o v, slot (setSlot w o v) o = v
  asDisplayObject_setSlot : ∀ w o v, rt.asDisplayObject (setSlot w o v) = rt.asDisplayObject w
  stageObjectGraphics_keeps : ∀ d w g w', rt.stageObjectGraphics d w = .ok g w' →
    slot w' = slot w ∧ rt.asDisplayObject w' = rt.asDisplayObject w
  asDisplayObject_initDisplayObject : ∀ o d w,
    rt.asDisplayObject (rt.initDisplayObject o d w) o = some d

/-- A slot value that `graphics` hands out rather than replace: neither
    `undefined` nor `null`. -/
def isFilled : Value → Bool
  | .undefined | .null => false
  | _ => true

/-- A sprite alone in its world: the world is its hidden slot and its display
    object, if any. -/
def oneSprite : SpriteRuntime (Value × Option Unit) Unit where
  superInit _ := pure ()
  asDisplayObject w _ := w.2
  instanceOf _ _ := .some ⟨1⟩
  newMovieClip _ _ := pure ()
  initDisplayObject _ d w := (w.1, .some d)
  getProperty _ _ w := .ok w.1 w
  setProperty _ _ v w := .ok () (v, w.2)
  stageObjectGraphics _ := pure ⟨7⟩

/-- The lone sprite's slot is the first half of its world. -/
def oneSpriteLawful : Lawful oneSprite "" where
  slot w _ := w.1
  setSlot w _ v := (v, w.2)
  getProperty_slot _ _ := rfl
  setProperty_slot _ _ _ := rfl
  slot_setSlot _ _ _ := rfl
  asDisplayObject_setSlot _ _ _ := rfl
  stageObjectGraphics_keeps _ _ _ _ h := by cases h; exact ⟨rfl, rfl⟩
  asDisplayObject_initDisplayObject _ _ _ := rfl

section Graphics

variable {rt nsRuffleInternal}

/-- On an object with no display object, `graphics` returns `undefined` and
    changes nothing. -/
theorem graphics_run_of_none {this : Object} {w : σ} (hw : rt.asDisplayObject w this = none) :
    (graphics rt nsRuffleInternal (some this)).run w = .ok .undefined w := by
  show graphics rt nsRuffleInternal (some this) w = _
  simp only [graphics, bind, EStateM.bind, get, getThe, MonadStateOf.get, EStateM.get, hw]
  rfl

variable (L : Lawful rt nsRuffleInternal)

/-- What `graphics` does on a display object: it returns a filled slot's
    value and changes nothing, and otherwise fills the slot with a new
    `Graphics` object. -/
theorem graphics_run {this : Object} {w : σ} {d : D} (hd : rt.asDisplayObject w this = some d) :
    (graphics rt nsRuffleInternal (some this)).run w =
      if isFilled (L.slot w this) then .ok (L.slot w this) w
      else match rt.stageObjectGraphics d w with
        | .ok o w₁ => .ok (.object o) (L.setSlot w₁ this (.object o))
        | .error e w₁ => .error e w₁ := by
  show graphics rt nsRuffleInternal (some this) w = _
  simp only [graphics, bind, EStateM.bind, get, getThe, MonadStateOf.get, EStateM.get, hd,
    L.getProperty_slot, pure, EStateM.pure]
  cases L.slot w this
  case undefined | null =>
    simp only [isFilled, Bool.false_eq_true, if_false]
    cases hg : rt.stageObjectGraphics d w <;>
      simp only [EStateM.bind, hg, L.setProperty_slot, EStateM.pure]
  all_goals rfl

/-- On a display object, what `graphics` returns is filled and left in the
    slot, and the display objects are kept. -/
theorem graphics_fills_slot {this : Object} {w w' : σ} {d : D} {g : Value}
    (hd : rt.asDisplayObject w this = some d)
    (h : (graphics rt nsRuffleInternal (some this)).run w = .ok g w') :
    L.slot w' this = g ∧ isFilled g ∧ rt.asDisplayObject w' = rt.asDisplayObject w := by
  rw [graphics_run L hd] at h
  split at h
  case isTrue hfilled =>
    cases h
    exact ⟨rfl, hfilled, rfl⟩
  case isFalse =>
    split at h
    case h_1 o w₁ hg =>
      cases h
      exact ⟨L.slot_setSlot .., rfl,
        (L.asDisplayObject_setSlot ..).trans (L.stageObjectGraphics_keeps d w o w₁ hg).2⟩
    case h_2 => cases h

/-- `graphics` is a cache: a second call returns what the first returned,
    and changes nothing. -/
theorem graphics_graphics (L : Lawful rt nsRuffleInternal) (this : Option Object) {w w' : σ} {g : Value}
    (h : (graphics rt nsRuffleInternal this).run w = .ok g w') :
    (graphics rt nsRuffleInternal this).run w' = .ok g w' := by
  cases this with
  | none =>
    cases h
    rfl
  | some this =>
    cases hd : rt.asDisplayObject w this with
    | none =>
      rw [graphics_run_of_none hd] at h
      cases h
      exact graphics_run_of_none hd
    | some d =>
      obtain ⟨hslot, hfilled, hdo⟩ := graphics_fills_slot L hd h
      rw [graphics_run L ((congrFun hdo this).trans hd), hslot, if_pos hfilled]

theorem graphics_graphics_oneSprite :
    (graphics oneSprite "" (some ⟨0⟩)).run (.undefined, .some ()) =
        .ok (.object ⟨7⟩) (.object ⟨7⟩, .some ()) ∧
      (graphics oneSprite "" (some ⟨0⟩)).run (.object ⟨7⟩, .some ()) =
        .ok (.object ⟨7⟩) (.object ⟨7⟩, .some ()) :=
  ⟨rfl, graphics_graphics oneSpriteLawful (some ⟨0⟩) (w := (.undefined, .some ())) rfl⟩

/-- After the constructor, the sprite has a display object: its own, or a new
    movie clip. -/
theorem asDisplayObject_of_instanceInit (L : Lawful rt nsRuffleInternal) {this : Object} {w w' : σ} {v : Value}
    (h : (instanceInit rt (some this)).run w = .ok v w') :
    (rt.asDisplayObject w' this).isSome := by
  change instanceInit rt (some this) w = _ at h
  simp only [instanceInit, bind, EStateM.bind, get, getThe, MonadStateOf.get, EStateM.get] at h
  rcases hsuper : rt.superInit this w with ⟨_, w₁⟩ | ⟨e, w₁⟩
  all_goals simp only [hsuper] at h
  · by_cases hnone : (rt.asDisplayObject w₁ this).isNone
    · simp only [hnone, if_true, EStateM.bind, EStateM.get] at h
      cases hclass : rt.instanceOf w₁ this with
      | none =>
        simp only [hclass, throw, throwThe, MonadExceptOf.throw, EStateM.throw, EStateM.bind] at h
        cases h
      | some c =>
        cases hclip : rt.newMovieClip this c w₁ with
        | error e w₂ =>
          simp only [hclass, hclip, EStateM.bind] at h
          cases h
        | ok d w₂ =>
          simp only [hclass, hclip, EStateM.bind, modify, modifyGet, MonadStateOf.modifyGet,
            EStateM.modifyGet, pure, EStateM.pure, EStateM.Result.ok.injEq] at h
          rw [← h.2, L.asDisplayObject_initDisplayObject]
          rfl
    · simp only [hnone, Bool.false_eq_true, if_false, pure, EStateM.pure, EStateM.bind,
        EStateM.Result.ok.injEq] at h
      rw [← h.2, Option.isSome_iff_ne_none]
      exact fun hn => hnone (Option.isNone_iff_eq_none.mpr hn)
  · cases h

/-- After the constructor, `graphics` never returns `undefined` or `null`. -/
theorem graphics_after_instanceInit (L : Lawful rt nsRuffleInternal) {this : Object} {w w₁ w₂ : σ} {v g : Value}
    (hinit : (instanceInit rt (some this)).run w = .ok v w₁)
    (hg : (graphics rt nsRuffleInternal (some this)).run w₁ = .ok g w₂) : isFilled g := by
  obtain ⟨d, hd⟩ := Option.isSome_iff_exists.mp (asDisplayObject_of_instanceInit L hinit)
  exact (graphics_fills_slot L hd hg).2.1

theorem graphics_after_instanceInit_oneSprite :
    (instanceInit oneSprite (some ⟨0⟩)).run (.undefined, none) = .ok .undefined (.undefined, .some ()) ∧
      (graphics oneSprite "" (some ⟨0⟩)).run (.undefined, .some ()) =
        .ok (.object ⟨7⟩) (.object ⟨7⟩, .some ()) ∧
      isFilled (.object ⟨7⟩) :=
  ⟨rfl, rfl, @graphics_after_instanceInit _ _ _ _ oneSpriteLawful ⟨0⟩ (.undefined, none)
    (.undefined, .some ()) (.object ⟨7⟩, .some ()) .undefined (.object ⟨7⟩) rfl rfl⟩

end Graphics

end RuffleAvm.Sprite
