/-
  RuffleAvm/Avm1DisplayObject.lean
  ================================
  **AVM1 display-object depths** (`avm1/globals/display_object.rs`):
  `getDepth`, which shows ActionScript a clip's depth shifted down by
  `AVM_DEPTH_BIAS`, and `remove_display_object`, which removes a clip only
  when its depth lies in a band.

  Both read the depth as an `i32`, and `getDepth` subtracts with
  `wrapping_sub`, so the depth it shows for a clip near `i32::MIN` wraps to
  near `i32::MAX`.  The removal test is made on the internal depth;
  `removeBand_iff` shows that for each of the 2^32 depths it is the band
  `[0, AVM_MAX_REMOVE_DEPTH - AVM_DEPTH_BIAS)` of the depth `getDepth` shows:
  every wrapped value lies above that band.

  The display tree (`display_object.rs` and `container.rs` of the core) is not
  in this source: what the two natives read of it, and the `remove_child`
  call, are the fields of `Avm1DisplayTree`.
-/
import RuffleAvm.Avm1Function

namespace RuffleAvm

/-! ### Depths -/

namespace I32

/-- `i32::wrapping_sub`. -/
def wrappingSub (a b : I32) : I32 := wrap (a.val - b.val)

theorem wrappingSub_val (a b : I32) :
    (a.wrappingSub b).val = (a.val - b.val).bmod 4294967296 := rfl

@[simp] theorem wrappingSub_zero (a : I32) : a.wrappingSub 0 = a := by
  refine ext_val ?_
  rw [wrappingSub, zero_val, Int.sub_zero, wrap_val_eq_iff]
  exact ⟨a.min_le, a.lt_max⟩

end I32

/-- `AVM_DEPTH_BIAS`: an ActionScript depth is the internal depth minus this. -/
def avmDepthBias : I32 := ⟨16384, by decide, by decide⟩

/-- `AVM_MAX_REMOVE_DEPTH`: the end of the band of removable depths. -/
def avmMaxRemoveDepth : I32 := ⟨2130706416, by decide, by decide⟩

/-- The removal band, read on the internal depth, and the band of the depth
    `getDepth` shows agree on every `i32`: a depth whose subtraction wraps
    shows as at least `2^31 - AVM_DEPTH_BIAS`, above the band. -/
theorem removeBand_iff (d : I32) :
    avmDepthBias.val ≤ d.val ∧ d.val < avmMaxRemoveDepth.val ↔
      0 ≤ (d.wrappingSub avmDepthBias).val ∧
        (d.wrappingSub avmDepthBias).val < avmMaxRemoveDepth.val - avmDepthBias.val := by
  have := d.min_le
  have := d.lt_max
  simp only [I32.wrappingSub_val, avmDepthBias, avmMaxRemoveDepth, Int.bmod_def]
  split_ifs <;> omega

/-! ### The display tree and the two natives -/

/-- What the AVM1 display-object natives read of the display tree in a world
    `σ` of display objects `D`, and the one call `remove_display_object` makes
    on it: `as_display_object` of an object, a display object's `depth`,
    `removed` and `avm1_parent`, `as_movie_clip`, and
    `remove_child(context, child, Lists::all())` on a parent clip. -/
structure Avm1DisplayTree (σ D : Type) where
  asDisplayObject : Object → Option D
  depth : σ → D → I32
  removed : σ → D → Bool
  avm1Parent : σ → D → Option D
  asMovieClip : σ → D → Option D
  removeChild : σ → D → D → σ

variable {σ D : Type}

/-- `getDepth`: from SWF version 6 on, the depth shifted by `AVM_DEPTH_BIAS`
    with a wrapping subtraction, as a number; `undefined` before version 6
    and for an object that is not a display object. -/
def getDepth (t : Avm1DisplayTree σ D) (swfVersion : Nat) (this : Object) (w : σ) :
    Except Error Avm1Value :=
  match t.asDisplayObject this with
  | some displayObject =>
    if 6 ≤ swfVersion then
      let depth := (t.depth w displayObject).wrappingSub avmDepthBias
      .ok (.number (.finite depth.val))
    else .ok .undefined
  | none => .ok .undefined

/-- `remove_display_object`: a clip that is not removed, at a depth in
    `[AVM_DEPTH_BIAS, AVM_MAX_REMOVE_DEPTH)`, is removed from its AVM1 parent
    when that parent is a movie clip; anything else leaves the world as it
    is. -/
def removeDisplayObject (t : Avm1DisplayTree σ D) (this : D) (w : σ) : σ :=
  let depth := (t.depth w this).wrappingSub 0
  if avmDepthBias.val ≤ depth.val ∧ depth.val < avmMaxRemoveDepth.val ∧ !t.removed w this then
    match (t.avm1Parent w this).bind (t.asMovieClip w) with
    | some parent => t.removeChild w parent this
    | none => w
  else w

theorem getDepth_of_displayObject (t : Avm1DisplayTree σ D) {swfVersion : Nat} {this : Object}
    {displayObject : D} (w : σ) (h : t.asDisplayObject this = some displayObject)
    (hv : 6 ≤ swfVersion) :
    getDepth t swfVersion this w =
      .ok (.number (.finite ((t.depth w displayObject).wrappingSub avmDepthBias).val)) := by
  simp [getDepth, h, hv]

theorem removeDisplayObject_of_parent (t : Avm1DisplayTree σ D) {w : σ} {this parent : D}
    (hr : t.removed w this = false)
    (hp : (t.avm1Parent w this).bind (t.asMovieClip w) = some parent) :
    removeDisplayObject t this w =
      if avmDepthBias.val ≤ (t.depth w this).val ∧ (t.depth w this).val < avmMaxRemoveDepth.val
      then t.removeChild w parent this else w := by
  simp only [removeDisplayObject, I32.wrappingSub_zero, hr, hp, Bool.not_false, and_true]

/-- A clip that is not removed and has a movie-clip parent is removed from
    that parent exactly when its internal depth lies in
    `[AVM_DEPTH_BIAS, AVM_MAX_REMOVE_DEPTH)`, and otherwise the world is left
    as it is.  That band is, for every `i32` depth, the band
    `[0, AVM_MAX_REMOVE_DEPTH - AVM_DEPTH_BIAS)` of the depth `getDepth`
    returns for the clip from SWF version 6 on, wrapped subtractions near
    `i32::MIN` included. -/
theorem removeDisplayObject_depth_band (t : Avm1DisplayTree σ D) (w : σ) (this parent : D)
    (hr : t.removed w this = false)
    (hp : (t.avm1Parent w this).bind (t.asMovieClip w) = some parent) :
    removeDisplayObject t this w =
      (if avmDepthBias.val ≤ (t.depth w this).val ∧ (t.depth w this).val < avmMaxRemoveDepth.val
        then t.removeChild w parent this else w) ∧
    (avmDepthBias.val ≤ (t.depth w this).val ∧ (t.depth w this).val < avmMaxRemoveDepth.val ↔
      0 ≤ ((t.depth w this).wrappingSub avmDepthBias).val ∧
        ((t.depth w this).wrappingSub avmDepthBias).val <
          avmMaxRemoveDepth.val - avmDepthBias.val) ∧
    ∀ (swfVersion : Nat) (o : Object), 6 ≤ swfVersion → t.asDisplayObject o = some this →
      getDepth t swfVersion o w =
        .ok (.number (.finite ((t.depth w this).wrappingSub avmDepthBias).val)) :=
  ⟨removeDisplayObject_of_parent t hr hp, removeBand_iff _,
    fun _ _ hv h => getDepth_of_displayObject t w h hv⟩

/-- A parent clip `0` whose display list is a list of children, and a child
    clip `1` at the given depth. -/
def clipAtDepth (depth : I32) : Avm1DisplayTree (List Nat) Nat where
  asDisplayObject _ := some 1
  depth _ _ := depth
  removed _ _ := false
  avm1Parent _ d := if d = 1 then some 0 else none
  asMovieClip _ d := some d
  removeChild children _ child := children.erase child

theorem removeDisplayObject_depth_band_at_bias :
    (clipAtDepth avmDepthBias).removed [1] 1 = false ∧
    ((clipAtDepth avmDepthBias).avm1Parent [1] 1).bind ((clipAtDepth avmDepthBias).asMovieClip [1])
      = some 0 ∧
    (removeDisplayObject (clipAtDepth avmDepthBias) 1 [1] =
      (if avmDepthBias.val ≤ avmDepthBias.val ∧ avmDepthBias.val < avmMaxRemoveDepth.val
        then [] else [1]) ∧
    (avmDepthBias.val ≤ avmDepthBias.val ∧ avmDepthBias.val < avmMaxRemoveDepth.val ↔
      0 ≤ (avmDepthBias.wrappingSub avmDepthBias).val ∧
        (avmDepthBias.wrappingSub avmDepthBias).val < avmMaxRemoveDepth.val - avmDepthBias.val) ∧
    ∀ (swfVersion : Nat) (o : Object), 6 ≤ swfVersion →
      (clipAtDepth avmDepthBias).asDisplayObject o = some 1 →
      getDepth (clipAtDepth avmDepthBias) swfVersion o [1] =
        .ok (.number (.finite (avmDepthBias.wrappingSub avmDepthBias).val))) :=
  ⟨rfl, rfl, removeDisplayObject_depth_band (clipAtDepth avmDepthBias) [1] 1 0 rfl rfl⟩

/-- At the lower bound the clip is removed; one below, it stays. -/
example : removeDisplayObject (clipAtDepth avmDepthBias) 1 [1] = [] := by decide

example : removeDisplayObject (clipAtDepth ⟨16383, by decide, by decide⟩) 1 [1] = [1] := by
  decide

end RuffleAvm
