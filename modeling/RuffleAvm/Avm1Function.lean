/-
  RuffleAvm/Avm1Function.lean
  ===========================
  **Calling an interpreted AVM1 function** (`avm1/function.rs`,
  `Executable::exec` for `Executable::Action`): the activation it sets up
  before `run_actions` — the local registers, and the named locals of its
  fresh local scope.

  The code preloads registers with a counter `preload_r` starting at 1, one
  `if` per flag in a fixed order; `super` goes to a register or, without
  `PRELOAD_SUPER`, to a named local, and `_parent` is skipped when the base
  clip has none.  Then it zips the parameters with the arguments padded by
  `undefined`, each going to its register or to a named local.

  Each preload step moves the state `pushed regs locals vs` — the values `vs`
  written from register 1 on — to the same state with one more value
  (`preload_pushed` and its siblings), so the whole chain writes the list
  `preloadValues` (`execAction_eq`).  `execAction_setup` then describes the
  result pointwise: register `r` holds the argument of the last parameter
  declared in it, or else the `r`-th preloaded value; a name holds the
  argument of the last register-less parameter of that name, or else — for
  `super` — the super object no register took.  A parameter may itself be
  named `super`, and then defines that local with no super object at all
  (`superParam_defines_super_local`).

  The activation (`activation.rs`) and the display objects are not in this
  source: what `exec` asks of them — the recursion check, the objects to
  preload, the register file and the local scope — is modelled from the
  spec.
-/
import RuffleAvm.Basic

namespace RuffleAvm

/-! ### Values, functions, frames -/

/-- An AVM1 value; an object is a reference. -/
inductive Avm1Value where
  | undefined
  | null
  | bool (b : Bool)
  | number (n : F64)
  | string (s : String)
  | object (o : Object)
deriving DecidableEq, Repr

/-- `this_obj`: the value is an object. -/
def Avm1Value.isObject : Avm1Value → Bool
  | .object _ => true
  | _ => false

/-- The flags of `swf::avm1::types::FunctionFlags` that decide the frame.
    (`SUPPRESS_ARGUMENTS` only empties the `arguments` array, which is given
    here.) -/
structure FunctionFlags where
  preloadThis : Bool
  preloadArguments : Bool
  preloadSuper : Bool
  suppressSuper : Bool
  preloadRoot : Bool
  preloadParent : Bool
  preloadGlobal : Bool
deriving DecidableEq, Repr

/-- A `NonZeroU8` register number. -/
structure NonZeroU8 where
  val : Nat
  pos : 0 < val
  lt : val < 256
deriving DecidableEq, Repr

/-- `Param`: a register, or `None` for a named local, and a name. -/
structure Param where
  register : Option NonZeroU8
  name : String
deriving DecidableEq, Repr

/-- The parts of `Avm1Function` that `exec` reads to set up the frame. -/
structure Avm1Function where
  registerCount : Nat
  params : List Param
  flags : FunctionFlags
deriving DecidableEq, Repr

/-- Modelled from the spec: what `exec` asks of the running player — the
    recursion check of `activation.id.function`, the `arguments` array and the
    `SuperObject` it builds, the base clip's `_root` (which may fail) and
    `_parent` (which may be absent), and `_global`. -/
structure CallEnv where
  enterFunction : Except Error Unit
  arguments : Avm1Value
  superObject : Avm1Value
  root : Except Error Avm1Value
  parent : Option Avm1Value
  global : Avm1Value

/-- The activation's state that `exec` writes: its local registers and the
    named locals of its local scope. -/
structure Frame where
  registers : List Avm1Value
  locals : List (String × Avm1Value)
deriving DecidableEq, Repr

namespace Frame

/-- A frame after `allocate_local_registers`: `count` registers holding
    `undefined`, and an empty local scope. -/
def new (count : Nat) : Frame := ⟨List.replicate count .undefined, []⟩

/-- Modelled from the spec: `set_local_register` — a register past the
    allocated ones is not written. -/
def setLocalRegister (f : Frame) (id : Nat) (value : Avm1Value) : Frame :=
  { f with registers := f.registers.set id value }

/-- Modelled from the spec: `force_define_local` — defines or redefines the
    name on the local scope. -/
def forceDefineLocal (f : Frame) (name : String) (value : Avm1Value) : Frame :=
  { f with locals := assocInsert f.locals name value }

@[simp] theorem setLocalRegister_locals (f : Frame) (id : Nat) (v : Avm1Value) :
    (f.setLocalRegister id v).locals = f.locals := rfl

@[simp] theorem forceDefineLocal_registers (f : Frame) (n : String) (v : Avm1Value) :
    (f.forceDefineLocal n v).registers = f.registers := rfl

end Frame

/-! ### `Executable::exec` -/

/-- One optional preload: with its flag set, the value goes to register
    `preload_r`, which moves on. -/
def preload (flag : Bool) (value : Avm1Value) : Frame × Nat → Frame × Nat
  | (f, r) => if flag then (f.setLocalRegister r value, r + 1) else (f, r)

/-- `super_object`: built when `this` is an object and `SUPPRESS_SUPER` is
    unset. -/
def superObject? (af : Avm1Function) (env : CallEnv) (this : Avm1Value) : Option Avm1Value :=
  if this.isObject && !af.flags.suppressSuper then some env.superObject else none

/-- The `super` preload: to a register with `PRELOAD_SUPER`, else to the named
    local `super`; nothing without a super object. -/
def preloadSuper (flag : Bool) (superObject : Option Avm1Value) : Frame × Nat → Frame × Nat
  | (f, r) => match superObject with
    | some s => if flag then (f.setLocalRegister r s, r + 1) else (f.forceDefineLocal "super" s, r)
    | none => (f, r)

/-- The `_parent` preload: skipped, register and all, when there is no
    parent. -/
def preloadParent (flag : Bool) (parent : Option Avm1Value) (s : Frame × Nat) : Frame × Nat :=
  match parent with
  | some p => preload flag p s
  | none => s

/-- The `_global` preload, the last: the counter is not moved on. -/
def preloadGlobal (flag : Bool) (global : Avm1Value) : Frame × Nat → Frame
  | (f, r) => if flag then f.setLocalRegister r global else f

/-- One step of the parameter loop. -/
def bindParam (f : Frame) : Param × Avm1Value → Frame
  | (param, value) => match param.register with
    | some register => f.setLocalRegister register.val value
    | none => f.forceDefineLocal param.name value

/-- `Executable::exec` on an `Avm1Function`, up to `run_actions`: the frame it
    sets up. -/
def execAction (af : Avm1Function) (env : CallEnv) (this : Avm1Value)
    (args : List Avm1Value) : Except Error Frame := do
  let superObject := superObject? af env this
  env.enterFunction
  let s := (Frame.new af.registerCount, 1)
  let s := preload af.flags.preloadThis this s
  let s := preload af.flags.preloadArguments env.arguments s
  let s := preloadSuper af.flags.preloadSuper superObject s
  let s ← if af.flags.preloadRoot then (preload true · s) <$> env.root else pure s
  let s := preloadParent af.flags.preloadParent env.parent s
  let frame := preloadGlobal af.flags.preloadGlobal env.global s
  -- any unassigned args are set to undefined
  let argsIter := args ++ List.replicate af.params.length .undefined
  pure ((af.params.zip argsIter).foldl bindParam frame)

/-! ### The registers the preloads write -/

/-- Registers `start, start + 1, …` set to `vs` in turn, as the preloads set
    them; like `set_local_register`, a register past the list is not
    written. -/
def setFrom (regs : List Avm1Value) (start : Nat) : List Avm1Value → List Avm1Value
  | [] => regs
  | v :: vs => setFrom (regs.set start v) (start + 1) vs

@[simp] theorem length_setFrom (regs : List Avm1Value) (start : Nat) (vs : List Avm1Value) :
    (setFrom regs start vs).length = regs.length := by
  induction vs generalizing regs start with
  | nil => rfl
  | cons v vs ih => simp [setFrom, ih]

theorem setFrom_append (regs : List Avm1Value) (start : Nat) (vs ws : List Avm1Value) :
    setFrom regs start (vs ++ ws) = setFrom (setFrom regs start vs) (start + vs.length) ws := by
  induction vs generalizing regs start with
  | nil => rfl
  | cons v vs ih =>
    rw [List.cons_append, setFrom, setFrom, ih, List.length_cons, Nat.add_right_comm,
      Nat.add_assoc]

/-- Register `r` after `setFrom`: the value pushed to it, if `r` is allocated
    and one was. -/
theorem getElem?_setFrom (regs : List Avm1Value) (start r : Nat) (vs : List Avm1Value) :
    (setFrom regs start vs)[r]? =
      if r < regs.length ∧ start ≤ r then vs[r - start]?.or regs[r]? else regs[r]? := by
  induction vs generalizing regs start with
  | nil => simp [setFrom]
  | cons v vs ih =>
    simp only [setFrom, ih, List.length_set, List.getElem?_set]
    by_cases hr : r < regs.length
    · by_cases hs : start = r
      · subst hs; simp [hr]
      · by_cases hs' : start + 1 ≤ r
        · simp [hr, hs, hs', show start ≤ r by omega,
            show r - start = r - (start + 1) + 1 by omega]
        · simp [hr, hs, hs', show ¬start ≤ r by omega]
    · simp [hr, List.getElem?_eq_none (Nat.le_of_not_lt hr)]
      omega

/-- The state after the preloads that pushed `vs` from register 1 on, over the
    registers `regs` and the locals `locals`. -/
def pushed (regs : List Avm1Value) (locals : List (String × Avm1Value)) (vs : List Avm1Value) :
    Frame × Nat :=
  (⟨setFrom regs 1 vs, locals⟩, 1 + vs.length)

/-- The named local `super` that the `super` preload defines: the super object,
    unless `PRELOAD_SUPER` puts it in a register. -/
def superLocal? (flag : Bool) (superObject : Option Avm1Value) : Option Avm1Value :=
  if flag then none else superObject

section Steps

variable (regs : List Avm1Value) (locals : List (String × Avm1Value)) (vs : List Avm1Value)

theorem preload_pushed (flag : Bool) (v : Avm1Value) :
    preload flag v (pushed regs locals vs) =
      pushed regs locals (vs ++ if flag then [v] else []) := by
  cases flag <;> simp [preload, pushed, Frame.setLocalRegister, setFrom_append, setFrom]; omega

theorem preloadSuper_pushed (flag : Bool) (superObject : Option Avm1Value) :
    preloadSuper flag superObject (pushed regs locals vs) =
      pushed regs ((superLocal? flag superObject).elim locals (assocInsert locals "super"))
        (vs ++ if flag then superObject.toList else []) := by
  cases superObject <;> cases flag <;>
    simp [preloadSuper, superLocal?, pushed, Frame.setLocalRegister, Frame.forceDefineLocal,
      setFrom_append, setFrom]
  omega

theorem preloadParent_pushed (flag : Bool) (parent : Option Avm1Value) :
    preloadParent flag parent (pushed regs locals vs) =
      pushed regs locals (vs ++ if flag then parent.toList else []) := by
  cases parent
  · cases flag <;> simp [preloadParent]
  · cases flag <;> simp [preloadParent, preload_pushed]

theorem preloadGlobal_pushed (flag : Bool) (global : Avm1Value) :
    preloadGlobal flag global (pushed regs locals vs) =
      (pushed regs locals (vs ++ if flag then [global] else [])).1 := by
  cases flag <;> simp [preloadGlobal, pushed, Frame.setLocalRegister, setFrom_append, setFrom]

end Steps

/-- Modelled from the spec: the values preloaded to registers `1, 2, 3, …`,
    in the flags' fixed order — `super` only when a super object was built
    and `_parent` only when there is a parent; reading `_root` may fail. -/
def preloadValues (af : Avm1Function) (env : CallEnv) (this : Avm1Value) :
    Except Error (List Avm1Value) := do
  let root ← if af.flags.preloadRoot then (fun r => [r]) <$> env.root else pure []
  pure <| (if af.flags.preloadThis then [this] else []) ++
    (if af.flags.preloadArguments then [env.arguments] else []) ++
    (if af.flags.preloadSuper then (superObject? af env this).toList else []) ++ root ++
    (if af.flags.preloadParent then env.parent.toList else []) ++
    (if af.flags.preloadGlobal then [env.global] else [])

/-! ### The parameters -/

/-- Modelled from the spec: parameter `i` with the value it receives, `args[i]`,
    or `undefined` past the arguments. -/
def bindings (params : List Param) (args : List Avm1Value) : List (Param × Avm1Value) :=
  params.mapIdx fun i p => (p, args.getD i .undefined)

/-- The value of the last of the bindings that `sel` picks, if any. -/
def lastWrite (sel : Param → Bool) : List (Param × Avm1Value) → Option Avm1Value
  | [] => none
  | (p, v) :: rest => (lastWrite sel rest).or (if sel p then some v else none)

/-- The parameter is declared in register `r`. -/
def writesRegister (r : Nat) (p : Param) : Bool := p.register.map (·.val) == some r

/-- The parameter has no register and the name `n`. -/
def definesLocal (n : String) (p : Param) : Bool := p.register.isNone && p.name == n

theorem zip_padded_eq_bindings (params : List Param) (args : List Avm1Value) :
    params.zip (args ++ List.replicate params.length .undefined) = bindings params args := by
  apply List.ext_getElem?
  intro i
  simp only [bindings, List.zip, List.getElem?_zipWith, List.getElem?_mapIdx,
    List.getD_eq_getElem?_getD, List.getElem?_append, List.getElem?_replicate]
  rcases hp : params[i]? with _ | p
  · rfl
  · have hi : i < params.length := by simpa using (List.getElem?_eq_some_iff.mp hp).1
    by_cases ha : i < args.length
    · simp [ha, List.getElem?_eq_getElem ha]
    · simp [ha, List.getElem?_eq_none (Nat.le_of_not_lt ha),
        show i - args.length < params.length by omega]

section Bind

variable (f : Frame) (p : Param) (v : Avm1Value)

@[simp] theorem length_bindParam : (bindParam f (p, v)).registers.length = f.registers.length := by
  obtain ⟨_ | register, name⟩ := p <;> simp [bindParam, Frame.setLocalRegister]

theorem getElem?_bindParam {r : Nat} (hr : r < f.registers.length) :
    (bindParam f (p, v)).registers[r]? =
      (if writesRegister r p then some v else none).or f.registers[r]? := by
  obtain ⟨_ | register, name⟩ := p
  · simp [bindParam, writesRegister]
  · by_cases h : register.val = r <;>
      simp [bindParam, writesRegister, Frame.setLocalRegister, List.getElem?_set, h, hr]

theorem lookup_bindParam (n : String) :
    (bindParam f (p, v)).locals.lookup n =
      (if definesLocal n p then some v else none).or (f.locals.lookup n) := by
  obtain ⟨_ | register, name⟩ := p
  · by_cases h : n = name
    · simp [bindParam, definesLocal, Frame.forceDefineLocal, lookup_assocInsert, h]
    · simp [bindParam, definesLocal, Frame.forceDefineLocal, lookup_assocInsert, h, Ne.symm h]
  · simp [bindParam, definesLocal]

end Bind

@[simp] theorem length_foldl_bindParam (bs : List (Param × Avm1Value)) (f : Frame) :
    (bs.foldl bindParam f).registers.length = f.registers.length := by
  induction bs generalizing f with
  | nil => rfl
  | cons b bs ih => rw [List.foldl_cons, ih, b.eta.symm, length_bindParam]

/-- Register `r` after the parameter loop: the value of the last parameter
    declared in it, or what it held before. -/
theorem getElem?_foldl_bindParam (bs : List (Param × Avm1Value)) (f : Frame) (r : Nat)
    (hr : r < f.registers.length) :
    (bs.foldl bindParam f).registers[r]? =
      (lastWrite (writesRegister r) bs).or f.registers[r]? := by
  induction bs generalizing f with
  | nil => rfl
  | cons b bs ih =>
    obtain ⟨p, v⟩ := b
    rw [List.foldl_cons, ih _ ((length_bindParam f p v).symm ▸ hr), getElem?_bindParam f p v hr,
      lastWrite, Option.or_assoc]

/-- A named local after the parameter loop: the value of the last
    register-less parameter of that name, or what it held before. -/
theorem lookup_foldl_bindParam (bs : List (Param × Avm1Value)) (f : Frame) (n : String) :
    (bs.foldl bindParam f).locals.lookup n =
      (lastWrite (definesLocal n) bs).or (f.locals.lookup n) := by
  induction bs generalizing f with
  | nil => rfl
  | cons b bs ih =>
    obtain ⟨p, v⟩ := b
    rw [List.foldl_cons, ih, lookup_bindParam, lastWrite, Option.or_assoc]

/-! ### The activation `exec` sets up -/

/-- The named locals the preloads leave: `super`, if the preload defines it. -/
def superLocals (af : Avm1Function) (env : CallEnv) (this : Avm1Value) :
    List (String × Avm1Value) :=
  (superLocal? af.flags.preloadSuper (superObject? af env this)).elim [] fun s => [("super", s)]

/-- `exec` enters the function, reads the preloads, and runs the parameter loop
    over the frame with the preloaded registers and the `super` local. -/
theorem execAction_eq (af : Avm1Function) (env : CallEnv) (this : Avm1Value)
    (args : List Avm1Value) :
    execAction af env this args = (do
      env.enterFunction
      let pl ← preloadValues af env this
      pure ((bindings af.params args).foldl bindParam
        (pushed (List.replicate af.registerCount .undefined) (superLocals af env this) pl).1)) := by
  have h0 : (Frame.new af.registerCount, 1) =
      pushed (List.replicate af.registerCount .undefined) [] [] := rfl
  have hs : (superLocal? af.flags.preloadSuper (superObject? af env this)).elim []
      (assocInsert [] "super") = superLocals af env this := by
    unfold superLocals; cases superLocal? af.flags.preloadSuper (superObject? af env this) <;> rfl
  cases he : env.enterFunction with
  | error e => simp [execAction, he]
  | ok u =>
    cases hr : af.flags.preloadRoot <;> cases hroot : env.root <;>
      simp [execAction, preloadValues, he, hr, hroot, h0, preload_pushed, preloadSuper_pushed,
        preloadParent_pushed, preloadGlobal_pushed, hs, zip_padded_eq_bindings]

theorem getElem?_pushed_new (count : Nat) (locals : List (String × Avm1Value))
    (pl : List Avm1Value) (r : Nat) :
    (pushed (List.replicate count .undefined) locals pl).1.registers[r]? =
      if r < count then some ((if r = 0 then none else pl[r - 1]?).getD .undefined) else none := by
  simp only [pushed, getElem?_setFrom, List.length_replicate, List.getElem?_replicate]
  by_cases hr : r < count
  · by_cases h0 : r = 0
    · simp [hr, h0]
    · simp only [hr, show 1 ≤ r by omega, and_self, if_true, h0, if_false]
      cases pl[r - 1]? <;> rfl
  · simp [hr]

theorem lookup_superLocals (af : Avm1Function) (env : CallEnv) (this : Avm1Value) (n : String) :
    (superLocals af env this).lookup n =
      if n = "super" then superLocal? af.flags.preloadSuper (superObject? af env this)
      else none := by
  unfold superLocals
  cases superLocal? af.flags.preloadSuper (superObject? af env this) <;>
    by_cases h : n = "super" <;> simp [h, List.lookup_cons, beq_eq_false_iff_ne.mpr]

/-- Modelled from the spec: register `r` once the activation is set up — the
    argument of the last parameter declared in it, else the `r`-th preloaded
    value, else `undefined`. -/
def registerAfter (af : Avm1Function) (args pl : List Avm1Value) (r : Nat) : Avm1Value :=
  ((lastWrite (writesRegister r) (bindings af.params args)).or
    (if r = 0 then none else pl[r - 1]?)).getD .undefined

/-- Modelled from the spec: the named local `n` once the activation is set up —
    the argument of the last register-less parameter named `n`, else, for
    `super`, the super object that no register took. -/
def localAfter (af : Avm1Function) (env : CallEnv) (this : Avm1Value) (args : List Avm1Value)
    (n : String) : Option Avm1Value :=
  (lastWrite (definesLocal n) (bindings af.params args)).or
    (if n = "super" then superLocal? af.flags.preloadSuper (superObject? af env this) else none)

/-- What `exec` leaves before `run_actions`: it fails exactly when the
    recursion check or `_root` fails, and otherwise every register and every
    named local is as `registerAfter` and `localAfter` say. -/
theorem execAction_setup (af : Avm1Function) (env : CallEnv) (this : Avm1Value)
    (args : List Avm1Value) :
    (∀ e, execAction af env this args = .error e ↔
      (do env.enterFunction; preloadValues af env this) = .error e) ∧
    ∀ frame, execAction af env this args = .ok frame →
      ∃ pl, preloadValues af env this = .ok pl ∧
        (∀ r, frame.registers[r]? =
          if r < af.registerCount then some (registerAfter af args pl r) else none) ∧
        ∀ n, frame.locals.lookup n = localAfter af env this args n := by
  rw [execAction_eq]
  cases he : env.enterFunction with
  | error e => simp
  | ok u =>
    cases hp : preloadValues af env this with
    | error e => simp
    | ok pl =>
      refine ⟨by simp [pure, Except.pure], ?_⟩
      rintro frame ⟨⟩
      refine ⟨pl, rfl, fun r => ?_, fun n => ?_⟩
      · by_cases hr : r < af.registerCount
        · rw [getElem?_foldl_bindParam _ _ _ (by simpa [pushed] using hr), getElem?_pushed_new,
            if_pos hr, if_pos hr, registerAfter]
          cases lastWrite (writesRegister r) (bindings af.params args) <;> rfl
        · rw [if_neg hr]
          exact List.getElem?_eq_none (by simpa [pushed] using hr)
      · rw [lookup_foldl_bindParam, pushed, lookup_superLocals, localAfter]

/-- A function with no flag set and one parameter, named `super`, with no
    register. -/
def superParamFunction : Avm1Function :=
  ⟨0, [⟨none, "super"⟩], ⟨false, false, false, false, false, false, false⟩⟩

/-- A call whose recursion check passes, with `undefined` for every object to
    preload and no parent. -/
def plainCallEnv : CallEnv := ⟨.ok (), .undefined, .undefined, .ok .undefined, none, .undefined⟩

theorem superParam_defines_super_local :
    superObject? superParamFunction plainCallEnv .undefined = none ∧
      execAction superParamFunction plainCallEnv .undefined [] =
        .ok ⟨[], [("super", .undefined)]⟩ :=
  ⟨rfl, rfl⟩

end RuffleAvm
