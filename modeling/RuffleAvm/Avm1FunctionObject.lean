/-
  RuffleAvm/Avm1FunctionObject.lean
  =================================
  **Calling and constructing an AVM1 function object** (`avm1/function.rs`,
  `FunctionObject`): `call`, which runs the object's function part,
  `construct_on_existing`, which runs its constructor part — or else its
  function part — on an object that already exists, and `construct`, which
  first makes that object from the function's `prototype`.

  `construct` repeats the body of `construct_on_existing`, which the source
  marks "TODO: de-duplicate code".  The copy is faithful: what `construct`
  does is to make the new object and run `construct_on_existing` on it
  (`construct_discard`).  Its value is the new object when the function
  object has a function part and no constructor part; a native
  constructor's own value replaces it, and a function object with neither
  part gives `undefined`.

  `Executable::exec` is a parameter of each part, called with the reason
  `FunctionCall` and the function object as callee, which are the same in
  every call here; the script object the function object is built on, and
  the objects it creates, are reached through the runtime's `get`,
  `coerce_to_object`, `create_bare_object` and `define_value`.
-/
import RuffleAvm.Avm1Function

namespace RuffleAvm.Avm1

/-- `ExecutionName`. -/
inductive ExecutionName where
  | static (name : String)
  | dynamic (name : String)
deriving DecidableEq, Repr

/-- The `Attribute` flag the function object sets. -/
structure Attribute where
  dontEnum : Bool
deriving DecidableEq, Repr

/-- `Attribute::DONT_ENUM`. -/
def Attribute.DONT_ENUM : Attribute := ⟨true⟩

/-- `Executable::exec` of one part: the name it runs under, `this`, the
    depth, and the arguments. -/
abbrev Executable (σ : Type) :=
  ExecutionName → Avm1Value → Nat → List Avm1Value → EStateM Error σ Avm1Value

/-- `FunctionObject`: the object itself and `FunctionObjectData`. -/
structure FunctionObject (σ : Type) where
  self : Object
  function : Option (Executable σ)
  constructor : Option (Executable σ)

/-- What `construct` uses of the running player. -/
structure ConstructRuntime (σ : Type) where
  /-- `get("prototype", activation)` on an object. -/
  getPrototype : Object → EStateM Error σ Avm1Value
  /-- `Value::coerce_to_object`, which cannot fail but may box a primitive. -/
  coerceToObject : Avm1Value → σ → Object × σ
  /-- `prototype.create_bare_object(activation, prototype)`. -/
  createBareObject : Object → EStateM Error σ Object
  /-- `define_value`. -/
  defineValue : Object → String → Avm1Value → Attribute → σ → σ
  /-- `activation.swf_version()`. -/
  swfVersion : Nat

variable {σ : Type} (rt : ConstructRuntime σ) (f : FunctionObject σ)

/-- `call`: the function part under the property's name, at depth `0`;
    `undefined` with none. -/
def call (name : String) (this : Avm1Value) (args : List Avm1Value) : EStateM Error σ Avm1Value :=
  match f.function with
  | .some exec => exec (.dynamic name) this 0 args
  | none => pure .undefined

/-- `construct_on_existing`: `__constructor__`, and before SWF 7
    `constructor`, set to the function object; then the constructor part, or
    else the function part, run on the object, its value dropped. -/
def constructOnExisting (this : Object) (args : List Avm1Value) : EStateM Error σ Unit := do
  modify (rt.defineValue this "__constructor__" (.object f.self) .DONT_ENUM)
  if rt.swfVersion < 7 then
    modify (rt.defineValue this "constructor" (.object f.self) .DONT_ENUM)
  match f.constructor with
  | .some exec =>
    let _ ← exec (.static "[ctor]") (.object this) 1 args
  | none =>
    match f.function with
    | .some exec =>
      let _ ← exec (.static "[ctor]") (.object this) 1 args
    | none => pure ()

/-- `construct`: a bare object made from the `prototype` property, then the
    body of `construct_on_existing` on it; the value is what a constructor
    part returns, or else the new object after the function part, or else
    `undefined`. -/
def construct (args : List Avm1Value) : EStateM Error σ Avm1Value := do
  let prototype ← modifyGet (rt.coerceToObject (← rt.getPrototype f.self))
  let this ← rt.createBareObject prototype
  modify (rt.defineValue this "__constructor__" (.object f.self) .DONT_ENUM)
  if rt.swfVersion < 7 then
    modify (rt.defineValue this "constructor" (.object f.self) .DONT_ENUM)
  match f.constructor with
  | .some exec =>
    -- Native constructors return the constructed `this`.
    let this ← exec (.static "[ctor]") (.object this) 1 args
    pure this
  | none =>
    match f.function with
    | .some exec =>
      let _ ← exec (.static "[ctor]") (.object this) 1 args
      pure (.object this)
    | none => pure .undefined

/-- The object `construct` builds before running any part. -/
def newObject : EStateM Error σ Object := do
  let prototype ← modifyGet (rt.coerceToObject (← rt.getPrototype f.self))
  rt.createBareObject prototype

/-- A player whose world is the list of properties defined so far, where
    `prototype` reads as the object `⟨1⟩` and the new object is `⟨2⟩`, at
    SWF 6. -/
def definingRuntime : ConstructRuntime (List (Object × String)) where
  getPrototype _ := pure (.object ⟨1⟩)
  coerceToObject v w := (match v with | .object o => o | _ => ⟨0⟩, w)
  createBareObject _ := pure ⟨2⟩
  defineValue o name _ _ w := w ++ [(o, name)]
  swfVersion := 6

/-- An ActionScript function, the object `⟨3⟩`, that returns `undefined`. -/
def scriptFunction : FunctionObject (List (Object × String)) :=
  ⟨⟨3⟩, .some fun _ _ _ _ => pure .undefined, none⟩

/-- The copy is faithful: `construct` makes the new object and does on it
    what `construct_on_existing` does — the same definitions, the same part
    run with the same arguments, the same failures. -/
theorem construct_discard (args : List Avm1Value) :
    discard (construct rt f args) =
      newObject rt f >>= fun this => constructOnExisting rt f this args := by
  obtain ⟨self, function, constructor⟩ := f
  by_cases hv : rt.swfVersion < 7 <;> rcases constructor with _ | c <;> rcases function with _ | g <;>
    simp only [construct, newObject, constructOnExisting, discard, LawfulFunctor.map_const,
      Function.comp_apply, hv, if_true, if_false, bind_assoc, map_bind, map_pure, pure_bind]

/-- Before SWF 7, `new` defines both `__constructor__` and `constructor` on
    the new object. -/
example : (construct definingRuntime scriptFunction []).run [] =
    .ok (.object ⟨2⟩) [(⟨2⟩, "__constructor__"), (⟨2⟩, "constructor")] := rfl

end RuffleAvm.Avm1
