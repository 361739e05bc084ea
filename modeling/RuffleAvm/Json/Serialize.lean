/-
  RuffleAvm/Json/Serialize.lean
  =============================
  **`JSON.stringify`'s serializer** (`avm2/globals/json.rs`):
  `AvmSerializer::serialize_value`, `serialize_object` and
  `serialize_iterable`, with no replacer and on objects with no callable
  `toJSON`, where `map_value` returns the value it is given.

  The serializer keeps `obj_stack`, the objects it is inside of, and refuses
  an object already on it with `TypeError #1129`.  Three layers:

  * `serializeValue` — the code, the stack as state, recursion bounded by fuel;
  * `serializeOnPath` — the same walk reading the stack as the path from the
    root, never writing it: on success the code leaves the stack as it found
    it, so it *is* this walk (`serializeValue_reads`);
  * what the serializer is for: the tree unfolding of the object graph
    (`treeJson`), or #1129 when an object reachable from the root lies on a
    cycle (`OnCycle`).
-/
import RuffleAvm.Value
import RuffleAvm.Json.Value
import Mathlib.Data.Finset.Card
import Mathlib.Logic.Relation

namespace RuffleAvm

/-! ### Loops of the serializer

The object loop of `serialize_object` skips the properties whose value is
`undefined`; in any lawful monad it is a `mapM` over the others followed by
the inserts. -/

section Loops

variable {m : Type → Type} [Monad m] [LawfulMonad m] {α β γ : Type}

theorem foldlM_skip_eq_mapM (f : α → m β) (skip : α → Prop) [DecidablePred skip]
    (ins : γ → α → β → γ) : ∀ (l : List α) (init : γ),
    l.foldlM (fun acc a => if skip a then pure acc else (ins acc a ·) <$> f a) init =
      (fun bs => bs.foldl (fun acc p => ins acc p.1 p.2) init) <$>
        (l.filter fun a => !decide (skip a)).mapM fun a => (a, ·) <$> f a
  | [], init => by
    simp only [List.filter_nil, List.mapM_nil, List.foldlM_nil, map_pure, List.foldl_nil]
  | a :: l, init => by
    by_cases h : skip a
    · simp only [List.foldlM_cons, h, if_true, pure_bind, foldlM_skip_eq_mapM f skip ins l,
        List.filter_cons, decide_True, Bool.not_true]
      rfl
    · simp only [List.foldlM_cons, h, if_false, foldlM_skip_eq_mapM f skip ins l,
        List.filter_cons, decide_False, Bool.not_false, if_true, List.mapM_cons, map_bind,
        bind_map_left, List.foldl_cons]
      simp

end Loops

/-! ### The serializer -/

/-- The serializer's state, `obj_stack`, the last object pushed at the end;
    a step fails with an error, or runs out of fuel (`none`). -/
abbrev Serializer := StateT (List Object) (ExceptT Error Option)

/-- The error for an object met while inside it. -/
def cyclicStructure : Error :=
  "TypeError: Error #1129: Cyclic structure cannot be converted to JSON string."

/-- The part of `serialize_value` around an array or a plain object: refuse
    it if it is on the stack, push it, serialize it, pop it. -/
def withObject (obj : Object) (body : Serializer JsonValue) : Serializer JsonValue := do
  if (← get).contains obj then throw cyclicStructure
  else do
    modify (· ++ [obj])
    let value ← body
    modify List.dropLast
    pure value

section Serializer

variable (h : Heap)

/-- `AvmSerializer::serialize_value`, with `fuel` bounding the depth of its
    recursion.  An array goes through `serialize_iterable`, a plain object
    through `serialize_object`, whose loop over the enumerants skips the
    `undefined` values. -/
def serializeValue : Nat → Value → Serializer JsonValue
  | 0, _ => fun _ => ExceptT.mk none
  | fuel + 1, value =>
    match value with
    | .null => pure .null
    | .undefined => pure .null
    | .integer i => pure (.ofI32 i)
    | .unsigned u => pure (.ofU32 u)
    | .number n => pure (.ofF64 n)
    | .bool b => pure (.bool b)
    | .string s => pure (.string s)
    | .object obj =>
      match h.data obj with
      | .boxed prim => serializeValue fuel prim.val
      | .array elements => withObject obj <| .array <$> elements.mapM (serializeValue fuel)
      | .plain props => withObject obj <| .object <$> props.foldlM (fun js p =>
          if p.2 = .undefined then pure js
          else (JsonValue.insert js p.1 ·) <$> serializeValue fuel p.2) []

/-- `serialize_value` reading the stack as the path from the root to the
    value, and never writing it. -/
def serializeOnPath : Nat → List Object → Value → ExceptT Error Option JsonValue
  | 0, _, _ => ExceptT.mk none
  | fuel + 1, path, value =>
    match value with
    | .null => pure .null
    | .undefined => pure .null
    | .integer i => pure (.ofI32 i)
    | .unsigned u => pure (.ofU32 u)
    | .number n => pure (.ofF64 n)
    | .bool b => pure (.bool b)
    | .string s => pure (.string s)
    | .object obj =>
      match h.data obj with
      | .boxed prim => serializeOnPath fuel path prim.val
      | .array elements =>
        if obj ∈ path then throw cyclicStructure
        else .array <$> elements.mapM (serializeOnPath fuel (path ++ [obj]))
      | .plain props =>
        if obj ∈ path then throw cyclicStructure
        else .object <$> props.foldlM (fun js p =>
          if p.2 = .undefined then pure js
          else (JsonValue.insert js p.1 ·) <$> serializeOnPath fuel (path ++ [obj]) p.2) []

/-- The JSON of the tree unfolding of the object graph from a value: every
    occurrence of an object written out in full. -/
def treeJson : Nat → Value → Option JsonValue
  | 0, _ => none
  | fuel + 1, value =>
    match value with
    | .null => pure .null
    | .undefined => pure .null
    | .integer i => pure (.ofI32 i)
    | .unsigned u => pure (.ofU32 u)
    | .number n => pure (.ofF64 n)
    | .bool b => pure (.bool b)
    | .string s => pure (.string s)
    | .object obj =>
      match h.data obj with
      | .boxed prim => treeJson fuel prim.val
      | .array elements => .array <$> elements.mapM (treeJson fuel)
      | .plain props => .object <$> props.foldlM (fun js p =>
          if p.2 = .undefined then pure js
          else (JsonValue.insert js p.1 ·) <$> treeJson fuel p.2) []

/-- An object reachable from the value: the value itself, or one its graph
    leads to. -/
def Reaches (v : Value) (o : Object) : Prop :=
  ∃ o₀, v = .object o₀ ∧ Relation.ReflTransGen h.Edge o₀ o

/-- An object on a cycle of the graph. -/
def OnCycle (o : Object) : Prop := Relation.TransGen h.Edge o o

end Serializer

/-! ### The serializer walks the path

A serializer step `Reads` a function of the stack when it leaves the stack as
it found it and computes what the function computes from it.  Pushing the
object before its contents and popping it after makes `serialize_value` such
a step, reading `serializeOnPath`. -/

/-- The step leaves the stack unchanged and computes `y` of it. -/
def Serializer.Reads {α : Type} (x : Serializer α)
    (y : List Object → ExceptT Error Option α) : Prop :=
  ∀ st, (x.run st).run = ((y st).run).map (Except.map (·, st))

namespace Serializer

variable {α β : Type}

theorem reads_pure (a : α) : Reads (pure a) fun _ => pure a := fun _ => rfl

theorem reads_bind {x : Serializer α} {y} {f : α → Serializer β}
    {g : α → List Object → ExceptT Error Option β} (hx : Reads x y) (hf : ∀ a, Reads (f a) (g a)) :
    Reads (x >>= f) fun st => y st >>= (g · st) := by
  intro st
  rw [StateT.run_bind, ExceptT.run_bind, ExceptT.run_bind, hx st]
  rcases (y st).run with _ | _ | a
  · rfl
  · rfl
  · simpa using hf a st

theorem reads_map {x : Serializer α} {y} (f : α → β) (hx : Reads x y) :
    Reads (f <$> x) fun st => f <$> y st := by
  intro st
  rw [StateT.run_map, ExceptT.run_map, ExceptT.run_map, hx st]
  rcases (y st).run with _ | _ | a <;> rfl

theorem reads_mapM {f : α → Serializer β} {g : α → List Object → ExceptT Error Option β} :
    ∀ {l : List α}, (∀ a ∈ l, Reads (f a) (g a)) → Reads (l.mapM f) fun st => l.mapM (g · st)
  | [], _ => by simpa using reads_pure []
  | a :: l, h => by
    simp only [List.mapM_cons]
    exact reads_bind (h a (.head _)) fun _ =>
      reads_bind (reads_mapM fun a ha => h a (.tail _ ha)) fun _ => reads_pure _

theorem reads_withObject {obj : Object} {body : Serializer JsonValue} {y} (hb : Reads body y) :
    Reads (withObject obj body) fun st =>
      if obj ∈ st then throw cyclicStructure else y (st ++ [obj]) := by
  intro st
  by_cases hin : obj ∈ st
  · simp [withObject, hin]
    rfl
  · simp [withObject, hin, hb _]
    rcases (y (st ++ [obj])).run with _ | _ | a <;> simp [Except.map]

end Serializer

theorem serializeValue_reads (h : Heap) :
    ∀ fuel v, Serializer.Reads (serializeValue h fuel v) (serializeOnPath h fuel · v)
  | 0, _ => fun _ => rfl
  | fuel + 1, v => by
    cases v with
    | object obj =>
      cases hd : h.data obj with
      | boxed prim =>
        simp only [serializeValue, serializeOnPath, hd]
        exact serializeValue_reads h fuel prim.val
      | array es =>
        simp only [serializeValue, serializeOnPath, hd]
        exact Serializer.reads_withObject (Serializer.reads_map _
          (Serializer.reads_mapM fun a _ => serializeValue_reads h fuel a))
      | plain props =>
        simp only [serializeValue, serializeOnPath, hd, foldlM_skip_eq_mapM]
        exact Serializer.reads_withObject (Serializer.reads_map _ (Serializer.reads_map _
          (Serializer.reads_mapM fun (a : String × Value) _ =>
            Serializer.reads_map _ (serializeValue_reads h fuel a.2))))
    | _ => exact fun _ => rfl

/-! ### Outcomes of a list of steps

`mapM` in `ExceptT Error Option` stops at the first element that fails or
runs out. -/

section Outcome

variable {α β : Type} {f : α → ExceptT Error Option β}

theorem mapM_cons_run (a : α) (l : List α) : ((a :: l).mapM f).run =
    match (f a).run with
    | none => none
    | some (.error e) => some (.error e)
    | some (.ok b) => ((l.mapM f).run).map (Except.map (b :: ·)) := by
  simp only [List.mapM_cons, ExceptT.run_bind]
  rcases (f a).run with _ | _ | b
  · rfl
  · rfl
  · simp only [Option.some_bind]
    rcases (l.mapM f).run with _ | _ | bs <;> rfl

theorem mapM_run_error : ∀ {l : List α} {e : Error}, (l.mapM f).run = some (.error e) →
    ∃ a ∈ l, (f a).run = some (.error e)
  | [], e, h => nomatch h
  | a :: l, e, h => by
    rw [mapM_cons_run] at h
    rcases ha : (f a).run with _ | _ | b <;> rw [ha] at h
    · cases h
    · cases h; exact ⟨a, .head _, ha⟩
    · rcases hl : (l.mapM f).run with _ | _ | bs <;> rw [hl] at h <;> cases h
      obtain ⟨a', ha', he⟩ := mapM_run_error hl
      exact ⟨a', .tail _ ha', he⟩

theorem mapM_run_ok : ∀ {l : List α} {bs : List β}, (l.mapM f).run = some (.ok bs) →
    ∀ a ∈ l, ∃ b, (f a).run = some (.ok b)
  | [], _, _ => nofun
  | a :: l, bs, h => by
    rw [mapM_cons_run] at h
    rcases ha : (f a).run with _ | _ | b <;> rw [ha] at h <;> try cases h
    rcases hl : (l.mapM f).run with _ | _ | bs' <;> rw [hl] at h <;> cases h
    intro a' ha'
    rcases List.mem_cons.mp ha' with rfl | ha'
    · exact ⟨b, ha⟩
    · exact mapM_run_ok hl a' ha'

theorem mapM_run_ne_none : ∀ {l : List α}, (∀ a ∈ l, (f a).run ≠ none) → (l.mapM f).run ≠ none
  | [], _ => nofun
  | a :: l, h => by
    rw [mapM_cons_run]
    rcases ha : (f a).run with _ | _ | b
    · exact absurd ha (h a (.head _))
    · nofun
    · have hl := mapM_run_ne_none fun a' ha' => h a' (.tail _ ha')
      rcases hl' : (l.mapM f).run with _ | _ | bs
      · exact absurd hl' hl
      · nofun
      · nofun

theorem mapM_run_ok_option {g : α → Option β} :
    ∀ {l : List α} {bs : List β}, (∀ a ∈ l, ∀ b, (f a).run = some (.ok b) → g a = some b) →
      (l.mapM f).run = some (.ok bs) → l.mapM g = some bs
  | [], _, _, h => by cases h; rfl
  | a :: l, bs, hg, h => by
    rw [mapM_cons_run] at h
    rcases ha : (f a).run with _ | _ | b <;> rw [ha] at h <;> try cases h
    rcases hl : (l.mapM f).run with _ | _ | bs' <;> rw [hl] at h <;> cases h
    rw [List.mapM_cons, hg a (.head _) b ha,
      mapM_run_ok_option (fun a' ha' => hg a' (.tail _ ha')) hl]
    rfl

end Outcome

section MapRun
variable {α β : Type} {g : α → β} {x : ExceptT Error Option α}

theorem run_map_error {e : Error} (hx : (g <$> x).run = some (.error e)) : x.run = some (.error e) := by
  rw [ExceptT.run_map] at hx
  rcases hr : x.run with _ | _ | a <;> rw [hr] at hx <;> cases hx; rfl

theorem run_map_ok {b : β} (hx : (g <$> x).run = some (.ok b)) : ∃ a, x.run = some (.ok a) ∧ g a = b := by
  rw [ExceptT.run_map] at hx
  rcases hr : x.run with _ | _ | a <;> rw [hr] at hx <;> cases hx; exact ⟨a, rfl, rfl⟩

theorem run_map_ne_none (hx : x.run ≠ none) : (g <$> x).run ≠ none := by
  rw [ExceptT.run_map]
  rcases hr : x.run with _ | _ | a
  · exact absurd hr hx
  · nofun
  · nofun
end MapRun

/-! ### Objects that make the walk fail

`Bad path v`: from `v` the graph reaches an object on a cycle, or a container
already on the path.  The walk fails exactly then. -/

section Graph

variable (h : Heap)

/-- Some object reachable from `v` is on a cycle, or is an array or plain
    object on the path. -/
def Bad (path : List Object) (v : Value) : Prop :=
  ∃ o, Reaches h v o ∧ (OnCycle h o ∨ o ∈ path ∧ (h.data o).isBoxed = false)

variable {h}

theorem not_reaches_of_isPrimitive {v : Value} (hv : v.isPrimitive = true) (o : Object) :
    ¬Reaches h v o := by
  rintro ⟨o₀, rfl, -⟩
  cases hv

theorem not_edge_of_isBoxed {obj : Object} (hobj : (h.data obj).isBoxed = true) (c : Object) :
    ¬h.Edge obj c := by
  unfold Heap.Edge
  cases hd : h.data obj with
  | boxed => simp [ObjectData.children, ObjectData.values]
  | _ => simp [hd, ObjectData.isBoxed] at hobj

theorem bad_of_child {path : List Object} {obj : Object} {a : Value}
    (ha : a ∈ (h.data obj).values) (hbad : Bad h (path ++ [obj]) a) : Bad h path (.object obj) := by
  obtain ⟨o, ⟨c, rfl, hco⟩, hrest⟩ := hbad
  have hedge : h.Edge obj c := ObjectData.mem_children.mpr ha
  have hreach : Reaches h (.object obj) o := ⟨obj, rfl, .head hedge hco⟩
  rcases hrest with hcyc | ⟨hin, hbox⟩
  · exact ⟨o, hreach, .inl hcyc⟩
  · rcases List.mem_append.mp hin with hin | hin
    · exact ⟨o, hreach, .inr ⟨hin, hbox⟩⟩
    · obtain rfl := List.mem_singleton.mp hin
      exact ⟨o, ⟨o, rfl, .refl⟩, .inl (.head' hedge hco)⟩

theorem not_bad_of_children {path : List Object} {obj : Object}
    (hobj : (h.data obj).isBoxed = false) (hin : obj ∉ path)
    (hc : ∀ a ∈ (h.data obj).values, ¬Bad h (path ++ [obj]) a) : ¬Bad h path (.object obj) := by
  rintro ⟨o, ⟨_, ⟨⟩, hro⟩, hrest⟩
  rcases hro.cases_head with rfl | ⟨c, hedge, hco⟩
  · rcases hrest with hcyc | ⟨hin', -⟩
    · obtain ⟨c, hedge, hco⟩ := Relation.TransGen.head'_iff.mp hcyc
      exact hc _ (ObjectData.mem_children.mp hedge) ⟨obj, ⟨c, rfl, hco⟩, .inr ⟨by simp, hobj⟩⟩
    · exact hin hin'
  · refine hc _ (ObjectData.mem_children.mp hedge) ⟨o, ⟨c, rfl, hco⟩, ?_⟩
    exact hrest.imp_right fun ⟨hin', hbox⟩ => ⟨List.mem_append_left _ hin', hbox⟩

theorem not_bad_of_isBoxed {path : List Object} {obj : Object}
    (hobj : (h.data obj).isBoxed = true) : ¬Bad h path (.object obj) := by
  rintro ⟨o, ⟨_, ⟨⟩, hro⟩, hrest⟩
  rcases hro.cases_head with rfl | ⟨c, hedge, -⟩
  · rcases hrest with hcyc | ⟨-, hbox⟩
    · obtain ⟨c, hedge, -⟩ := Relation.TransGen.head'_iff.mp hcyc
      exact not_edge_of_isBoxed hobj c hedge
    · simp [hobj] at hbox
  · exact not_edge_of_isBoxed hobj c hedge

theorem bad_nil_iff {v : Value} : Bad h [] v ↔ ∃ o, Reaches h v o ∧ OnCycle h o := by
  simp [Bad]

end Graph

/-! ### What the walk does

On a path, the walk fails only with #1129 and only when something `Bad` is
reachable; succeeds only when nothing is; returns once the fuel exceeds the
number of allocated objects off the path; and on success writes out the tree
unfolding. -/

theorem serializeOnPath_error (h : Heap) : ∀ fuel path v e,
    (serializeOnPath h fuel path v).run = some (.error e) → e = cyclicStructure ∧ Bad h path v
  | 0, _, _, _, he => nomatch he
  | fuel + 1, path, v, e, he => by
    cases v with
    | object obj =>
      cases hd : h.data obj with
      | boxed prim =>
        simp only [serializeOnPath, hd] at he
        obtain ⟨-, o, ho, -⟩ := serializeOnPath_error h fuel path prim.val e he
        exact absurd ho (not_reaches_of_isPrimitive prim.isPrimitive o)
      | array es =>
        simp only [serializeOnPath, hd] at he
        split_ifs at he with hin
        · cases he
          exact ⟨rfl, obj, ⟨obj, rfl, .refl⟩, .inr ⟨hin, by simp [hd, ObjectData.isBoxed]⟩⟩
        · obtain ⟨a, ha, hae⟩ := mapM_run_error (run_map_error he)
          obtain ⟨rfl, hbad⟩ := serializeOnPath_error h fuel _ a e hae
          exact ⟨rfl, bad_of_child (by simpa [hd, ObjectData.values] using ha) hbad⟩
      | plain props =>
        simp only [serializeOnPath, hd, foldlM_skip_eq_mapM] at he
        split_ifs at he with hin
        · cases he
          exact ⟨rfl, obj, ⟨obj, rfl, .refl⟩, .inr ⟨hin, by simp [hd, ObjectData.isBoxed]⟩⟩
        · obtain ⟨a, ha, hae⟩ := mapM_run_error (run_map_error (run_map_error he))
          obtain ⟨rfl, hbad⟩ := serializeOnPath_error h fuel _ a.2 e (run_map_error hae)
          refine ⟨rfl, bad_of_child ?_ hbad⟩
          simp only [hd, ObjectData.values, List.mem_map]
          exact ⟨a, List.mem_of_mem_filter ha, rfl⟩
    | _ => cases he

theorem serializeOnPath_ok (h : Heap) : ∀ fuel path v j,
    (serializeOnPath h fuel path v).run = some (.ok j) → ¬Bad h path v
  | 0, _, _, _, hj => nomatch hj
  | fuel + 1, path, v, j, hj => by
    cases v with
    | object obj =>
      cases hd : h.data obj with
      | boxed prim => exact not_bad_of_isBoxed (by simp [hd, ObjectData.isBoxed])
      | array es =>
        simp only [serializeOnPath, hd] at hj
        split_ifs at hj with hin
        · cases hj
        obtain ⟨bs, hbs, -⟩ := run_map_ok hj
        refine not_bad_of_children (by simp [hd, ObjectData.isBoxed]) hin fun a ha => ?_
        rw [hd] at ha
        obtain ⟨b, hb⟩ := mapM_run_ok hbs a ha
        exact serializeOnPath_ok h fuel _ a b hb
      | plain props =>
        simp only [serializeOnPath, hd, foldlM_skip_eq_mapM] at hj
        split_ifs at hj with hin
        · cases hj
        obtain ⟨_, hj, -⟩ := run_map_ok hj
        obtain ⟨bs, hbs, -⟩ := run_map_ok hj
        refine not_bad_of_children (by simp [hd, ObjectData.isBoxed]) hin fun a ha => ?_
        simp only [hd, ObjectData.values, List.mem_map] at ha
        obtain ⟨p, hp, rfl⟩ := ha
        by_cases hu : p.2 = .undefined
        · rintro ⟨o, ho, -⟩
          exact not_reaches_of_isPrimitive (by rw [hu]; rfl) o ho
        obtain ⟨b, hb⟩ := mapM_run_ok hbs p (List.mem_filter.mpr ⟨hp, by simp [hu]⟩)
        obtain ⟨b', hb', -⟩ := run_map_ok hb
        exact serializeOnPath_ok h fuel _ p.2 b' hb'
    | _ => rintro ⟨o, ho, -⟩; exact not_reaches_of_isPrimitive (by rfl) o ho

theorem card_sdiff_append_lt {h : Heap} {path : List Object} {obj : Object}
    (ha : obj ∈ h.allocated) (hin : obj ∉ path) :
    (h.allocated \ (path ++ [obj]).toFinset).card < (h.allocated \ path.toFinset).card := by
  apply Finset.card_lt_card
  refine ⟨Finset.sdiff_subset_sdiff le_rfl fun o ho => by simp_all, fun hsub => ?_⟩
  have : obj ∈ h.allocated \ path.toFinset := by simp [ha, hin]
  simpa using hsub this

theorem serializeOnPath_primitive_ne_none (h : Heap) {v : Value} (hv : v.isPrimitive = true)
    (fuel : Nat) (path : List Object) : (serializeOnPath h (fuel + 1) path v).run ≠ none := by
  cases v with
  | object => cases hv
  | _ => simp [serializeOnPath]

theorem serializeOnPath_ne_none (h : Heap) : ∀ fuel path v,
    (h.allocated \ path.toFinset).card + 1 < fuel → (serializeOnPath h fuel path v).run ≠ none
  | 0, _, _, hf => absurd hf (Nat.not_lt_zero _)
  | fuel + 1, path, v, hf => by
    cases v with
    | object obj =>
      -- the children are walked with the object on the path, which leaves
      -- fewer allocated objects off it; an unallocated object has no children
      have child : ∀ a, Value.object obj ≠ .undefined → obj ∉ path → obj ∈ h.allocated →
          (serializeOnPath h fuel (path ++ [obj]) a).run ≠ none := fun a _ hin ha =>
        serializeOnPath_ne_none h fuel _ a (by have := card_sdiff_append_lt ha hin; omega)
      cases hd : h.data obj with
      | boxed prim =>
        simp only [serializeOnPath, hd]
        cases fuel with
        | zero => omega
        | succ fuel => exact serializeOnPath_primitive_ne_none h prim.isPrimitive fuel path
      | array es =>
        simp only [serializeOnPath, hd]
        split_ifs with hin
        · nofun
        have ha : obj ∈ h.allocated := by
          by_contra ha; rw [h.data_of_not_mem_allocated ha] at hd; cases hd
        exact run_map_ne_none (mapM_run_ne_none fun a _ => child a nofun hin ha)
      | plain props =>
        simp only [serializeOnPath, hd, foldlM_skip_eq_mapM]
        split_ifs with hin
        · nofun
        refine run_map_ne_none (run_map_ne_none (mapM_run_ne_none fun p hp => ?_))
        by_cases ha : obj ∈ h.allocated
        · exact run_map_ne_none (child p.2 nofun hin ha)
        · rw [h.data_of_not_mem_allocated ha] at hd
          cases hd
          cases hp
    | _ => nofun

theorem serializeOnPath_treeJson (h : Heap) : ∀ fuel path v j,
    (serializeOnPath h fuel path v).run = some (.ok j) → treeJson h fuel v = some j
  | 0, _, _, _, hj => nomatch hj
  | fuel + 1, path, v, j, hj => by
    cases v with
    | object obj =>
      cases hd : h.data obj with
      | boxed prim =>
        simp only [serializeOnPath, hd] at hj
        simpa only [treeJson, hd] using serializeOnPath_treeJson h fuel path prim.val j hj
      | array es =>
        simp only [serializeOnPath, hd] at hj
        split_ifs at hj
        · cases hj
        obtain ⟨bs, hbs, rfl⟩ := run_map_ok hj
        simp only [treeJson, hd, mapM_run_ok_option (fun a _ b hb =>
          serializeOnPath_treeJson h fuel _ a b hb) hbs]
        rfl
      | plain props =>
        simp only [serializeOnPath, hd, foldlM_skip_eq_mapM] at hj
        split_ifs at hj
        · cases hj
        obtain ⟨js, hjs, rfl⟩ := run_map_ok hj
        obtain ⟨bs, hbs, hjs⟩ := run_map_ok hjs
        have hmap := mapM_run_ok_option (g := fun (p : String × Value) => (p, ·) <$> treeJson h fuel p.2)
          (fun p _ b hb => by
            obtain ⟨b', hb', rfl⟩ := run_map_ok hb
            simp [serializeOnPath_treeJson h fuel _ p.2 b' hb']) hbs
        simp only [treeJson, hd, foldlM_skip_eq_mapM, hmap, ← hjs]
        rfl
    | _ => cases hj; rfl

/-! ### `JSON.stringify` -/

theorem serializeValue_cycle_iff (h : Heap) (v : Value) (fuel : Nat) (hfuel : h.next + 2 ≤ fuel) :
    (∃ r, ((serializeValue h fuel v).run []).run = some r ∧
      ((∃ e, r = .error e) ↔ ∃ o, Reaches h v o ∧ OnCycle h o) ∧
      (∀ e, r = .error e → e = cyclicStructure) ∧
      (∀ j st, r = .ok (j, st) → st = [] ∧ treeJson h fuel v = some j)) ∧
    ∀ fuel' v' st j st', ((serializeValue h fuel' v').run st).run = some (.ok (j, st')) →
      st' = st := by
  refine ⟨?_, fun fuel' v' st j st' hj => ?_⟩
  · have hne := serializeOnPath_ne_none h fuel [] v (by
      have := h.card_allocated_le
      simp only [List.toFinset_nil, Finset.sdiff_empty]
      omega)
    rw [serializeValue_reads h fuel v []]
    rcases hp : (serializeOnPath h fuel [] v).run with _ | _ | j
    · exact absurd hp hne
    · -- the walk failed: with #1129, at a reachable cycle
      obtain ⟨rfl, hbad⟩ := serializeOnPath_error h fuel [] v _ hp
      refine ⟨_, rfl, ⟨fun _ => bad_nil_iff.mp hbad, fun _ => ⟨_, rfl⟩⟩, ?_, ?_⟩
      · rintro _ ⟨⟩; rfl
      · rintro _ _ ⟨⟩
    · -- the walk succeeded: no reachable cycle, and the tree unfolding
      refine ⟨_, rfl, ⟨?_, fun hc => ?_⟩, ?_, ?_⟩
      · rintro ⟨_, ⟨⟩⟩
      · exact absurd (bad_nil_iff.mpr hc) (serializeOnPath_ok h fuel [] v j hp)
      · rintro _ ⟨⟩
      · rintro _ _ ⟨⟩
        exact ⟨rfl, serializeOnPath_treeJson h fuel [] v j hp⟩
  · rw [serializeValue_reads h fuel' v' st] at hj
    rcases hp : (serializeOnPath h fuel' st v').run with _ | _ | j' <;> rw [hp] at hj <;> cases hj
    rfl

/-- A heap whose one object, `⟨0⟩`, is an array that contains itself. -/
def selfContainingHeap : Heap := (Heap.empty.alloc (.array [.object ⟨0⟩])).1

/-- A heap whose object `⟨0⟩` is shared by both elements of the array
    `⟨1⟩`. -/
def sharedObjectHeap : Heap :=
  ((Heap.empty.alloc (.plain [("a", .null)])).1.alloc (.array [.object ⟨0⟩, .object ⟨0⟩])).1

theorem serializeValue_cycle_iff_selfContaining_shared :
    (selfContainingHeap.next + 2 ≤ 3 ∧
      (∃ r, ((serializeValue selfContainingHeap 3 (.object ⟨0⟩)).run []).run = some r ∧
        ((∃ e, r = .error e) ↔ ∃ o, Reaches selfContainingHeap (.object ⟨0⟩) o ∧ OnCycle selfContainingHeap o) ∧
        (∀ e, r = .error e → e = cyclicStructure) ∧
        (∀ j st, r = .ok (j, st) → st = [] ∧ treeJson selfContainingHeap 3 (.object ⟨0⟩) = some j)) ∧
      ∀ fuel' v' st j st', ((serializeValue selfContainingHeap fuel' v').run st).run = some (.ok (j, st')) →
        st' = st) ∧
    (sharedObjectHeap.next + 2 ≤ 4 ∧
      (∃ r, ((serializeValue sharedObjectHeap 4 (.object ⟨1⟩)).run []).run = some r ∧
        ((∃ e, r = .error e) ↔ ∃ o, Reaches sharedObjectHeap (.object ⟨1⟩) o ∧ OnCycle sharedObjectHeap o) ∧
        (∀ e, r = .error e → e = cyclicStructure) ∧
        (∀ j st, r = .ok (j, st) → st = [] ∧ treeJson sharedObjectHeap 4 (.object ⟨1⟩) = some j)) ∧
      ∀ fuel' v' st j st', ((serializeValue sharedObjectHeap fuel' v').run st).run = some (.ok (j, st')) →
        st' = st) :=
  ⟨⟨by decide, serializeValue_cycle_iff selfContainingHeap (.object ⟨0⟩) 3 (by decide)⟩,
    ⟨by decide, serializeValue_cycle_iff sharedObjectHeap (.object ⟨1⟩) 4 (by decide)⟩⟩

/-- The array that contains itself is refused. -/
example : ((serializeValue selfContainingHeap 3 (.object ⟨0⟩)).run []).run =
    some (.error cyclicStructure) := rfl

/-- The object shared by two elements of an array is written out twice. -/
example : ((serializeValue sharedObjectHeap 4 (.object ⟨1⟩)).run []).run =
    some (.ok (.array [.object [("a", .null)], .object [("a", .null)]], [])) := rfl

end RuffleAvm
