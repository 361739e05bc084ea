/-
  RuffleAvm/Multiname.lean
  ========================
  **Reading names from an ABC constant pool** (`avm2/names.rs`):
  `Namespace::from_abc_namespace`, `Multiname::abc_namespace_set`,
  `resolve_multiname_index`, `resolve_multiname_params`,
  `from_abc_multiname` and `from_abc_multiname_static`.

  The two multiname readers recurse through `TypeName` entries — the static
  one through the base type and the parameter, the other through the
  parameter only, its base going through `resolve_multiname_params`, which
  refuses a `TypeName`.  Recursion is modelled with fuel: a reader returns
  `none` when the fuel runs out, so a recursion that never returns is one
  that returns `none` for every fuel.  Errors are `Except` errors, with the
  source's messages.  On a pool without cycles both readers return
  (`multinameReaders_return`); no guard notices a `TypeName` that is its own
  parameter, and on it neither does (`typeName_parameter_cycle_never_returns`).

  The string pool lives in the `TranslationUnit` (`script.rs`, not in this
  source); its two readers are fields of the unit here.  So are the three
  operations of the activation that runtime names use (`pop`,
  `as_namespace`, `coerce_to_string`), which act on an abstract activation
  state `σ`.
-/
import RuffleAvm.Basic

namespace RuffleAvm

/-! ### Names -/

/-- `Namespace`. -/
inductive Namespace where
  | «namespace» (name : String)
  | package (name : String)
  | packageInternal (name : String)
  | «protected» (name : String)
  | explicit (name : String)
  | staticProtected (name : String)
  | «private» (name : String)
  | any
deriving DecidableEq, Repr

/-- `Multiname`: candidate namespaces, an optional local name, and type
    parameters. -/
structure Multiname where
  ns : List Namespace
  name : Option String
  params : List Multiname
deriving Repr

/-- `Multiname::any`. -/
def Multiname.any : Multiname := ⟨[.any], none, []⟩

/-! ### The constant pool -/

/-- A namespace constant (`swf::avm2::types::Namespace`): its kind, with the
    string-pool index of its name. -/
inductive AbcNamespace where
  | «namespace» (name : Nat)
  | package (name : Nat)
  | packageInternal (name : Nat)
  | «protected» (name : Nat)
  | explicit (name : Nat)
  | staticProtected (name : Nat)
  | «private» (name : Nat)
deriving DecidableEq, Repr

/-- A multiname constant (`swf::avm2::types::Multiname`), its indices into the
    namespace, namespace-set, string and multiname tables. -/
inductive AbcMultiname where
  | qName («namespace» name : Nat)
  | qNameA («namespace» name : Nat)
  | rtqName (name : Nat)
  | rtqNameA (name : Nat)
  | rtqNameL
  | rtqNameLA
  | multiname (namespaceSet name : Nat)
  | multinameA (namespaceSet name : Nat)
  | multinameL (namespaceSet : Nat)
  | multinameLA (namespaceSet : Nat)
  | typeName (baseType : Nat) (parameters : List Nat)
deriving DecidableEq, Repr

/-- The tables of `AbcFile::constant_pool` the readers use. -/
structure AbcFile where
  namespaces : List AbcNamespace
  namespaceSets : List (List Nat)
  multinames : List AbcMultiname
deriving DecidableEq, Repr

/-- A translation unit: its ABC file, and its string-pool readers
    `pool_string` and `pool_string_option`. -/
structure TranslationUnit where
  abc : AbcFile
  poolString : Nat → Except Error String
  poolStringOption : Nat → Except Error (Option String)

/-- The activation operations runtime names use, on an activation state `σ`
    with values `V`: `avm2().pop()`, `Value::as_namespace` and
    `Value::coerce_to_string`. -/
structure Runtime (σ V : Type) where
  pop : σ → V × σ
  asNamespace : V → Except Error Namespace
  coerceToString : V → σ → Except Error (String × σ)

/-- The result of a recursive reader: an error, a value, or `none` when the
    fuel runs out, standing for a recursion that does not return.  The readers
    that do not recurse return `Except`, and cannot run out. -/
abbrev Load := ExceptT Error Option

/-- A reader that does not recurse, as a `Load`. -/
def Load.ofExcept {α : Type} (x : Except Error α) : Load α := ExceptT.mk (some x)

/-! ### Namespaces -/

/-- `Namespace::from_abc_namespace`: index zero is the any-namespace. -/
def fromAbcNamespace (tu : TranslationUnit) (idx : Nat) : Except Error Namespace :=
  if idx = 0 then pure .any
  else match tu.abc.namespaces[idx - 1]? with
    | none => throw ("Unknown namespace constant " ++ toString idx)
    | some (.«namespace» i) => .«namespace» <$> tu.poolString i
    | some (.package i) => .package <$> tu.poolString i
    | some (.packageInternal i) => .packageInternal <$> tu.poolString i
    | some (.protected i) => .protected <$> tu.poolString i
    | some (.explicit i) => .explicit <$> tu.poolString i
    | some (.staticProtected i) => .staticProtected <$> tu.poolString i
    | some (.private i) => .private <$> tu.poolString i

/-- `Multiname::abc_namespace_set`: index zero is the empty set. -/
def abcNamespaceSet (tu : TranslationUnit) (idx : Nat) : Except Error (List Namespace) :=
  if idx = 0 then pure []
  else match tu.abc.namespaceSets[idx - 1]? with
    | none => throw ("Unknown namespace set constant " ++ toString idx)
    | some set => set.mapM (fromAbcNamespace tu)

/-- `Multiname::resolve_multiname_index`. -/
def resolveMultinameIndex (abc : AbcFile) (idx : Nat) : Except Error AbcMultiname :=
  if idx = 0 then throw "Attempted to resolve a multiname at index zero. This is a bug."
  else match abc.multinames[idx - 1]? with
    | none => throw ("Unknown multiname constant " ++ toString idx)
    | some m => pure m

/-! ### `from_abc_multiname_static` -/

/-- The message of both readers for a `TypeName` with more than one
    parameter. -/
def tooManyParameters (n : Nat) : Error :=
  "VerifyError: Multiname has " ++ toString n ++ " parameters, no more than 1 is allowed"

/-- `Multiname::from_abc_multiname_static`, with `fuel` bounding the depth of
    its recursion. -/
def fromAbcMultinameStatic (tu : TranslationUnit) : Nat → Nat → Load Multiname
  | 0, _ => ExceptT.mk none
  | fuel + 1, idx =>
    if idx = 0 then
      throw "Attempted to resolve a (static) multiname at index zero. This is a bug."
    else match tu.abc.multinames[idx - 1]? with
    | none => throw ("Unknown multiname constant " ++ toString idx)
    | some (.qName ns name) | some (.qNameA ns name) => Load.ofExcept do
      let ns ← fromAbcNamespace tu ns
      let name ← tu.poolStringOption name
      pure ⟨[ns], name, []⟩
    | some (.multiname set name) | some (.multinameA set name) => Load.ofExcept do
      let ns ← abcNamespaceSet tu set
      let name ← tu.poolStringOption name
      pure ⟨ns, name, []⟩
    | some (.typeName baseType parameters) => do
      let base ← fromAbcMultinameStatic tu fuel baseType
      if parameters.length > 1 then throw (tooManyParameters parameters.length)
      else do
        let params ← parameters.mapM fun p =>
          if p = 0 then pure Multiname.any else fromAbcMultinameStatic tu fuel p
        pure { base with params := base.params ++ params }
    | some _ => throw ("Multiname " ++ toString idx ++ " is not static")

/-! ### `from_abc_multiname` -/

section Runtime

variable {σ V : Type} (rt : Runtime σ V) (tu : TranslationUnit)

/-- A reader that does not recurse and acts on the activation. -/
abbrev Step (σ : Type) := StateT σ (Except Error)

/-- `activation.avm2().pop()`. -/
def Runtime.popValue : Step σ V := fun s => pure (rt.pop s)

/-- `Value::coerce_to_string` in the activation. -/
def Runtime.coerceToStringM (v : V) : Step σ String := rt.coerceToString v

/-- `Multiname::from_multiname_late`: a late-bound name in a namespace set. -/
def fromMultinameLate (m : AbcMultiname) (name : V) : Step σ Multiname :=
  match m with
  | .multinameL set | .multinameLA set => do
    let ns ← abcNamespaceSet tu set
    let name ← rt.coerceToStringM name
    pure ⟨ns, some name, []⟩
  | _ => throw "Cannot assemble early-bound multinames using from_multiname_late"

/-- `Multiname::resolve_multiname_params`: a `TypeName` is refused, as an
    attempt to build a recursive generic type. -/
def resolveMultinameParams (m : AbcMultiname) : Step σ Multiname :=
  match m with
  | .qName ns name | .qNameA ns name => do
    let ns ← fromAbcNamespace tu ns
    let name ← tu.poolStringOption name
    pure ⟨[ns], name, []⟩
  | .rtqName name | .rtqNameA name => do
    let nsValue ← rt.popValue
    let ns ← rt.asNamespace nsValue
    let name ← tu.poolStringOption name
    pure ⟨[ns], name, []⟩
  | .rtqNameL | .rtqNameLA => do
    let name ← rt.coerceToStringM (← rt.popValue)
    let nsValue ← rt.popValue
    let ns ← rt.asNamespace nsValue
    pure ⟨[ns], some name, []⟩
  | .multiname set name | .multinameA set name => do
    let ns ← abcNamespaceSet tu set
    let name ← tu.poolStringOption name
    pure ⟨ns, name, []⟩
  | .multinameL _ | .multinameLA _ => do
    let name ← rt.popValue
    fromMultinameLate rt tu m name
  | .typeName .. => throw "Recursive TypeNames are not supported!"

/-- A reader on the activation that does not recurse, as a `Load` one. -/
def Load.ofStep {α : Type} (x : Step σ α) : StateT σ Load α := fun s => Load.ofExcept (x s)

/-- `Multiname::from_abc_multiname`, with `fuel` bounding the depth of its
    recursion. -/
def fromAbcMultiname : Nat → Nat → StateT σ Load Multiname
  | 0, _ => fun _ => ExceptT.mk none
  | fuel + 1, idx => do
    match ← Load.ofExcept (resolveMultinameIndex tu.abc idx) with
    | .typeName baseType parameters =>
      let baseMultiname ← Load.ofExcept (resolveMultinameIndex tu.abc baseType)
      let base ← Load.ofStep (resolveMultinameParams rt tu baseMultiname)
      if parameters.length > 1 then throw (tooManyParameters parameters.length)
      else do
        let params ← parameters.mapM (fromAbcMultiname fuel)
        pure { base with params := base.params ++ params }
    | m => Load.ofStep (resolveMultinameParams rt tu m)

end Runtime

/-! ### Reads that return

`Load.Returns x`: the read `x` returns, an error or a value, without running
out of fuel.  Its rules follow the shape of the readers' code. -/

/-- The read returns: it does not run out of fuel. -/
def Load.Returns {α : Type} (x : Load α) : Prop := x.run ≠ none

section Returns

variable {σ α β : Type}

theorem Load.returns_bind {x : Load α} {f : α → Load β} (hx : x.Returns)
    (hf : ∀ a, (f a).Returns) : (x >>= f).Returns := by
  unfold Returns at *
  rw [ExceptT.run_bind]
  match h : x.run with
  | none => exact absurd h hx
  | some (.ok a) => simpa [h] using hf a
  | some (.error e) => simp [h]

@[simp] theorem Load.returns_pure (a : α) : (pure a : Load α).Returns := by simp [Returns]

@[simp] theorem Load.returns_throw (e : Error) : (throw e : Load α).Returns := by
  simp [Returns]

@[simp] theorem Load.returns_ofExcept (x : Except Error α) : (Load.ofExcept x).Returns := by
  simp [Returns, ofExcept]

@[simp] theorem Load.returns_ofExcept_bind {x : Except Error α} {f : α → Load β} :
    (Load.ofExcept x >>= f).Returns ↔ ∀ a, x = .ok a → (f a).Returns := by
  cases x <;> simp [Returns, ofExcept, ExceptT.run_bind, ExceptT.run_mk]

theorem Load.returns_mapM {f : α → Load β} :
    ∀ {l : List α}, (∀ a ∈ l, (f a).Returns) → (l.mapM f).Returns
  | [], _ => returns_pure _
  | a :: l, h => by
    rw [List.mapM_cons]
    exact returns_bind (h a (.head _)) fun _ =>
      returns_bind (returns_mapM fun a ha => h a (.tail _ ha)) fun _ => returns_pure _

theorem Load.returns_stateBind {x : StateT σ Load α} {f : α → StateT σ Load β}
    (hx : ∀ s, (x.run s).Returns) (hf : ∀ a s, ((f a).run s).Returns) (s : σ) :
    ((x >>= f).run s).Returns := by
  rw [StateT.run_bind]
  exact returns_bind (hx s) fun p => hf p.1 p.2

@[simp] theorem Load.returns_stateThrow (e : Error) (s : σ) :
    ((throw e : StateT σ Load α).run s).Returns :=
  Option.some_ne_none _

@[simp] theorem Load.returns_statePure (a : α) (s : σ) :
    ((pure a : StateT σ Load α).run s).Returns :=
  Option.some_ne_none _

theorem Load.returns_stateMapM {f : α → StateT σ Load β} :
    ∀ {l : List α}, (∀ a ∈ l, ∀ s, ((f a).run s).Returns) → ∀ s, ((l.mapM f).run s).Returns
  | [], _, s => returns_statePure _ s
  | a :: l, h, s => by
    rw [List.mapM_cons]
    exact returns_stateBind (h a (.head _)) (fun _ => returns_stateBind
      (returns_stateMapM fun a ha => h a (.tail _ ha)) fun _ => returns_statePure _) s

@[simp] theorem Load.run_ofStep (x : Step σ α) (s : σ) :
    (Load.ofStep x).run s = Load.ofExcept (x s) := rfl

end Returns

theorem resolveMultinameIndex_eq_ok {abc : AbcFile} {i : Nat} {m : AbcMultiname} :
    resolveMultinameIndex abc i = .ok m ↔ i ≠ 0 ∧ abc.multinames[i - 1]? = some m := by
  unfold resolveMultinameIndex
  split_ifs with h
  · simp [h]
  · cases abc.multinames[i - 1]? <;> simp [h, pure, Except.pure]

/-! ### Termination on a pool without cycles

A ranking of the multinames that decreases along every reference a reader
follows bounds the depth of its recursion: with more fuel than the rank, the
reader returns.  The static reader follows the base type and the parameters
of a `TypeName`; the other only the parameters, since its base goes through
`resolve_multiname_params`. -/

/-- A ranking decreasing along the base type and every non-zero parameter of
    each `TypeName`. -/
def StaticRanking (abc : AbcFile) (rank : Nat → Nat) : Prop :=
  ∀ i b ps, resolveMultinameIndex abc i = .ok (.typeName b ps) →
    rank b < rank i ∧ ∀ p ∈ ps, p ≠ 0 → rank p < rank i

theorem fromAbcMultinameStatic_returns {tu : TranslationUnit} {rank : Nat → Nat}
    (h : StaticRanking tu.abc rank) :
    ∀ fuel i, rank i < fuel → (fromAbcMultinameStatic tu fuel i).Returns
  | 0, _, hi => absurd hi (Nat.not_lt_zero _)
  | fuel + 1, i, hi => by
    unfold fromAbcMultinameStatic
    split_ifs with hi0
    · exact Load.returns_throw _
    cases he : tu.abc.multinames[i - 1]? with
    | none => simp
    | some m =>
    cases m with
    | typeName b ps =>
      obtain ⟨hb, hps⟩ := h i b ps (resolveMultinameIndex_eq_ok.mpr ⟨hi0, he⟩)
      refine Load.returns_bind (fromAbcMultinameStatic_returns h fuel b (by omega)) fun _ => ?_
      split_ifs
      · exact Load.returns_throw _
      refine Load.returns_bind (Load.returns_mapM fun p hp => ?_) fun _ => Load.returns_pure _
      split_ifs with hp0
      · exact Load.returns_pure _
      · exact fromAbcMultinameStatic_returns h fuel p (by have := hps p hp hp0; omega)
    | _ => simp

/-- A ranking decreasing along every parameter of each `TypeName`. -/
def ParamRanking (abc : AbcFile) (rank : Nat → Nat) : Prop :=
  ∀ i b ps, resolveMultinameIndex abc i = .ok (.typeName b ps) → ∀ p ∈ ps, rank p < rank i

section Runtime

variable {σ V : Type} (rt : Runtime σ V) (tu : TranslationUnit)

theorem fromAbcMultiname_returns {rank : Nat → Nat} (h : ParamRanking tu.abc rank) :
    ∀ fuel i, rank i < fuel → ∀ s, ((fromAbcMultiname rt tu fuel i).run s).Returns
  | 0, _, hi, _ => absurd hi (Nat.not_lt_zero _)
  | fuel + 1, i, hi, s => by
    simp only [fromAbcMultiname, StateT.run_bind, StateT.run_monadLift, monadLift_self, liftM,
      bind_assoc, pure_bind, Load.returns_ofExcept_bind]
    intro m hm
    cases m with
    | typeName b ps =>
      simp only [StateT.run_bind, StateT.run_monadLift, monadLift_self, bind_assoc, pure_bind,
        Load.returns_ofExcept_bind]
      intro bm _
      show (Load.ofExcept _ >>= _).Returns
      simp only [Load.returns_ofExcept_bind]
      rintro ⟨base, s'⟩ -
      split_ifs
      · exact Load.returns_stateThrow _ s'
      · refine Load.returns_stateBind (Load.returns_stateMapM fun p hp => ?_)
          (fun _ => Load.returns_statePure _) s'
        exact fromAbcMultiname_returns h fuel p (by have := h i b ps hm p hp; omega)
    | _ => exact Load.returns_ofExcept _

end Runtime

/-- On a pool whose `TypeName` references decrease along a ranking of its
    multinames — a pool without cycles — both readers return, with a name or
    an error, given more fuel than the rank of the index they start from: the
    static one when the ranking decreases along base types and non-zero
    parameters, the other, whatever the activation, when it decreases along
    parameters. -/
theorem multinameReaders_return {tu : TranslationUnit} {rank : Nat → Nat}
    (hstatic : StaticRanking tu.abc rank) (hparam : ParamRanking tu.abc rank) (fuel i : Nat)
    (hi : rank i < fuel) :
    (fromAbcMultinameStatic tu fuel i).Returns ∧
      ∀ {σ V : Type} (rt : Runtime σ V) s, ((fromAbcMultiname rt tu fuel i).run s).Returns :=
  ⟨fromAbcMultinameStatic_returns hstatic fuel i hi,
    fun rt s => fromAbcMultiname_returns rt tu hparam fuel i hi s⟩

/-- A pool holding `int` and `Vector` in the package `__AS3__.vec`, and at
    index `3` the type `Vector.<int>`, which applies `2` to `1`. -/
def vectorOfIntUnit : TranslationUnit :=
  ⟨⟨[.package 1], [], [.qName 1 2, .qName 1 3, .typeName 2 [1]]⟩,
    fun i => .ok (["", "__AS3__.vec", "int", "Vector"].getD i ""),
    fun i => .ok (some (["", "__AS3__.vec", "int", "Vector"].getD i ""))⟩

theorem multinameReaders_return_vectorOfInt :
    StaticRanking vectorOfIntUnit.abc id ∧ ParamRanking vectorOfIntUnit.abc id ∧ id 3 < 4 ∧
      (fromAbcMultinameStatic vectorOfIntUnit 4 3).Returns ∧
      ∀ {σ V : Type} (rt : Runtime σ V) s,
        ((fromAbcMultiname rt vectorOfIntUnit 4 3).run s).Returns :=
  -- the one `TypeName` of the pool is `3`, applying `2` to `1`
  have htype : ∀ {i b ps}, resolveMultinameIndex vectorOfIntUnit.abc i = .ok (.typeName b ps) →
      i = 3 ∧ b = 2 ∧ ps = [1] := fun {i} _ _ h => by
    rcases i with _ | _ | _ | _ | i <;>
      simp [resolveMultinameIndex, vectorOfIntUnit, pure, Except.pure] at h
    exact ⟨rfl, h.1.symm, h.2.symm⟩
  have hstatic : StaticRanking vectorOfIntUnit.abc id := fun _ _ _ h => by
    obtain ⟨rfl, rfl, rfl⟩ := htype h; decide
  have hparam : ParamRanking vectorOfIntUnit.abc id := fun _ _ _ h => by
    obtain ⟨rfl, rfl, rfl⟩ := htype h; decide
  ⟨hstatic, hparam, by decide, multinameReaders_return hstatic hparam 4 3 (by decide)⟩

/-! ### A cycle of `TypeName`s

No guard of either reader notices a `TypeName` that leads back to itself: the
recursion through it never returns.  A set of indices closed under the
references a reader follows — each a `TypeName`, each leading to another
member — makes that reader run out of every fuel. -/

/-- Indices each of which is a `TypeName` whose base type is again in the set,
    or whose base type never fails and whose one parameter is in the set. -/
def StaticCycle (tu : TranslationUnit) (S : Nat → Prop) : Prop :=
  ∀ i, S i → ∃ b ps, resolveMultinameIndex tu.abc i = .ok (.typeName b ps) ∧
    (S b ∨ (∀ fuel e, (fromAbcMultinameStatic tu fuel b).run ≠ some (.error e)) ∧
      ∃ p, ps = [p] ∧ S p)

theorem fromAbcMultinameStatic_of_cycle {tu : TranslationUnit} {S : Nat → Prop}
    (h : StaticCycle tu S) : ∀ fuel i, S i → (fromAbcMultinameStatic tu fuel i).run = none
  | 0, _, _ => rfl
  | fuel + 1, i, hi => by
    obtain ⟨b, ps, he, hb | ⟨hb, p, rfl, hp⟩⟩ := h i hi
    all_goals obtain ⟨hi0, he⟩ := resolveMultinameIndex_eq_ok.mp he
    · simp [fromAbcMultinameStatic, hi0, he, ExceptT.run_bind,
        fromAbcMultinameStatic_of_cycle h fuel b hb]
    · have hp0 : p ≠ 0 := by
        obtain ⟨_, _, hpe, -⟩ := h p hp
        exact (resolveMultinameIndex_eq_ok.mp hpe).1
      rcases hbase : (fromAbcMultinameStatic tu fuel b).run with _ | _ | base
      · simp [fromAbcMultinameStatic, hi0, he, ExceptT.run_bind, hbase]
      · exact absurd hbase (hb fuel _)
      · simp [fromAbcMultinameStatic, hi0, he, ExceptT.run_bind, hbase, hp0, List.mapM,
          List.mapM.loop, fromAbcMultinameStatic_of_cycle h fuel p hp]

section Runtime

variable {σ V : Type} (rt : Runtime σ V) (tu : TranslationUnit)

/-- Indices each of which is a `TypeName` with one parameter, in the set,
    and a base that reads without error from every activation state. -/
def ParamCycle (S : Nat → Prop) : Prop :=
  ∀ i, S i → ∃ b p bm, resolveMultinameIndex tu.abc i = .ok (.typeName b [p]) ∧
    resolveMultinameIndex tu.abc b = .ok bm ∧
    (∀ s, ∃ r, resolveMultinameParams rt tu bm s = .ok r) ∧ S p

theorem fromAbcMultiname_of_cycle {S : Nat → Prop} (h : ParamCycle rt tu S) :
    ∀ fuel i s, S i → ((fromAbcMultiname rt tu fuel i).run s).run = none
  | 0, _, _, _ => rfl
  | fuel + 1, i, s, hi => by
    obtain ⟨b, p, bm, hi', hb, hbm, hp⟩ := h i hi
    obtain ⟨⟨base, s'⟩, hr⟩ := hbm s
    simp [fromAbcMultiname, hi', hb, hr, Load.ofExcept, ExceptT.run_bind, List.mapM,
      List.mapM.loop, StateT.run_bind, StateT.run_monadLift, fromAbcMultiname_of_cycle h fuel p s' hp]

end Runtime

/-- A pool whose first multiname is the type `2.<1>`: a name applied to
    itself as its own parameter. -/
def selfParameterUnit : TranslationUnit :=
  ⟨⟨[], [], [.typeName 2 [1], .qName 0 0]⟩, fun _ => .ok "", fun _ => .ok none⟩

theorem typeName_parameter_cycle_never_returns :
    (∀ fuel, (fromAbcMultinameStatic selfParameterUnit fuel 1).run = none) ∧
    ∀ {σ V : Type} (rt : Runtime σ V) fuel s,
      ((fromAbcMultiname rt selfParameterUnit fuel 1).run s).run = none := by
  refine ⟨fun fuel => fromAbcMultinameStatic_of_cycle (S := (· = 1)) ?_ fuel 1 rfl,
    fun rt fuel s => fromAbcMultiname_of_cycle rt _ (S := (· = 1)) ?_ fuel 1 s rfl⟩
  · rintro i rfl
    refine ⟨2, [1], rfl, .inr ⟨fun fuel e => ?_, 1, rfl, rfl⟩⟩
    cases fuel <;> simp [fromAbcMultinameStatic, selfParameterUnit, fromAbcNamespace, Load.ofExcept]
  · rintro i rfl
    exact ⟨2, 1, .qName 0 0, rfl, rfl, fun s => ⟨_, rfl⟩, rfl⟩

end RuffleAvm
