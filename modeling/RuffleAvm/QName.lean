/-
  RuffleAvm/QName.lean
  ====================
  **Qualified names as strings** (`avm2/names.rs`, `QName`):
  `to_qualified_name` writes a name as `uri::local` (the bare local name when
  the namespace's URI is empty), and `from_qualified_name` reads such a string
  back by splitting at the last `::`, or else at the last `.`.

  The split is `WStr::rsplit_once`, modelled on lists of units so that its
  lemmas hold for any unit type.  The separator the writer
  inserts is where the reader splits whenever the local name holds no `:`: a
  later `::` would have to start inside the local name or at its first unit
  (`rsplitOnce_pair_append`), and anything before the separator — a package
  name ending in `:` or holding `::` itself — is passed over
  (`rsplitOnce_append_of_eq_some`).  So every package-qualified name whose
  local name holds neither `:` nor `.` survives the round trip
  (`fromQualifiedName_toQualifiedName`).
-/
import Mathlib.Data.String.Basic
import RuffleAvm.Multiname

namespace RuffleAvm

/-! ### `rsplit_once` -/

section RsplitOnce

variable {α : Type} [DecidableEq α]

/-- Modelled from the spec: `WStr::rsplit_once` (`string/ops.rs`, not in this
    source), which splits at the last occurrence of the separator, as
    `str::rsplit_once` does.  Later positions are tried first: the split of
    the tail wins over a separator at the head. -/
def rsplitOnce (sep : List α) : List α → Option (List α × List α)
  | [] => if sep.isEmpty then some ([], []) else none
  | c :: s =>
    match rsplitOnce sep s with
    | some (before, after) => some (c :: before, after)
    | none => if sep.isPrefixOf (c :: s) then some ([], (c :: s).drop sep.length) else none

/-- Units before the last separator are passed over: they join the first
    part. -/
theorem rsplitOnce_append_of_eq_some (sep x : List α) {y before after : List α}
    (h : rsplitOnce sep y = some (before, after)) :
    rsplitOnce sep (x ++ y) = some (x ++ before, after) := by
  induction x with
  | nil => exact h
  | cons c x ih => simp [rsplitOnce, ih]

/-- A string missing one unit of the separator does not split. -/
theorem rsplitOnce_eq_none_of_not_mem {sep l : List α} {c : α} (hc : c ∈ sep) (hl : c ∉ l) :
    rsplitOnce sep l = none := by
  induction l with
  | nil => simp [rsplitOnce, List.ne_nil_of_mem hc]
  | cons x l ih =>
    have hprefix : sep.isPrefixOf (x :: l) = false :=
      Bool.eq_false_iff.mpr fun hp => hl ((List.isPrefixOf_iff_prefix.mp hp).subset hc)
    simp [rsplitOnce, ih (mt (List.mem_cons_of_mem x) hl), hprefix]

/-- A doubled separator `c c` followed by units other than `c` is the last
    occurrence: the split lands on it. -/
theorem rsplitOnce_pair_append {c : α} {n : List α} (hn : c ∉ n) :
    rsplitOnce [c, c] ([c, c] ++ n) = some ([], n) := by
  have hhead : [c, c].isPrefixOf (c :: n) = false := by
    cases n with
    | nil => simp [List.isPrefixOf]
    | cons d n => simp [List.isPrefixOf, List.ne_of_not_mem_cons hn]
  simp [rsplitOnce, rsplitOnce_eq_none_of_not_mem (List.mem_cons_self c [c]) hn, hhead]

end RsplitOnce

/-! ### Qualified names -/

namespace Namespace

/-- `Namespace::public`: the package with the empty name. -/
def public : Namespace := .package ""

/-- `Namespace::as_uri`: the namespace's string, whatever its kind; empty for
    the any-namespace. -/
def asUri : Namespace → String
  | .«namespace» s | .package s | .packageInternal s | .«protected» s | .explicit s
  | .staticProtected s | .«private» s => s
  | .any => ""

end Namespace

/-- `QName`: a namespace and a local name.  Its hand-written `PartialEq`
    compares both fields, which is the derived equality. -/
structure QName where
  ns : Namespace
  name : String
deriving DecidableEq, Repr

namespace QName

/-- `QName::new`. -/
def new (ns : Namespace) (name : String) : QName := ⟨ns, name⟩

/-- `QName::from_qualified_name`: the package before the last `::`, or else
    before the last `.`, and the local name after it; a name with neither is
    public. -/
def fromQualifiedName (name : String) : QName :=
  let parts := (rsplitOnce "::".toList name.toList).orElse
    fun _ => rsplitOnce ".".toList name.toList
  match parts with
  | some (packageName, localName) => ⟨.package (String.mk packageName), String.mk localName⟩
  | none => ⟨Namespace.public, name⟩

/-- `QName::to_qualified_name`: the local name alone when the namespace's URI
    is empty, and `uri::name` otherwise. -/
def toQualifiedName (q : QName) : String :=
  let uri := q.ns.asUri
  let name := q.name
  if uri.isEmpty then name else uri ++ "::" ++ name

/-- `QName::as_uri`: written as `to_qualified_name` writes it, except that the
    any-namespace is `*`. -/
def asUri (q : QName) : String :=
  let ns := match q.ns with
    | .«namespace» s | .package s | .packageInternal s | .«protected» s | .explicit s
    | .staticProtected s | .«private» s => s
    | .any => "*"
  if ns.isEmpty then q.name else ns ++ "::" ++ q.name

/-- A package-qualified name written by `to_qualified_name` is read back by
    `from_qualified_name` as the same name when its local name holds neither
    `:` nor `.`: for the public package `""`, written as the bare local name,
    and for every other package name, including those holding `.`, `:` or
    `::`. -/
theorem fromQualifiedName_toQualifiedName (p n : String) (hc : ':' ∉ n.toList)
    (hd : '.' ∉ n.toList) :
    fromQualifiedName (QName.new (.package p) n).toQualifiedName = QName.new (.package p) n := by
  by_cases hp : p = ""
  · subst hp
    have hcolon : rsplitOnce "::".toList n.toList = none :=
      rsplitOnce_eq_none_of_not_mem (List.mem_cons_self ':' [':']) hc
    have hdot : rsplitOnce ".".toList n.toList = none :=
      rsplitOnce_eq_none_of_not_mem (List.mem_singleton_self '.') hd
    show fromQualifiedName n = _
    simp only [fromQualifiedName, hcolon, hdot, Option.orElse]
    rfl
  · have hwritten : (QName.new (.package p) n).toQualifiedName.toList =
        p.toList ++ ([':', ':'] ++ n.toList) := by
      simp [toQualifiedName, new, Namespace.asUri, String.isEmpty_iff, hp]
    have hcolon : rsplitOnce "::".toList (QName.new (.package p) n).toQualifiedName.toList =
        some (p.toList, n.toList) := by
      rw [hwritten]
      simpa using rsplitOnce_append_of_eq_some _ p.toList (rsplitOnce_pair_append hc)
    simp only [fromQualifiedName, hcolon, Option.orElse]
    rfl

theorem fromQualifiedName_toQualifiedName_flashDisplay :
    ':' ∉ "Sprite".toList ∧ '.' ∉ "Sprite".toList ∧
      fromQualifiedName (QName.new (.package "flash.display") "Sprite").toQualifiedName =
        QName.new (.package "flash.display") "Sprite" :=
  ⟨by decide, by decide, fromQualifiedName_toQualifiedName _ _ (by decide) (by decide)⟩

end QName

/-! ### Matching a name against a multiname -/

namespace Multiname

/-- `From<QName> for Multiname`: the name's namespace alone, and its local name. -/
def ofQName (q : QName) : Multiname := ⟨[q.ns], some q.name, []⟩

/-- `Multiname::is_any`. -/
def isAny (m : Multiname) : Bool := m.ns.contains .any && m.name.isNone

/-- `Multiname::contains_name`: some namespace of the set is the
    any-namespace or the name's, and the local name is absent or the name's. -/
def containsName (m : Multiname) (q : QName) : Bool :=
  let nsMatch := m.ns.any fun ns => ns == .any || ns == q.ns
  let nameMatch := (m.name.map (· == q.name)).getD true
  nsMatch && nameMatch

/-- What `contains_name` tests: a namespace of the set that is the
    any-namespace or the name's, and no local name or the name's. -/
theorem containsName_iff (m : Multiname) (q : QName) :
    m.containsName q ↔ (Namespace.any ∈ m.ns ∨ q.ns ∈ m.ns) ∧ ∀ n ∈ m.name, n = q.name := by
  have hns : (m.ns.any fun ns => ns == .any || ns == q.ns) ↔ (Namespace.any ∈ m.ns ∨ q.ns ∈ m.ns) := by
    simp [List.any_eq_true, and_or_left, exists_or]
  obtain ⟨ns, name, params⟩ := m
  cases name <;> simp_all [containsName]

/-- A multiname that is the any type matches every name. -/
theorem containsName_of_isAny {m : Multiname} (h : m.isAny) (q : QName) : m.containsName q := by
  simp only [isAny, Bool.and_eq_true, List.elem_iff, Option.isNone_iff_eq_none] at h
  simp [containsName_iff, h.1, h.2]

theorem any_containsName_flashDisplay :
    Multiname.any.isAny ∧ Multiname.any.containsName (QName.new (.package "flash.display") "Sprite") :=
  ⟨by decide, containsName_of_isAny (by decide) _⟩

/-- A multiname of one namespace, not the any-namespace, and a local name
    matches the name with that namespace and local name, and no other. -/
theorem containsName_single_iff {ns : Namespace} (hns : ns ≠ .any) (name : String)
    (params : List Multiname) (q : QName) :
    containsName ⟨[ns], some name, params⟩ q ↔ q = ⟨ns, name⟩ := by
  obtain ⟨ns', name'⟩ := q
  simp only [containsName_iff, List.mem_singleton, Option.mem_def, Option.some.injEq,
    forall_eq', Ne.symm hns, false_or, QName.mk.injEq]
  exact and_congr_right' eq_comm

/-- A multiname made from a name outside the any-namespace matches that name
    and no other. -/
theorem containsName_ofQName_iff {q : QName} (hq : q.ns ≠ .any) (q' : QName) :
    (ofQName q).containsName q' ↔ q' = q :=
  containsName_single_iff hq q.name [] q'

theorem containsName_ofQName_sprite :
    Namespace.package "flash.display" ≠ .any ∧
      (ofQName (QName.new (.package "flash.display") "Sprite")).containsName
        (QName.new (.package "flash.display") "Sprite") :=
  ⟨by decide, (containsName_ofQName_iff (q := QName.new (.package "flash.display") "Sprite")
    (by decide) _).mpr rfl⟩

end Multiname

end RuffleAvm
