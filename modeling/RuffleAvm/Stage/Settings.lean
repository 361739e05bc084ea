/-
  RuffleAvm/Stage/Settings.lean
  =============================
  **The stage's settings and their strings** (`display_object/stage.rs`):
  `StageScaleMode`, `StageDisplayState`, `StageAlign` and `StageQuality`, the
  names their `Display` impls write, and the `FromStr` impls that read them.

  The three enum parsers lowercase the string in ASCII and match it against
  one name per variant.  `fromStrIgnoringCase_eq_some_iff` states what such a
  table parses: a string reads as a variant exactly when it is the variant's
  display name up to ASCII case, whatever else it is — so every name written
  by `Display` reads back (`stageSettings_fromStr`).

  `StageAlign::from_str` folds the string's UTF-8 bytes into flags, one per
  `T`, `B`, `L` or `R` in either case.  A character outside ASCII is encoded
  in bytes of `0x80` and above (`le_toNat_of_mem_utf8EncodeChar`), which no
  letter matches, so the flags are exactly those whose letter the string holds
  (`StageAlign.fromStr_eq_ofCodePoints`); `from_wstr` reads UTF-16 units the
  same way (`StageAlign.fromWStr_eq_ofCodePoints`).
-/
import Mathlib.Data.List.Nodup

namespace RuffleAvm

/-! ### Case-insensitive names -/

/-- `str::to_ascii_lowercase`: ASCII upper-case letters lowered, every other
    character kept (`Char.toLower` changes only `A`–`Z`). -/
def toAsciiLowercase (s : String) : String := ⟨s.data.map Char.toLower⟩

section FromStr

variable {α : Type}

/-- The `FromStr` impls of the stage's enums: the string, lowercased in ASCII,
    matched against one name per variant; `ParseEnumError` (`none`) for any
    other string. -/
def fromStrIgnoringCase (names : List (String × α)) (s : String) : Option α :=
  names.lookup (toAsciiLowercase s)

theorem lookup_eq_some_iff_mem {names : List (String × α)} (hkeys : (names.map Prod.fst).Nodup)
    {k : String} {a : α} : names.lookup k = some a ↔ (k, a) ∈ names := by
  induction names with
  | nil => simp
  | cons p names ih =>
    obtain ⟨k', a'⟩ := p
    rw [List.map_cons, List.nodup_cons] at hkeys
    by_cases hk : k = k'
    · subst hk
      have hnot : ∀ b, (k, b) ∉ names := fun b hb => hkeys.1 (List.mem_map.mpr ⟨_, hb, rfl⟩)
      simp only [List.lookup_cons, beq_self_eq_true, Option.some.injEq, List.mem_cons,
        Prod.mk.injEq, true_and]
      exact ⟨fun h => .inl h.symm, fun h => h.elim Eq.symm (absurd · (hnot a))⟩
    · simp [List.lookup_cons, beq_eq_false_iff_ne.mpr hk, hk, ih hkeys.2]

/-- A table with one name per variant, each name lowercase, parses a string
    as a variant exactly when the string is the variant's display name up to
    ASCII case. -/
theorem fromStrIgnoringCase_eq_some_iff {names : List (String × α)} {name : α → String}
    (hkeys : (names.map Prod.fst).Nodup) (hvals : (names.map Prod.snd).Nodup)
    (hnames : ∀ a, (toAsciiLowercase (name a), a) ∈ names) (s : String) (a : α) :
    fromStrIgnoringCase names s = some a ↔ toAsciiLowercase s = toAsciiLowercase (name a) := by
  rw [fromStrIgnoringCase, lookup_eq_some_iff_mem hkeys]
  refine ⟨fun h => ?_, fun h => h ▸ hnames a⟩
  exact congrArg Prod.fst (List.inj_on_of_nodup_map hvals h (hnames a) rfl)

end FromStr

/-! ### The enums -/

/-- `StageScaleMode`: how the movie is fitted to the viewport. -/
inductive StageScaleMode
  | exactFit
  | noBorder
  | noScale
  | showAll
deriving DecidableEq, Repr

namespace StageScaleMode

/-- `Default`: `ShowAll`. -/
def default : StageScaleMode := .showAll

/-- `Display`: the string ActionScript reads. -/
def toString : StageScaleMode → String
  | .exactFit => "exactFit"
  | .noBorder => "noBorder"
  | .noScale => "noScale"
  | .showAll => "showAll"

/-- `FromStr`. -/
def fromStr : String → Option StageScaleMode :=
  fromStrIgnoringCase
    [("exactfit", .exactFit), ("noborder", .noBorder), ("noscale", .noScale),
      ("showall", .showAll)]

theorem fromStr_eq_some_iff (s : String) (m : StageScaleMode) :
    fromStr s = some m ↔ toAsciiLowercase s = toAsciiLowercase m.toString :=
  fromStrIgnoringCase_eq_some_iff (by decide) (by decide) (by intro m; cases m <;> decide) s m

end StageScaleMode

/-- `StageDisplayState`: normal, or one of the two fullscreen states. -/
inductive StageDisplayState
  | fullScreen
  | fullScreenInteractive
  | normal
deriving DecidableEq, Repr

namespace StageDisplayState

/-- `Default`: `Normal`. -/
def default : StageDisplayState := .normal

/-- `Display`. -/
def toString : StageDisplayState → String
  | .fullScreen => "fullScreen"
  | .fullScreenInteractive => "fullScreenInteractive"
  | .normal => "normal"

/-- `FromStr`. -/
def fromStr : String → Option StageDisplayState :=
  fromStrIgnoringCase
    [("fullscreen", .fullScreen), ("fullscreeninteractive", .fullScreenInteractive),
      ("normal", .normal)]

theorem fromStr_eq_some_iff (s : String) (d : StageDisplayState) :
    fromStr s = some d ↔ toAsciiLowercase s = toAsciiLowercase d.toString :=
  fromStrIgnoringCase_eq_some_iff (by decide) (by decide) (by intro d; cases d <;> decide) s d

end StageDisplayState

/-- `StageQuality`: the anti-aliasing setting, stored but not acted on. -/
inductive StageQuality
  | low
  | medium
  | high
  | best
  | high8x8
  | high8x8Linear
  | high16x16
  | high16x16Linear
deriving DecidableEq, Repr

namespace StageQuality

/-- `Default`: `High`. -/
def default : StageQuality := .high

/-- `into_avm_str`: upper case, the linear variants written as the others. -/
def intoAvmStr : StageQuality → String
  | .low => "LOW"
  | .medium => "MEDIUM"
  | .high => "HIGH"
  | .best => "BEST"
  | .high8x8 | .high8x8Linear => "8X8"
  | .high16x16 | .high16x16Linear => "16X16"

/-- `Display`. -/
def toString : StageQuality → String
  | .low => "low"
  | .medium => "medium"
  | .high => "high"
  | .best => "best"
  | .high8x8 => "8x8"
  | .high8x8Linear => "8x8linear"
  | .high16x16 => "16x16"
  | .high16x16Linear => "16x16linear"

/-- `FromStr`. -/
def fromStr : String → Option StageQuality :=
  fromStrIgnoringCase
    [("low", .low), ("medium", .medium), ("high", .high), ("best", .best), ("8x8", .high8x8),
      ("8x8linear", .high8x8Linear), ("16x16", .high16x16), ("16x16linear", .high16x16Linear)]

/-- A string reads as a quality exactly when it is that quality's display
    name in any ASCII case: each of the eight names `Display` writes reads
    back, and so does every recasing of it, such as the upper-case
    `into_avm_str` of a non-linear quality. -/
theorem fromStr_eq_some_iff (s : String) (q : StageQuality) :
    fromStr s = some q ↔ toAsciiLowercase s = toAsciiLowercase q.toString :=
  fromStrIgnoringCase_eq_some_iff (by decide) (by decide) (by intro q; cases q <;> decide) s q

/-- `into_avm_str` drops the linear variants: `8X8` reads back as `High8x8`. -/
example : fromStr (intoAvmStr .high8x8Linear) = some .high8x8 := by decide

end StageQuality

/-! ### `StageAlign` -/

/-- `StageAlign`: the `u8` bitflags `TOP`, `BOTTOM`, `LEFT` and `RIGHT`, one
    field per flag — the stage builds its alignment from the empty set and
    these four alone, so no other bit is ever set. -/
structure StageAlign where
  top : Bool
  bottom : Bool
  left : Bool
  right : Bool
deriving DecidableEq, Repr

namespace StageAlign

/-- `Default`: no flag, centred. -/
def default : StageAlign := ⟨false, false, false, false⟩

def TOP : StageAlign := ⟨true, false, false, false⟩
def BOTTOM : StageAlign := ⟨false, true, false, false⟩
def LEFT : StageAlign := ⟨false, false, true, false⟩
def RIGHT : StageAlign := ⟨false, false, false, true⟩

/-- `insert`: the union of two flag sets. -/
def insert (a f : StageAlign) : StageAlign :=
  ⟨a.top || f.top, a.bottom || f.bottom, a.left || f.left, a.right || f.right⟩

/-- `contains`: every flag of `f` is set in `a`. -/
def contains (a f : StageAlign) : Bool :=
  (!f.top || a.top) && (!f.bottom || a.bottom) && (!f.left || a.left) && (!f.right || a.right)

/-- `is_empty`. -/
def isEmpty (a : StageAlign) : Bool := a = default

end StageAlign

/-- `u8::to_ascii_uppercase`. -/
def toAsciiUppercase (c : UInt8) : UInt8 := if 97 ≤ c ∧ c ≤ 122 then c - 32 else c

/-- `str::bytes`: the string's UTF-8 encoding. -/
def bytes (s : String) : List UInt8 := s.toUTF8.data.toList

namespace StageAlign

/-- The body of the loops of `from_str` and `from_wstr`: an upper-case `T`,
    `B`, `L` or `R` inserts its flag, any other byte is passed over. -/
def insertLetter (align : StageAlign) (c : UInt8) : StageAlign :=
  if c = 'T'.toUInt8 then align.insert TOP
  else if c = 'B'.toUInt8 then align.insert BOTTOM
  else if c = 'L'.toUInt8 then align.insert LEFT
  else if c = 'R'.toUInt8 then align.insert RIGHT
  else align

/-- `FromStr`: the flags of the string's bytes, each read in upper case. -/
def fromStr (s : String) : StageAlign :=
  ((bytes s).map toAsciiUppercase).foldl insertLetter default

/-- `u8::try_from` on a UTF-16 unit. -/
def u8TryFrom (c : UInt16) : Option UInt8 := if c < 256 then some c.toUInt8 else none

/-- `FromWStr`: the flags of the string's units that are bytes, each read in
    upper case. -/
def fromWStr (s : List UInt16) : StageAlign :=
  s.foldl (fun align c => match (u8TryFrom c).map toAsciiUppercase with
    | some c => insertLetter align c
    | none => align) default

/-- The flags whose letter, in either case, is the code point of one of the
    units. -/
def ofCodePoints {β : Type} (code : β → Nat) (cs : List β) : StageAlign :=
  ⟨cs.any (fun c => code c = 'T'.toNat ∨ code c = 't'.toNat),
    cs.any (fun c => code c = 'B'.toNat ∨ code c = 'b'.toNat),
    cs.any (fun c => code c = 'L'.toNat ∨ code c = 'l'.toNat),
    cs.any (fun c => code c = 'R'.toNat ∨ code c = 'r'.toNat)⟩

/-- The flags whose letter, in either case, is among the upper-cased bytes. -/
def ofBytes (bs : List UInt8) : StageAlign :=
  ⟨bs.any (· = 'T'.toUInt8), bs.any (· = 'B'.toUInt8), bs.any (· = 'L'.toUInt8),
    bs.any (· = 'R'.toUInt8)⟩

theorem insertLetter_eq (a : StageAlign) (c : UInt8) : insertLetter a c = a.insert (ofBytes [c]) := by
  unfold insertLetter
  split_ifs with hT hB hL hR
  · subst hT; rfl
  · subst hB; rfl
  · subst hL; rfl
  · subst hR; rfl
  · simp [insert, ofBytes, hT, hB, hL, hR]

theorem foldl_insertLetter (bs : List UInt8) (a : StageAlign) :
    bs.foldl insertLetter a = a.insert (ofBytes bs) := by
  induction bs generalizing a with
  | nil => simp [insert, ofBytes]
  | cons c bs ih =>
    rw [List.foldl_cons, ih, insertLetter_eq]
    simp [insert, ofBytes, Bool.or_assoc]

end StageAlign

/-! ### Bytes of a character -/

theorem toAsciiUppercase_toNat (c : UInt8) :
    (toAsciiUppercase c).toNat = if 97 ≤ c.toNat ∧ c.toNat ≤ 122 then c.toNat - 32 else c.toNat := by
  have hle : ∀ a b : UInt8, a ≤ b ↔ a.toNat ≤ b.toNat := fun _ _ => UInt8.le_def.trans BitVec.le_def
  simp only [toAsciiUppercase, hle, show (97 : UInt8).toNat = 97 from rfl,
    show (122 : UInt8).toNat = 122 from rfl]
  split_ifs
  · rw [UInt8.toNat_sub_of_le _ _ ((hle _ _).mpr (by show 32 ≤ c.toNat; omega))]
    rfl
  · rfl

/-- Upper-casing gives an ASCII capital `n` exactly from `n` and from its
    lower case `n + 32`. -/
theorem toAsciiUppercase_eq_iff (c : UInt8) {n : UInt8} (hn : 65 ≤ n.toNat ∧ n.toNat ≤ 90) :
    toAsciiUppercase c = n ↔ c.toNat = n.toNat ∨ c.toNat = n.toNat + 32 := by
  have hinj : Function.Injective UInt8.toNat := fun _ _ => UInt8.toNat.inj
  rw [← hinj.eq_iff, toAsciiUppercase_toNat]
  split_ifs <;> omega

theorem le_toNat_or {y k : UInt8} (hk : 128 ≤ k.toNat) : 128 ≤ (y ||| k).toNat := by
  have h := BitVec.msb_eq_decide (y.toBitVec ||| k.toBitVec)
  have hk' : k.toBitVec.msb = true := by rw [BitVec.msb_eq_decide]; exact decide_eq_true hk
  rw [BitVec.msb_or, hk', Bool.or_true] at h
  exact of_decide_eq_true h.symm

/-- Every byte of the UTF-8 encoding of a character outside ASCII is at least
    `0x80`. -/
theorem le_toNat_of_mem_utf8EncodeChar {c : Char} (h : 0x7f < c.val) :
    ∀ b ∈ String.utf8EncodeChar c, 128 ≤ b.toNat := by
  simp only [String.utf8EncodeChar, show ¬ c.val ≤ 0x7f from by simpa using h, if_false]
  split_ifs <;> simp only [List.mem_cons, List.mem_singleton, List.not_mem_nil, or_false] <;>
    rintro b (rfl | rfl | rfl | rfl) <;> exact le_toNat_or (by decide)

/-- A capital letter `n` is found among the upper-cased bytes of a character
    exactly when the character is `n` or its lower case. -/
theorem mem_utf8EncodeChar_iff (c : Char) {n : UInt8} (hn : 65 ≤ n.toNat ∧ n.toNat ≤ 90) :
    ((String.utf8EncodeChar c).map toAsciiUppercase).any (· = n) =
      decide (c.val.toNat = n.toNat ∨ c.val.toNat = n.toNat + 32) := by
  have hbyte : c.val.toUInt8.toNat = c.val.toNat % 256 := rfl
  by_cases hc : c.val.toNat < 128
  · have hle : c.val ≤ 0x7f := UInt32.le_def.mpr (BitVec.le_def.mpr (by show c.val.toNat ≤ 127; omega))
    simp only [String.utf8EncodeChar, hle, if_true, List.map_cons, List.map_nil, List.any_cons,
      List.any_nil, Bool.or_false, toAsciiUppercase_eq_iff _ hn, hbyte,
      Nat.mod_eq_of_lt (by omega : c.val.toNat < 256)]
  · have hgt : 0x7f < c.val := UInt32.lt_def.mpr (BitVec.lt_def.mpr (by show 127 < c.val.toNat; omega))
    rw [decide_eq_false (by omega), List.any_eq_false]
    intro b hb
    obtain ⟨x, hx, rfl⟩ := List.mem_map.mp hb
    have := le_toNat_of_mem_utf8EncodeChar hgt x hx
    simp only [decide_eq_true_eq, toAsciiUppercase_eq_iff _ hn]
    omega

namespace StageAlign

/-- A capital letter `n` is among a string's upper-cased bytes exactly when
    the string holds `n` or its lower case. -/
theorem any_bytes_eq (s : String) {n : UInt8} (hn : 65 ≤ n.toNat ∧ n.toNat ≤ 90) :
    ((bytes s).map toAsciiUppercase).any (· = n) =
      s.data.any (fun c => c.toNat = n.toNat ∨ c.toNat = n.toNat + 32) := by
  have hbytes : bytes s = s.data.flatMap String.utf8EncodeChar := rfl
  rw [hbytes, List.map_flatMap, List.any_flatMap]
  exact congrArg s.data.any (funext fun c => mem_utf8EncodeChar_iff c hn)

/-- `StageAlign::from_str` sets exactly the flags whose letter the string
    holds, in either case, and passes over every other character, ASCII or
    not: the order of the letters, their repetition and everything around
    them are not read. -/
theorem fromStr_eq_ofCodePoints (s : String) : fromStr s = ofCodePoints Char.toNat s.data := by
  rw [fromStr, foldl_insertLetter]
  simp only [default, insert, Bool.false_or, ofBytes, any_bytes_eq s (n := 'T'.toUInt8) (by decide),
    any_bytes_eq s (n := 'B'.toUInt8) (by decide), any_bytes_eq s (n := 'L'.toUInt8) (by decide),
    any_bytes_eq s (n := 'R'.toUInt8) (by decide)]
  rfl

/-- The loop of `from_wstr` inserts the letters of the units that are bytes. -/
theorem foldl_fromWStr (s : List UInt16) (a : StageAlign) :
    s.foldl (fun align c => match (u8TryFrom c).map toAsciiUppercase with
      | some c => insertLetter align c
      | none => align) a =
      (s.filterMap fun c => (u8TryFrom c).map toAsciiUppercase).foldl insertLetter a := by
  induction s generalizing a with
  | nil => rfl
  | cons c s ih =>
    rw [List.foldl_cons, ih, List.filterMap_cons]
    cases (u8TryFrom c).map toAsciiUppercase <;> rfl

theorem any_filterMap_u8TryFrom (s : List UInt16) {n : UInt8} (hn : 65 ≤ n.toNat ∧ n.toNat ≤ 90) :
    (s.filterMap fun c => (u8TryFrom c).map toAsciiUppercase).any (· = n) =
      s.any (fun c => c.toNat = n.toNat ∨ c.toNat = n.toNat + 32) := by
  induction s with
  | nil => rfl
  | cons c s ih =>
    have hbyte : c.toUInt8.toNat = c.toNat % 256 := rfl
    have hlt : c < 256 ↔ c.toNat < 256 := UInt16.lt_def.trans BitVec.lt_def
    rw [List.filterMap_cons, List.any_cons, ← ih]
    by_cases hc : c < 256
    · simp only [u8TryFrom, hc, if_true, Option.map_some', List.any_cons,
        toAsciiUppercase_eq_iff _ hn, hbyte, Nat.mod_eq_of_lt (hlt.mp hc)]
    · have := mt hlt.mpr hc
      simp only [u8TryFrom, hc, if_false, Option.map_none']
      rw [decide_eq_false (by omega), Bool.false_or]

/-- `StageAlign::from_wstr` sets exactly the flags whose letter, in either
    case, is among the string's UTF-16 units. -/
theorem fromWStr_eq_ofCodePoints (s : List UInt16) :
    fromWStr s = ofCodePoints UInt16.toNat s := by
  rw [fromWStr, foldl_fromWStr, foldl_insertLetter]
  simp only [default, insert, Bool.false_or, ofBytes,
    any_filterMap_u8TryFrom s (n := 'T'.toUInt8) (by decide),
    any_filterMap_u8TryFrom s (n := 'B'.toUInt8) (by decide),
    any_filterMap_u8TryFrom s (n := 'L'.toUInt8) (by decide),
    any_filterMap_u8TryFrom s (n := 'R'.toUInt8) (by decide)]
  rfl

end StageAlign

/-- What every `FromStr` of the stage's settings reads: an enum's parser
    takes a string to a variant exactly when it is the variant's `Display`
    name up to ASCII case, so that every name `Display` writes reads back,
    and `StageAlign::from_str` sets exactly the flags whose letter the string
    holds, in either case. -/
theorem stageSettings_fromStr :
    (∀ s m, StageScaleMode.fromStr s = some m ↔
      toAsciiLowercase s = toAsciiLowercase m.toString) ∧
    (∀ s d, StageDisplayState.fromStr s = some d ↔
      toAsciiLowercase s = toAsciiLowercase d.toString) ∧
    (∀ s q, StageQuality.fromStr s = some q ↔
      toAsciiLowercase s = toAsciiLowercase q.toString) ∧
    ∀ s, StageAlign.fromStr s = StageAlign.ofCodePoints Char.toNat s.data :=
  ⟨StageScaleMode.fromStr_eq_some_iff, StageDisplayState.fromStr_eq_some_iff,
    StageQuality.fromStr_eq_some_iff, StageAlign.fromStr_eq_ofCodePoints⟩

end RuffleAvm
