import Mathlib.Data.Vector.Basic
import Mathlib.Algebra.Group.Defs
/-
**The Sapling verification context.**

`zcash_proofs::sapling::verifier::SaplingVerificationContext` checks the shielded part of one
transaction.  It holds a running sum of value commitments and the ZIP 216 flag fixed at
construction; `check_spend` adds the commitment of a Spend, `check_output` subtracts that of an
Output, and `final_check` turns the sum, less the commitment of the declared value balance, into
the key that must verify the binding signature.

What the context calls lies outside this repository, and is taken as it comes: the Jubjub
group is any commutative group, and the small-order test, the point encoding, the affine
coordinates, RedJubjub's `verify_with_zip216`, Groth16's `verify_proof`, the two generators and
`compute_value_balance` of the parent module are the fields of `Sapling.Primitives`, about
which nothing is assumed.  Only bellman's multipacking of the nullifier is translated, because
`check_spend` asserts the length of its result: `Sapling.nullifierInputs_ok` proves that the
assertion holds for every 32-byte nullifier, so that no call ever panics.

Main definitions:

* `Sapling.SaplingVerificationContext`, `Sapling.SaplingVerificationContext.new`;
* `Sapling.checkSpend`, `Sapling.checkOutput`, `Sapling.finalCheck` — the three methods, a
  method that mutates the context returning its result together with the new context;
* `Sapling.bytesToBitsLe`, `Sapling.computeMultipacking` — bellman's multipacking.

Main results:

* `Sapling.nullifierInputs_ok` — the assertion of `check_spend` holds for every nullifier;
* `Sapling.checkSpend_spec`, `Sapling.checkOutput_spec` — **what one call does to the context**:
  nothing when the small-order guard rejects it, and otherwise it moves the sum by `± cv`
  whatever the outcome of the signature and proof checks, and never touches the flag.
-/

set_option autoImplicit false

namespace Sapling

/-! ### Multipacking -/

section Multipack

variable {Scalar : Type} [Zero Scalar] [One Scalar] [Add Scalar]

/-- `multipack::bytes_to_bits_le`: the bits of every byte, least significant first. -/
def bytesToBitsLe (bytes : List UInt8) : List Bool :=
  bytes.flatMap fun v => (List.range 8).map fun i => (v >>> i.toUInt8) &&& 1 == 1

/-- `Scalar::CAPACITY` of the BLS12-381 scalar field: the number of bits that always fit in a
scalar. -/
def capacity : ℕ := 254

/-- One chunk of `compute_multipacking`: the chunk read as a little-endian number, by adding a
doubling coefficient for every set bit. -/
def packChunk (bits : List Bool) : Scalar :=
  (bits.foldl (fun acc bit => (if bit then acc.1 + acc.2 else acc.1, acc.2 + acc.2))
    ((0, 1) : Scalar × Scalar)).1

/-- `multipack::compute_multipacking`: the bits in chunks of `CAPACITY`, each chunk packed. -/
def computeMultipacking : List Bool → List Scalar
  | [] => []
  | bit :: bits =>
      packChunk ((bit :: bits).take capacity) :: computeMultipacking ((bit :: bits).drop capacity)
termination_by bits => bits.length
decreasing_by
  simp only [List.length_drop, List.length_cons, capacity]
  omega

theorem length_bytesToBitsLe (bytes : List UInt8) :
    (bytesToBitsLe bytes).length = 8 * bytes.length := by
  induction bytes with
  | nil => rfl
  | cons v bytes ih =>
      rw [bytesToBitsLe, List.flatMap_cons, List.length_append, ← bytesToBitsLe, ih]
      simp only [List.length_map, List.length_range, List.length_cons]
      omega

theorem length_computeMultipacking (bits : List Bool) :
    (computeMultipacking bits : List Scalar).length = (bits.length + capacity - 1) / capacity := by
  induction bits using @computeMultipacking.induct Scalar _ _ _ with
  | case1 => simp [computeMultipacking, capacity]
  | case2 bit bits ih =>
      rw [computeMultipacking, List.length_cons, ih, List.length_drop]
      simp only [List.length_cons, capacity]
      omega

/-- The public inputs that carry a nullifier, with the source's
`assert_eq!(nullifier.len(), 2)` on the multipacking. -/
def nullifierInputs (nullifier : Mathlib.Vector UInt8 32) : Except String (Scalar × Scalar) :=
  match computeMultipacking (bytesToBitsLe nullifier.toList) with
  | [n0, n1] => .ok (n0, n1)
  | _ => .error "assertion failed: nullifier.len() == 2"

/-- **The assertion on the nullifier never fails**: 256 bits make two chunks of at most
`CAPACITY` bits. -/
theorem nullifierInputs_ok (nullifier : Mathlib.Vector UInt8 32) :
    ∃ n : Scalar × Scalar, nullifierInputs nullifier = .ok n := by
  have hlen : (computeMultipacking (bytesToBitsLe nullifier.toList) : List Scalar).length = 2 := by
    rw [length_computeMultipacking, length_bytesToBitsLe, nullifier.toList_length]
    rfl
  obtain ⟨n0, n1, h⟩ := List.length_eq_two.1 hlen
  exact ⟨(n0, n1), by rw [nullifierInputs, h]⟩

end Multipack

/-! ### The collaborators -/

/-- `redjubjub::PublicKey`: a RedJubjub verification key, a point of the curve. -/
structure PublicKey (Point : Type) where
  /-- The point, `.0` in the source. -/
  point : Point

/-- What the verification context calls and this repository does not define: the Jubjub curve,
RedJubjub, Groth16 over BLS12-381, the generators of `zcash_primitives::constants`, and
`compute_value_balance` of `zcash_proofs::sapling`. -/
structure Primitives (Point Scalar Signature Proof VerifyingKey Amount : Type) where
  /-- `is_small_order`: the point lies in the torsion of the curve. -/
  isSmallOrder : Point → Bool
  /-- `GroupEncoding::to_bytes`: the 32-byte encoding of a point. -/
  toBytes : Point → Mathlib.Vector UInt8 32
  /-- `to_affine` followed by `get_u` and `get_v`. -/
  toAffine : Point → Scalar × Scalar
  /-- `PublicKey::verify_with_zip216(msg, sig, generator, zip216_enabled)`. -/
  verifyWithZip216 : PublicKey Point → Mathlib.Vector UInt8 64 → Signature → Point → Bool → Bool
  /-- `verify_proof(verifying_key, proof, public_inputs).is_ok()`. -/
  verifyProof : VerifyingKey → Proof → List Scalar → Bool
  /-- `compute_value_balance`: the commitment of a declared value balance, when it has one. -/
  computeValueBalance : Amount → Option Point
  /-- `SPENDING_KEY_GENERATOR`. -/
  spendingKeyGenerator : Point
  /-- `VALUE_COMMITMENT_RANDOMNESS_GENERATOR`. -/
  valueCommitmentRandomnessGenerator : Point

/-! ### The context and its methods -/

/-- `SaplingVerificationContext`. -/
structure SaplingVerificationContext (Point : Type) where
  /-- `cv_sum`: the sum of the Spend value commitments less that of the Output ones. -/
  cvSum : Point
  /-- `zip216_enabled`. -/
  zip216Enabled : Bool

section Context

variable {Point Scalar Signature Proof VerifyingKey Amount : Type} [AddCommGroup Point]
  [Zero Scalar] [One Scalar] [Add Scalar]
  (c : Primitives Point Scalar Signature Proof VerifyingKey Amount)

/-- `SaplingVerificationContext::new`: the identity point and the flag. -/
def SaplingVerificationContext.new (zip216Enabled : Bool) : SaplingVerificationContext Point :=
  ⟨0, zip216Enabled⟩

/-- `SaplingVerificationContext::check_spend`.  A rejection by the small-order guard leaves the
context alone; past the guard the value commitment is accumulated before the spend
authorization signature and the proof are checked.  The error is a panic. -/
def checkSpend (self : SaplingVerificationContext Point) (cv : Point) (anchor : Scalar)
    (nullifier : Mathlib.Vector UInt8 32) (rk : PublicKey Point)
    (sighashValue : Mathlib.Vector UInt8 32) (spendAuthSig : Signature) (zkproof : Proof)
    (verifyingKey : VerifyingKey) : Except String (Bool × SaplingVerificationContext Point) :=
  if c.isSmallOrder cv || c.isSmallOrder rk.point then .ok (false, self) else
  let self := { self with cvSum := self.cvSum + cv }
  let dataToBeSigned := (c.toBytes rk.point).append sighashValue
  if !c.verifyWithZip216 rk dataToBeSigned spendAuthSig c.spendingKeyGenerator
      self.zip216Enabled then .ok (false, self) else
  let rkAffine := c.toAffine rk.point
  let cvAffine := c.toAffine cv
  (nullifierInputs nullifier).map fun nf =>
    (c.verifyProof verifyingKey zkproof
      [rkAffine.1, rkAffine.2, cvAffine.1, cvAffine.2, anchor, nf.1, nf.2], self)

omit [Zero Scalar] [One Scalar] [Add Scalar] in
/-- `SaplingVerificationContext::check_output`: the guard also covers the ephemeral key, and
the value commitment is subtracted. -/
def checkOutput (self : SaplingVerificationContext Point) (cv : Point) (cmu : Scalar)
    (epk : Point) (zkproof : Proof) (verifyingKey : VerifyingKey) :
    Bool × SaplingVerificationContext Point :=
  if c.isSmallOrder cv || c.isSmallOrder epk then (false, self) else
  let self := { self with cvSum := self.cvSum - cv }
  let cvAffine := c.toAffine cv
  let epkAffine := c.toAffine epk
  (c.verifyProof verifyingKey zkproof [cvAffine.1, cvAffine.2, epkAffine.1, epkAffine.2, cmu], self)

/-- `SaplingVerificationContext::final_check`: the binding signature must verify under the
accumulated sum less the commitment of the declared value balance. -/
def finalCheck (self : SaplingVerificationContext Point) (valueBalance : Amount)
    (sighashValue : Mathlib.Vector UInt8 32) (bindingSig : Signature) : Bool :=
  let bvk : PublicKey Point := ⟨self.cvSum⟩
  match c.computeValueBalance valueBalance with
  | none => false
  | some valueBalance =>
      let bvk : PublicKey Point := ⟨bvk.point - valueBalance⟩
      let dataToBeSigned := (c.toBytes bvk.point).append sighashValue
      c.verifyWithZip216 bvk dataToBeSigned bindingSig c.valueCommitmentRandomnessGenerator
        self.zip216Enabled

/-! ### One call -/

variable {c}

/-- **What a spend check does to the context.** -/
theorem checkSpend_spec (self : SaplingVerificationContext Point) (cv : Point) (anchor : Scalar)
    (nullifier : Mathlib.Vector UInt8 32) (rk : PublicKey Point)
    (sighashValue : Mathlib.Vector UInt8 32) (spendAuthSig : Signature) (zkproof : Proof)
    (verifyingKey : VerifyingKey) :
    ∃ b, checkSpend c self cv anchor nullifier rk sighashValue spendAuthSig zkproof verifyingKey =
      .ok (b, if c.isSmallOrder cv || c.isSmallOrder rk.point then self
        else { self with cvSum := self.cvSum + cv }) := by
  unfold checkSpend
  split
  · exact ⟨false, rfl⟩
  · dsimp only
    split
    · exact ⟨false, rfl⟩
    · obtain ⟨n, hn⟩ : ∃ n : Scalar × Scalar, nullifierInputs nullifier = .ok n :=
        nullifierInputs_ok nullifier
      exact ⟨_, by rw [hn]; rfl⟩

omit [Zero Scalar] [One Scalar] [Add Scalar] in
/-- **What an output check does to the context.** -/
theorem checkOutput_spec (self : SaplingVerificationContext Point) (cv : Point) (cmu : Scalar)
    (epk : Point) (zkproof : Proof) (verifyingKey : VerifyingKey) :
    (checkOutput c self cv cmu epk zkproof verifyingKey).2 =
      if c.isSmallOrder cv || c.isSmallOrder epk then self
      else { self with cvSum := self.cvSum - cv } := by
  unfold checkOutput
  split <;> rfl

end Context

end Sapling
