import Libyec.BlockHeight
/-
**Network upgrades, branch ids and consensus parameters.**

The rest of `zcash_primitives::consensus`: the network upgrades, the consensus branch ids with
their 32-bit wire encoding, the `Parameters` trait with its two networks and the runtime
dispatcher between them, and `BranchId::for_height`.

The variant `ZFuture` of `NetworkUpgrade` and of `BranchId` is compiled in only with the
feature `zfuture`.  Both enums are therefore indexed by the feature flag, and `ZFuture` carries
the proof that the flag is on: under `zfuture = false` it cannot be built, exactly as in a build
without the feature.

Main definitions:

* `Consensus.BranchId.tryFrom`, `Consensus.BranchId.toU32` — the wire encoding, as the two
  `match` tables of the source;
* `Consensus.Parameters` — the trait, whose provided method `is_nu_active` is a field with the
  trait's body as its default, so that an implementation may override it as in Rust;
* `Consensus.MainNetwork`, `Consensus.TestNetwork`, `Consensus.Network` — the parameter sets;
* `Consensus.BranchId.forHeight` — the reverse scan over `UPGRADES_IN_ORDER`.

Main result:

* `Consensus.BranchId.wire_bijection` — **the wire encoding is a bijection between the variants
  of the build and the values of its table**; every other `u32` is refused.

What `for_height` computes is `Libyec/ForHeight.lean`.
-/

set_option autoImplicit false

namespace Consensus

/-! ### Network upgrades and branch ids -/

/-- `NetworkUpgrade`: an event at which the consensus rules change. -/
inductive NetworkUpgrade (zfuture : Bool) where
  | overwinter
  | sapling
  | ycash
  | blossom
  | heartwood
  | canopy
  /-- `ZFuture`, behind `#[cfg(feature = "zfuture")]`. -/
  | zFuture (enabled : zfuture = true)
  deriving DecidableEq, Repr

/-- `BranchId`: the consensus rules in force between two network upgrades. -/
inductive BranchId (zfuture : Bool) where
  | sprout
  | overwinter
  | sapling
  | ycash
  | blossom
  | heartwood
  | canopy
  /-- `ZFuture`, behind `#[cfg(feature = "zfuture")]`. -/
  | zFuture (enabled : zfuture = true)
  deriving DecidableEq, Repr

variable {zfuture : Bool}

/-- `NetworkUpgrade::branch_id`. -/
def NetworkUpgrade.branchId : NetworkUpgrade zfuture → BranchId zfuture
  | .overwinter => .overwinter
  | .sapling => .sapling
  | .ycash => .ycash
  | .blossom => .blossom
  | .heartwood => .heartwood
  | .canopy => .canopy
  | .zFuture h => .zFuture h

/-- `UPGRADES_IN_ORDER`: the network upgrades in order of activation. -/
def upgradesInOrder : List (NetworkUpgrade zfuture) :=
  [.overwinter, .sapling, .ycash, .blossom, .heartwood, .canopy]

/-! ### The wire encoding -/

/-- `TryFrom<u32> for BranchId`.  The arm of `0xffff_ffff` is compiled in only with the feature;
without it the value falls through to the error arm. -/
def BranchId.tryFrom (zfuture : Bool) (value : UInt32) : Except String (BranchId zfuture) :=
  match value with
  | 0 => .ok .sprout
  | 0x5ba81b19 => .ok .overwinter
  | 0x76b809bb => .ok .sapling
  | 0x374d694f => .ok .ycash
  | 0x2bb40e60 => .ok .blossom
  | 0xf5b9230b => .ok .heartwood
  | 0xe9ff75a6 => .ok .canopy
  | 0xffffffff => if h : zfuture = true then .ok (.zFuture h) else .error "Unknown consensus branch ID"
  | _ => .error "Unknown consensus branch ID"

/-- `From<BranchId> for u32`. -/
def BranchId.toU32 : BranchId zfuture → UInt32
  | .sprout => 0
  | .overwinter => 0x5ba81b19
  | .sapling => 0x76b809bb
  | .ycash => 0x374d694f
  | .blossom => 0x2bb40e60
  | .heartwood => 0xf5b9230b
  | .canopy => 0xe9ff75a6
  | .zFuture _ => 0xffffffff

namespace BranchId

theorem tryFrom_toU32 (b : BranchId zfuture) : tryFrom zfuture b.toU32 = .ok b := by
  cases b with
  | zFuture h => exact dif_pos h
  | _ => rfl

theorem toU32_of_tryFrom {v : UInt32} {b : BranchId zfuture} (h : tryFrom zfuture v = .ok b) :
    b.toU32 = v := by
  unfold tryFrom at h
  split at h <;> (try split at h) <;> cases h <;> rfl

theorem tryFrom_error {v : UInt32} {e : String} (h : tryFrom zfuture v = .error e) :
    e = "Unknown consensus branch ID" := by
  unfold tryFrom at h
  split at h <;> (try split at h) <;> cases h <;> rfl

/-- **The wire encoding is a bijection** between the variants of the build and the values of
its table: decoding an encoding gives the variant back, a decoded value encodes to itself, a
value fails to decode exactly when no variant encodes to it, and no two variants share a
value. -/
theorem wire_bijection (zfuture : Bool) :
    (∀ b : BranchId zfuture, tryFrom zfuture b.toU32 = .ok b) ∧
    (∀ (v : UInt32) (b : BranchId zfuture), tryFrom zfuture v = .ok b → b.toU32 = v) ∧
    (∀ v : UInt32, (∃ e, tryFrom zfuture v = .error e) ↔ ∀ b : BranchId zfuture, b.toU32 ≠ v) ∧
    Function.Injective (toU32 : BranchId zfuture → UInt32) := by
  refine ⟨tryFrom_toU32, fun _ _ => toU32_of_tryFrom, fun v => ⟨?_, fun h => ?_⟩, ?_⟩
  · rintro ⟨e, he⟩ b rfl
    rw [tryFrom_toU32] at he
    cases he
  · cases hv : tryFrom zfuture v with
    | error e => exact ⟨e, rfl⟩
    | ok b => exact absurd (toU32_of_tryFrom hv) (h b)
  · intro a b hab
    have h := tryFrom_toU32 a
    rwa [hab, tryFrom_toU32, Except.ok.injEq, eq_comm] at h

end BranchId

/-! ### Consensus parameters -/

/-- `Parameters`: the consensus parameters of a network.  Of its methods only
`activation_height` and `is_nu_active` are read by the code modelled here. -/
class Parameters (P : Type) where
  /-- `activation_height`: the height at which `nu` activates, if one has been set. -/
  activationHeight {zfuture : Bool} : P → NetworkUpgrade zfuture → Option BlockHeight
  /-- `is_nu_active`, a provided method: `activation_height(nu).map_or(false, |h| h <= height)`
  unless the implementation overrides it. -/
  isNuActive {zfuture : Bool} : P → NetworkUpgrade zfuture → BlockHeight → Bool :=
    fun self nu height => (activationHeight self nu).any fun h => decide (h ≤ height)

export Parameters (activationHeight isNuActive)

/-- `MainNetwork`: the production network. -/
structure MainNetwork where
  deriving DecidableEq, Repr

/-- `MAIN_NETWORK`. -/
def mainNetwork : MainNetwork := ⟨⟩

/-- `MainNetwork::activation_height`. -/
def MainNetwork.activationHeight : NetworkUpgrade zfuture → Option BlockHeight
  | .overwinter => some ⟨347500⟩
  | .sapling => some ⟨419200⟩
  | .ycash => some ⟨570000⟩
  | .blossom => some ⟨10000000⟩
  | .heartwood => some ⟨20000000⟩
  | .canopy => some ⟨30000000⟩
  | .zFuture _ => none

instance : Parameters MainNetwork where
  activationHeight _ := MainNetwork.activationHeight

/-- `TestNetwork`: the test network. -/
structure TestNetwork where
  deriving DecidableEq, Repr

/-- `TEST_NETWORK`. -/
def testNetwork : TestNetwork := ⟨⟩

/-- `TestNetwork::activation_height`. -/
def TestNetwork.activationHeight : NetworkUpgrade zfuture → Option BlockHeight
  | .overwinter => some ⟨207500⟩
  | .sapling => some ⟨280000⟩
  | .ycash => some ⟨510248⟩
  | .blossom => some ⟨10000000⟩
  | .heartwood => some ⟨20000000⟩
  | .canopy => some ⟨30000000⟩
  | .zFuture _ => none

instance : Parameters TestNetwork where
  activationHeight _ := TestNetwork.activationHeight

/-- `Network`: the choice between the two networks at runtime. -/
inductive Network where
  | mainNetwork
  | testNetwork
  deriving DecidableEq, Repr

/-- `Network::activation_height`: `MAIN_NETWORK.activation_height(nu)` or
`TEST_NETWORK.activation_height(nu)`. -/
def Network.activationHeight : Network → NetworkUpgrade zfuture → Option BlockHeight
  | .mainNetwork, nu => MainNetwork.activationHeight nu
  | .testNetwork, nu => TestNetwork.activationHeight nu

instance : Parameters Network where
  activationHeight := Network.activationHeight

/-! ### The branch id at a height -/

section ForHeight

variable {P : Type} [Parameters P]

/-- The loop of `for_height`, over the upgrades it has still to visit: the branch of the first
active one, and `Sprout` when none is. -/
def forHeightLoop (parameters : P) (height : BlockHeight) :
    List (NetworkUpgrade zfuture) → BranchId zfuture
  | [] => .sprout
  | nu :: nus =>
      if isNuActive parameters nu height then nu.branchId else forHeightLoop parameters height nus

/-- `BranchId::for_height`: the loop over `UPGRADES_IN_ORDER.iter().rev()`. -/
def BranchId.forHeight (parameters : P) (height : BlockHeight) : BranchId zfuture :=
  forHeightLoop parameters height upgradesInOrder.reverse

end ForHeight

end Consensus
