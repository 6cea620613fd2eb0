import Libyec.Consensus
/-
**The branch id at a height is a step function of the height.**

`BranchId::for_height` scans `UPGRADES_IN_ORDER` from the most recent upgrade back and returns
the branch of the first one that the parameters' `is_nu_active` calls active at the height.
Over any parameters whatsoever, that is the branch of the *last* active upgrade of the list
(`Consensus.BranchId.forHeight_eq_getLast`).  It is the intended step function — `Sprout` below
the first activation, then each upgrade's branch from its own activation height, inclusive, up
to the next one's — only because each network keeps the trait's provided `is_nu_active` and
schedules every upgrade of the list, at strictly increasing heights.  This module names those
two assumptions, proves that the active upgrades then form a prefix of the list, and reads every
property of the step function off the length of that prefix.

Main definitions:

* `Consensus.ProvidedIsNuActive` — the implementation keeps the provided `is_nu_active`;
* `Consensus.ScheduleOrdered` — every upgrade of the list is scheduled, an earlier one strictly
  earlier;
* `Consensus.activeCount` — the number of upgrades active at a height;
* `Consensus.BranchId.rank` — the position of a branch in `Sprout < Overwinter < … < Canopy`;
* `Consensus.ForHeightSpec` — the step function that `for_height` is meant to compute;
* `Consensus.firstFalse`, `Consensus.BranchId.forHeightSearch` — the faster alternative that the
  specification allows: a binary search over the activation heights.

Main results:

* `Consensus.ScheduleOrdered.rank_forHeight` — under an ordered schedule **the branch at a height
  is the one whose rank is the number of upgrades active there**;
* `Consensus.BranchId.forHeight_sound` — **over any parameters, ordered or not, the branch
  returned is that of an active upgrade, and `Sprout` exactly when none is active**;
* `Consensus.BranchId.forHeight_zero` — with the provided `is_nu_active`, height zero is
  `Sprout` unless an upgrade is scheduled there;
* `Consensus.ScheduleOrdered.forHeightSpec` — an ordered schedule meets the specification;
* `Consensus.forHeight_step_function` — **every parameters value of the code meets it**;
* `Consensus.BranchId.forHeightSearch_eq` — **under an ordered schedule, and with the provided
  `is_nu_active`, the binary search and the linear scan agree at every height**.
-/

set_option autoImplicit false

namespace Consensus

/-! ### Prefixes of a list -/

section Prefix

variable {α : Type} {q : α → Bool} {l : List α}

/-- When `q` of an element implies `q` of every earlier one, the elements satisfying `q` are
the first `countP q` ones. -/
theorem getElem_iff_lt_countP (h : l.Pairwise fun a b => q b → q a) {i : ℕ}
    (hi : i < l.length) : q l[i] ↔ i < l.countP q := by
  induction l generalizing i with
  | nil => cases hi
  | cons x xs ih =>
      obtain ⟨hx, hxs⟩ := List.pairwise_cons.1 h
      by_cases hqx : q x
      · rw [List.countP_cons_of_pos _ _ hqx]
        cases i with
        | zero => simp [hqx]
        | succ i => simpa using ih hxs (by simpa using hi)
      · have hall : ∀ y ∈ xs, ¬ q y := fun y hy hqy => hqx (hx y hy hqy)
        rw [List.countP_cons_of_neg _ _ hqx, List.countP_eq_zero.2 hall]
        cases i with
        | zero => simpa using hqx
        | succ i => simpa using hall _ (List.getElem_mem _)

theorem filter_eq_take_countP (h : l.Pairwise fun a b => q b → q a) :
    l.filter q = l.take (l.countP q) := by
  induction l with
  | nil => rfl
  | cons x xs ih =>
      obtain ⟨hx, hxs⟩ := List.pairwise_cons.1 h
      by_cases hqx : q x
      · rw [List.filter_cons_of_pos hqx, List.countP_cons_of_pos _ _ hqx, ih hxs,
          List.take_succ_cons]
      · have hall : ∀ y ∈ xs, ¬ q y := fun y hy hqy => hqx (hx y hy hqy)
        rw [List.filter_cons_of_neg hqx, List.countP_cons_of_neg _ _ hqx,
          List.countP_eq_zero.2 hall, List.filter_eq_nil_iff.2 hall, List.take_zero]

end Prefix

variable {zfuture : Bool} {P : Type} [Parameters P]

/-! ### Activity -/

/-- The implementation keeps the provided `is_nu_active` of the trait, as `MainNetwork`,
`TestNetwork` and `Network` do: an upgrade is active exactly from its activation height on.
Rust lets an implementation override the method, and `for_height` calls the override. -/
class ProvidedIsNuActive (P : Type) [Parameters P] : Prop where
  /-- `is_nu_active` is `activation_height(nu).map_or(false, |h| h <= height)`. -/
  isNuActive_eq {zfuture : Bool} (p : P) (nu : NetworkUpgrade zfuture) (height : BlockHeight) :
    isNuActive p nu height = (activationHeight p nu).any fun h => decide (h ≤ height)

instance : ProvidedIsNuActive MainNetwork := ⟨fun _ _ _ => rfl⟩

instance : ProvidedIsNuActive TestNetwork := ⟨fun _ _ _ => rfl⟩

instance : ProvidedIsNuActive Network := ⟨fun _ _ _ => rfl⟩

theorem isNuActive_of_eq [ProvidedIsNuActive P] {p : P} {nu : NetworkUpgrade zfuture}
    {a height : BlockHeight} (ha : activationHeight p nu = some a) :
    isNuActive p nu height ↔ a ≤ height := by
  simp [ProvidedIsNuActive.isNuActive_eq, ha]

theorem isNuActive_iff [ProvidedIsNuActive P] {p : P} {nu : NetworkUpgrade zfuture}
    {height : BlockHeight} :
    isNuActive p nu height ↔ ∃ a, activationHeight p nu = some a ∧ a ≤ height := by
  cases ha : activationHeight p nu <;> simp [ProvidedIsNuActive.isNuActive_eq, ha]

/-- An upgrade active at a height stays active at every later one. -/
theorem isNuActive_mono [ProvidedIsNuActive P] {p : P} {nu : NetworkUpgrade zfuture}
    {height height' : BlockHeight} (hle : height ≤ height') (h : isNuActive p nu height) :
    isNuActive p nu height' := by
  obtain ⟨a, ha, hah⟩ := isNuActive_iff.1 h
  exact (isNuActive_of_eq ha).2 (by simp only [BlockHeight.le_iff] at *; omega)

/-! ### The reverse scan -/

theorem forHeightLoop_eq (p : P) (height : BlockHeight) (nus : List (NetworkUpgrade zfuture)) :
    forHeightLoop p height nus =
      ((nus.filter (isNuActive p · height)).head?.map NetworkUpgrade.branchId).getD .sprout := by
  induction nus with
  | nil => rfl
  | cons nu nus ih => by_cases h : isNuActive p nu height <;> simp [forHeightLoop, h, ih]

/-- **`for_height` is the branch of the last upgrade of `UPGRADES_IN_ORDER` active at the
height**, and `Sprout` when none is, whatever the parameters. -/
theorem BranchId.forHeight_eq_getLast (p : P) (height : BlockHeight) :
    (BranchId.forHeight p height : BranchId zfuture) =
      ((upgradesInOrder.filter (isNuActive p · height)).getLast?.map
        NetworkUpgrade.branchId).getD .sprout := by
  rw [forHeight, forHeightLoop_eq, List.filter_reverse, List.head?_reverse]

theorem NetworkUpgrade.branchId_ne_sprout (nu : NetworkUpgrade zfuture) :
    nu.branchId ≠ .sprout := by
  cases nu <;> simp [NetworkUpgrade.branchId]

theorem NetworkUpgrade.branchId_injective :
    Function.Injective (NetworkUpgrade.branchId : NetworkUpgrade zfuture → BranchId zfuture) := by
  intro a b h
  cases a <;> cases b <;> first | rfl | cases h

/-- What `for_height` can return, whatever the parameters: `Sprout` when no upgrade of the list
is active, and otherwise the branch of an active one. -/
theorem BranchId.forHeight_cases (p : P) (height : BlockHeight) :
    ((BranchId.forHeight p height : BranchId zfuture) = .sprout ∧
      ∀ nu ∈ (upgradesInOrder : List (NetworkUpgrade zfuture)), isNuActive p nu height = false) ∨
    ∃ nu ∈ (upgradesInOrder : List (NetworkUpgrade zfuture)), isNuActive p nu height = true ∧
      BranchId.forHeight p height = nu.branchId := by
  rw [BranchId.forHeight_eq_getLast]
  cases hl : (upgradesInOrder.filter (isNuActive p · height)).getLast? with
  | none =>
      rw [List.getLast?_eq_none_iff, List.filter_eq_nil_iff] at hl
      exact .inl ⟨rfl, fun nu hnu => by simpa using hl nu hnu⟩
  | some nu₀ =>
      obtain ⟨hmem, hact⟩ := List.mem_filter.1 (List.mem_of_getLast?_eq_some hl)
      exact .inr ⟨nu₀, hmem, by simpa using hact, rfl⟩

/-- **Whatever the parameters, ordered or not, and even with an overridden `is_nu_active`,
`for_height` never returns the branch of an upgrade that is not active at the height, and
returns `Sprout` exactly when no upgrade of the list is active.** -/
theorem BranchId.forHeight_sound (p : P) (height : BlockHeight) :
    ((BranchId.forHeight p height : BranchId zfuture) = .sprout ↔
      ∀ nu ∈ (upgradesInOrder : List (NetworkUpgrade zfuture)), isNuActive p nu height = false) ∧
    ∀ nu : NetworkUpgrade zfuture, BranchId.forHeight p height = nu.branchId →
      isNuActive p nu height = true := by
  rcases BranchId.forHeight_cases p height with ⟨h, hnone⟩ | ⟨nu₀, hmem, hact, h⟩
  · exact ⟨iff_of_true h hnone, fun nu hnu => absurd (hnu.symm.trans h) nu.branchId_ne_sprout⟩
  · refine ⟨iff_of_false (h ▸ nu₀.branchId_ne_sprout) fun hnone => ?_, fun nu hnu => ?_⟩
    · rw [hnone nu₀ hmem] at hact
      cases hact
    · rwa [← NetworkUpgrade.branchId_injective (h.symm.trans hnu)]

/-- **Height zero resolves to `Sprout` exactly when no upgrade of the list is scheduled at
height zero**, for every implementation that keeps the provided `is_nu_active`.  An override can
make an unscheduled upgrade active at zero, and then the claim fails. -/
theorem BranchId.forHeight_zero [ProvidedIsNuActive P] (p : P) :
    (BranchId.forHeight p ⟨0⟩ : BranchId zfuture) = .sprout ↔
      ∀ nu ∈ (upgradesInOrder : List (NetworkUpgrade zfuture)),
        activationHeight p nu ≠ some ⟨0⟩ := by
  have hzero (nu : NetworkUpgrade zfuture) :
      isNuActive p nu ⟨0⟩ = true ↔ activationHeight p nu = some ⟨0⟩ := by
    rw [isNuActive_iff]
    refine ⟨fun ⟨a, ha, hle⟩ => ha.trans (congrArg _ (BlockHeight.ext_toNat ?_)),
      fun h => ⟨_, h, Nat.le_refl _⟩⟩
    simpa using hle
  rcases BranchId.forHeight_cases p ⟨0⟩ with ⟨h, hnone⟩ | ⟨nu₀, hmem, hact, h⟩
  · exact iff_of_true h fun nu hnu h0 =>
      Bool.false_ne_true ((hnone nu hnu).symm.trans ((hzero nu).2 h0))
  · exact iff_of_false (h ▸ nu₀.branchId_ne_sprout) fun hall => hall nu₀ hmem ((hzero nu₀).1 hact)

theorem forHeight_zero_mainNetwork :
    (BranchId.forHeight mainNetwork ⟨0⟩ : BranchId false) = .sprout ↔
      ∀ nu ∈ (upgradesInOrder : List (NetworkUpgrade false)),
        activationHeight mainNetwork nu ≠ some ⟨0⟩ :=
  BranchId.forHeight_zero mainNetwork

/-! ### Ranks of branches -/

/-- The position of a branch in the order of the epochs, `Sprout < Overwinter < … < Canopy`,
with `ZFuture` after all of them. -/
def BranchId.rank : BranchId zfuture → ℕ
  | .sprout => 0
  | .overwinter => 1
  | .sapling => 2
  | .ycash => 3
  | .blossom => 4
  | .heartwood => 5
  | .canopy => 6
  | .zFuture _ => 7

theorem BranchId.rank_injective : Function.Injective (rank : BranchId zfuture → ℕ) := by
  intro a b h
  cases a <;> cases b <;> first | rfl | cases h

@[simp] theorem length_upgradesInOrder :
    (upgradesInOrder : List (NetworkUpgrade zfuture)).length = 6 := rfl

theorem rank_branchId_getElem {i : ℕ}
    (hi : i < (upgradesInOrder : List (NetworkUpgrade zfuture)).length) :
    (upgradesInOrder : List (NetworkUpgrade zfuture))[i].branchId.rank = i + 1 := by
  rcases i with _ | _ | _ | _ | _ | _ | i
  all_goals first | rfl | (simp at hi; omega)

/-! ### Ordered schedules -/

/-- The invariant behind `for_height`: every upgrade of `UPGRADES_IN_ORDER` is scheduled, and an
earlier one strictly earlier.  The test `nu_ordering` samples it for the main network. -/
structure ScheduleOrdered (zfuture : Bool) (p : P) : Prop where
  /-- Every upgrade of the list has an activation height. -/
  isSome : ∀ nu ∈ (upgradesInOrder : List (NetworkUpgrade zfuture)), (activationHeight p nu).isSome
  /-- Activation heights strictly increase along the list. -/
  lt : (upgradesInOrder : List (NetworkUpgrade zfuture)).Pairwise fun a b =>
    ∀ x ∈ activationHeight p a, ∀ y ∈ activationHeight p b, x < y

/-- The number of upgrades of `UPGRADES_IN_ORDER` active at `height`. -/
def activeCount (zfuture : Bool) (p : P) (height : BlockHeight) : ℕ :=
  (upgradesInOrder : List (NetworkUpgrade zfuture)).countP (isNuActive p · height)

theorem activeCount_le (p : P) (height : BlockHeight) : activeCount zfuture p height ≤ 6 :=
  List.countP_le_length _

/-- More upgrades are active at a later height. -/
theorem activeCount_mono [ProvidedIsNuActive P] (p : P) {height height' : BlockHeight}
    (hle : height ≤ height') :
    activeCount zfuture p height ≤ activeCount zfuture p height' :=
  List.countP_mono_left fun _ _ => isNuActive_mono hle

namespace ScheduleOrdered

variable {p : P} (hp : ScheduleOrdered zfuture p)
include hp

theorem activation {nu : NetworkUpgrade zfuture} (hnu : nu ∈ upgradesInOrder) :
    ∃ a, activationHeight p nu = some a :=
  Option.isSome_iff_exists.1 (hp.isSome nu hnu)

theorem activation_lt {i j : ℕ} (hij : i < j)
    (hj : j < (upgradesInOrder : List (NetworkUpgrade zfuture)).length) {a b : BlockHeight}
    (ha : activationHeight p (upgradesInOrder : List (NetworkUpgrade zfuture))[i] = some a)
    (hb : activationHeight p (upgradesInOrder : List (NetworkUpgrade zfuture))[j] = some b) :
    a < b :=
  List.pairwise_iff_getElem.1 hp.lt i j (by omega) hj hij a ha b hb

theorem activation_le {i j : ℕ} (hij : i ≤ j)
    (hj : j < (upgradesInOrder : List (NetworkUpgrade zfuture)).length) {a b : BlockHeight}
    (ha : activationHeight p (upgradesInOrder : List (NetworkUpgrade zfuture))[i] = some a)
    (hb : activationHeight p (upgradesInOrder : List (NetworkUpgrade zfuture))[j] = some b) :
    a ≤ b := by
  rcases Nat.lt_or_eq_of_le hij with hij | rfl
  · have := hp.activation_lt hij hj ha hb
    simp only [BlockHeight.le_iff, BlockHeight.lt_iff] at this ⊢
    omega
  · rw [ha, Option.some.injEq] at hb
    simp [hb]

variable [ProvidedIsNuActive P]

/-- Under an ordered schedule an upgrade active at a height makes every earlier one active. -/
theorem pairwise_active (height : BlockHeight) :
    (upgradesInOrder : List (NetworkUpgrade zfuture)).Pairwise fun a b =>
      isNuActive p b height → isNuActive p a height := by
  refine hp.lt.imp_of_mem fun {a b} ha _ hlt hb => ?_
  obtain ⟨x, hx⟩ := hp.activation ha
  obtain ⟨y, hy, hyh⟩ := isNuActive_iff.1 hb
  have := hlt x hx y hy
  exact (isNuActive_of_eq hx).2 (by simp only [BlockHeight.le_iff, BlockHeight.lt_iff] at *; omega)

/-- **The active upgrades are the first `activeCount` ones.** -/
theorem active_iff_lt (height : BlockHeight) {i : ℕ}
    (hi : i < (upgradesInOrder : List (NetworkUpgrade zfuture)).length) :
    isNuActive p upgradesInOrder[i] height ↔ i < activeCount zfuture p height :=
  getElem_iff_lt_countP (hp.pairwise_active height) hi

/-- An upgrade has not activated yet exactly when it is not active. -/
theorem before_iff {nu : NetworkUpgrade zfuture} (hnu : nu ∈ upgradesInOrder)
    (height : BlockHeight) :
    (∃ a, activationHeight p nu = some a ∧ height < a) ↔ isNuActive p nu height = false := by
  obtain ⟨a, ha⟩ := hp.activation hnu
  simp only [ha, Option.some.injEq, exists_eq_left', Bool.eq_false_iff, ne_eq,
    isNuActive_of_eq ha, BlockHeight.le_iff, BlockHeight.lt_iff]
  omega

/-- **Under an ordered schedule the branch at a height has the rank of the number of upgrades
active there.** -/
theorem rank_forHeight (height : BlockHeight) :
    (BranchId.forHeight p height : BranchId zfuture).rank = activeCount zfuture p height := by
  have hk : activeCount zfuture p height ≤ 6 := activeCount_le p height
  rw [BranchId.forHeight_eq_getLast, filter_eq_take_countP (hp.pairwise_active height),
    List.getLast?_take]
  unfold activeCount at hk ⊢
  split
  · next h0 => rw [h0]; rfl
  · rw [List.getElem?_eq_getElem (by simp; omega)]
    simp only [Option.or_some, Option.map_some', Option.getD_some, rank_branchId_getElem]
    omega

theorem forHeight_eq_iff (height : BlockHeight) (b : BranchId zfuture) :
    BranchId.forHeight p height = b ↔ activeCount zfuture p height = b.rank := by
  rw [← hp.rank_forHeight height]
  exact BranchId.rank_injective.eq_iff.symm

end ScheduleOrdered

/-! ### What `for_height` is meant to compute -/

/-- The step function `for_height` is meant to compute over the parameters `p`, in the order of
`UPGRADES_IN_ORDER`. -/
structure ForHeightSpec (zfuture : Bool) (p : P) : Prop where
  /-- `Sprout` exactly below the first activation height. -/
  sprout_iff : ∀ height : BlockHeight,
    BranchId.forHeight p height = (BranchId.sprout : BranchId zfuture) ↔
      ∀ nu ∈ (@upgradesInOrder zfuture).head?, ∃ a, activationHeight p nu = some a ∧ height < a
  /-- The branch of the `i`-th upgrade exactly from its activation height, inclusive, to the
  next upgrade's, exclusive, or on for ever after the last one. -/
  branch_iff : ∀ (height : BlockHeight) (i : ℕ) (hi : i < (@upgradesInOrder zfuture).length),
    BranchId.forHeight p height = (@upgradesInOrder zfuture)[i].branchId ↔
      (∃ a, activationHeight p (@upgradesInOrder zfuture)[i] = some a ∧ a ≤ height) ∧
      ∀ nu ∈ (@upgradesInOrder zfuture)[i + 1]?, ∃ a, activationHeight p nu = some a ∧ height < a
  /-- Equivalently, the branch of the upgrade of greatest activation height not above the
  height. -/
  branch_iff_greatest : ∀ (height : BlockHeight) (i : ℕ)
    (hi : i < (@upgradesInOrder zfuture).length),
    BranchId.forHeight p height = (@upgradesInOrder zfuture)[i].branchId ↔
      ∃ a, activationHeight p (@upgradesInOrder zfuture)[i] = some a ∧ a ≤ height ∧
        ∀ nu ∈ (@upgradesInOrder zfuture), ∀ b ∈ activationHeight p nu, b ≤ height → b ≤ a
  /-- The upgrades up to the one returned are active, and those after it are not. -/
  active_iff_le : ∀ (height : BlockHeight) (i : ℕ) (hi : i < (@upgradesInOrder zfuture).length),
    BranchId.forHeight p height = (@upgradesInOrder zfuture)[i].branchId →
      ∀ (j : ℕ) (hj : j < (@upgradesInOrder zfuture).length),
        isNuActive p (@upgradesInOrder zfuture)[j] height ↔ j ≤ i
  /-- At `Sprout` no upgrade is active. -/
  sprout_inactive : ∀ height : BlockHeight,
    BranchId.forHeight p height = (BranchId.sprout : BranchId zfuture) →
      ∀ nu ∈ (@upgradesInOrder zfuture), isNuActive p nu height = false
  /-- An activation height is the first height of its upgrade's branch. -/
  boundary : ∀ (i : ℕ) (hi : i < (@upgradesInOrder zfuture).length),
    ∀ a ∈ activationHeight p (@upgradesInOrder zfuture)[i],
      BranchId.forHeight p a = (@upgradesInOrder zfuture)[i].branchId
  /-- The branch never goes back along `Sprout < Overwinter < … < Canopy` as the height grows. -/
  monotone : ∀ height height' : BlockHeight, height ≤ height' →
    (BranchId.forHeight p height : BranchId zfuture).rank ≤
      (BranchId.forHeight p height' : BranchId zfuture).rank
  /-- The branch is never `ZFuture`. -/
  ne_zFuture : ∀ (height : BlockHeight) (h : zfuture = true),
    BranchId.forHeight p height ≠ BranchId.zFuture h

namespace ScheduleOrdered

variable {p : P} (hp : ScheduleOrdered zfuture p) [ProvidedIsNuActive P]
include hp

/-- The next upgrade after the `i`-th has not activated yet exactly when at most `i + 1`
upgrades are active. -/
theorem next_before_iff (height : BlockHeight) {i : ℕ}
    (hi : i < (@upgradesInOrder zfuture).length) :
    (∀ nu ∈ (@upgradesInOrder zfuture)[i + 1]?,
      ∃ a, activationHeight p nu = some a ∧ height < a) ↔
      activeCount zfuture p height ≤ i + 1 := by
  have hk : activeCount zfuture p height ≤ 6 := activeCount_le p height
  by_cases hi' : i + 1 < (@upgradesInOrder zfuture).length
  · rw [List.getElem?_eq_getElem hi']
    simp only [Option.mem_def, Option.some.injEq, forall_eq', hp.before_iff (List.getElem_mem _),
      Bool.eq_false_iff, ne_eq, hp.active_iff_lt height hi']
    omega
  · rw [List.getElem?_eq_none (by omega)]
    simp only [length_upgradesInOrder] at hi'
    simp only [Option.mem_def, reduceCtorEq, false_implies, implies_true, true_iff]
    omega

theorem sprout_iff (height : BlockHeight) :
    BranchId.forHeight p height = (BranchId.sprout : BranchId zfuture) ↔
      ∀ nu ∈ (@upgradesInOrder zfuture).head?, ∃ a, activationHeight p nu = some a ∧ height < a := by
  have h1 := hp.active_iff_lt height (show 0 < (@upgradesInOrder zfuture).length by simp)
  rw [hp.forHeight_eq_iff, show (@upgradesInOrder zfuture).head? = some upgradesInOrder[0] from rfl]
  simp only [Option.mem_def, Option.some.injEq, forall_eq']
  rw [hp.before_iff (List.getElem_mem _), Bool.eq_false_iff, ne_eq, h1]
  show _ = 0 ↔ _
  omega

theorem branch_iff (height : BlockHeight) {i : ℕ} (hi : i < (@upgradesInOrder zfuture).length) :
    BranchId.forHeight p height = (@upgradesInOrder zfuture)[i].branchId ↔
      (∃ a, activationHeight p (@upgradesInOrder zfuture)[i] = some a ∧ a ≤ height) ∧
      ∀ nu ∈ (@upgradesInOrder zfuture)[i + 1]?, ∃ a, activationHeight p nu = some a ∧ height < a := by
  rw [hp.forHeight_eq_iff, rank_branchId_getElem, ← isNuActive_iff, hp.active_iff_lt height hi,
    hp.next_before_iff height hi]
  omega

theorem branch_iff_greatest (height : BlockHeight) {i : ℕ}
    (hi : i < (@upgradesInOrder zfuture).length) :
    BranchId.forHeight p height = (@upgradesInOrder zfuture)[i].branchId ↔
      ∃ a, activationHeight p (@upgradesInOrder zfuture)[i] = some a ∧ a ≤ height ∧
        ∀ nu ∈ (@upgradesInOrder zfuture), ∀ b ∈ activationHeight p nu, b ≤ height → b ≤ a := by
  obtain ⟨a, ha⟩ := hp.activation (List.getElem_mem hi)
  have hact := hp.active_iff_lt height hi
  rw [isNuActive_of_eq ha] at hact
  rw [hp.forHeight_eq_iff, rank_branchId_getElem]
  constructor
  · intro hk
    refine ⟨a, ha, hact.2 (by omega), fun nu hnu b hb hbh => ?_⟩
    obtain ⟨j, hj, rfl⟩ := List.mem_iff_getElem.1 hnu
    have hjk := (hp.active_iff_lt height hj).1 ((isNuActive_of_eq hb).2 hbh)
    exact hp.activation_le (by omega) hi hb ha
  · rintro ⟨a', ha', hah, hmax⟩
    rw [ha, Option.some.injEq] at ha'
    subst ha'
    have hik := hact.1 hah
    have hk : activeCount zfuture p height ≤ 6 := activeCount_le p height
    by_contra hne
    have hi1 : i + 1 < (@upgradesInOrder zfuture).length := by simp only [length_upgradesInOrder]; omega
    obtain ⟨b, hb⟩ := hp.activation (List.getElem_mem hi1)
    have hbh := (isNuActive_of_eq hb).1 ((hp.active_iff_lt height hi1).2 (by omega))
    have h1 := hmax _ (List.getElem_mem hi1) b hb hbh
    have h2 := hp.activation_lt (Nat.lt_succ_self i) hi1 ha hb
    simp only [BlockHeight.le_iff, BlockHeight.lt_iff] at h1 h2
    omega

theorem active_iff_le (height : BlockHeight) {i : ℕ} (hi : i < (@upgradesInOrder zfuture).length)
    (h : BranchId.forHeight p height = (@upgradesInOrder zfuture)[i].branchId) {j : ℕ}
    (hj : j < (@upgradesInOrder zfuture).length) :
    isNuActive p (@upgradesInOrder zfuture)[j] height ↔ j ≤ i := by
  rw [hp.active_iff_lt height hj, (hp.forHeight_eq_iff height _).1 h, rank_branchId_getElem]
  omega

theorem sprout_inactive (height : BlockHeight)
    (h : BranchId.forHeight p height = (BranchId.sprout : BranchId zfuture)) :
    ∀ nu ∈ (@upgradesInOrder zfuture), isNuActive p nu height = false := by
  simpa using List.countP_eq_zero.1 ((hp.forHeight_eq_iff height _).1 h)

theorem boundary {i : ℕ} (hi : i < (@upgradesInOrder zfuture).length) {a : BlockHeight}
    (ha : a ∈ activationHeight p (@upgradesInOrder zfuture)[i]) :
    BranchId.forHeight p a = (@upgradesInOrder zfuture)[i].branchId := by
  refine (hp.branch_iff a hi).2 ⟨⟨a, ha, by simp⟩, fun nu hnu => ?_⟩
  obtain ⟨hi1, rfl⟩ := List.getElem?_eq_some_iff.1 hnu
  obtain ⟨b, hb⟩ := hp.activation (List.getElem_mem hi1)
  exact ⟨b, hb, hp.activation_lt (Nat.lt_succ_self i) hi1 ha hb⟩

/-- **An ordered schedule makes `for_height` the intended step function.** -/
theorem forHeightSpec : ForHeightSpec zfuture p where
  sprout_iff := hp.sprout_iff
  branch_iff height _ hi := hp.branch_iff height hi
  branch_iff_greatest height _ hi := hp.branch_iff_greatest height hi
  active_iff_le height _ hi h _ hj := hp.active_iff_le height hi h hj
  sprout_inactive := hp.sprout_inactive
  boundary _ hi _ ha := hp.boundary hi ha
  monotone height height' hle := by
    rw [hp.rank_forHeight, hp.rank_forHeight]
    exact activeCount_mono p hle
  ne_zFuture height h hz := by
    have hk : activeCount zfuture p height ≤ 6 := activeCount_le p height
    rw [(hp.forHeight_eq_iff height _).1 hz, BranchId.rank] at hk
    omega

end ScheduleOrdered

/-! ### The networks of the code -/

theorem scheduleOrdered_mainNetwork (zfuture : Bool) : ScheduleOrdered zfuture mainNetwork := by
  cases zfuture <;> exact ⟨by decide, by decide⟩

theorem scheduleOrdered_testNetwork (zfuture : Bool) : ScheduleOrdered zfuture testNetwork := by
  cases zfuture <;> exact ⟨by decide, by decide⟩

theorem scheduleOrdered_network (zfuture : Bool) (n : Network) : ScheduleOrdered zfuture n := by
  cases zfuture <;> cases n <;> exact ⟨by decide, by decide⟩

/-- **`for_height` is the intended step function on every parameters value of the code.** -/
theorem forHeight_step_function (zfuture : Bool) :
    ForHeightSpec zfuture mainNetwork ∧ ForHeightSpec zfuture testNetwork ∧
      ForHeightSpec zfuture Network.mainNetwork ∧ ForHeightSpec zfuture Network.testNetwork :=
  ⟨(scheduleOrdered_mainNetwork zfuture).forHeightSpec,
    (scheduleOrdered_testNetwork zfuture).forHeightSpec,
    (scheduleOrdered_network zfuture _).forHeightSpec,
    (scheduleOrdered_network zfuture _).forHeightSpec⟩


/-! ### The binary search the specification allows -/

/-- A binary search in `[lo, hi)` for the first index at which `q` fails, for a `q` that holds
on an initial segment. -/
def firstFalse (q : ℕ → Bool) (lo hi : ℕ) : ℕ :=
  if lo < hi then
    if q ((lo + hi) / 2) then firstFalse q ((lo + hi) / 2 + 1) hi else firstFalse q lo ((lo + hi) / 2)
  else lo
termination_by hi - lo
decreasing_by all_goals omega

theorem firstFalse_eq (q : ℕ → Bool) {c lo hi : ℕ}
    (hq : ∀ i, lo ≤ i → i < hi → (q i = true ↔ i < c)) (hlo : lo ≤ c) (hhi : c ≤ hi) :
    firstFalse q lo hi = c := by
  induction lo, hi using firstFalse.induct q with
  | case1 lo hi hlt hmid ih =>
      have hc := (hq _ (by omega) (by omega)).1 hmid
      rw [firstFalse, if_pos hlt, if_pos hmid]
      exact ih (fun i hi₁ hi₂ => hq i (by omega) hi₂) (by omega) hhi
  | case2 lo hi hlt hmid ih =>
      have hc := mt (hq _ (by omega) (by omega)).2 hmid
      rw [firstFalse, if_pos hlt, if_neg hmid]
      exact ih (fun i hi₁ hi₂ => hq i hi₁ (by omega)) hlo (by omega)
  | case3 lo hi hge =>
      rw [firstFalse, if_neg hge]
      omega

/-- `for_height` as the specification's faster alternative: a binary search over the activation
heights, in the order of `UPGRADES_IN_ORDER`, for the number of upgrades activated at or below
the height, and then the branch of the last of them.  It reads `activation_height` only. -/
def BranchId.forHeightSearch (p : P) (height : BlockHeight) : BranchId zfuture :=
  match firstFalse (fun i => ((@upgradesInOrder zfuture)[i]?).any fun nu =>
      (activationHeight p nu).any fun a => decide (a ≤ height)) 0
      (@upgradesInOrder zfuture).length with
  | 0 => .sprout
  | k + 1 => (((@upgradesInOrder zfuture)[k]?).map NetworkUpgrade.branchId).getD .sprout

/-- **When the implementation keeps the provided `is_nu_active` and its schedule is ordered,
the binary search over the activation heights computes `for_height`.** -/
theorem BranchId.forHeightSearch_eq [ProvidedIsNuActive P] {p : P} (hp : ScheduleOrdered zfuture p)
    (height : BlockHeight) :
    (BranchId.forHeightSearch p height : BranchId zfuture) = BranchId.forHeight p height := by
  have hk : firstFalse (fun i => ((@upgradesInOrder zfuture)[i]?).any fun nu =>
      (activationHeight p nu).any fun a => decide (a ≤ height)) 0
      (@upgradesInOrder zfuture).length = activeCount zfuture p height :=
    firstFalse_eq _ (fun i _ hi => by
        rw [List.getElem?_eq_getElem hi, Option.any_some, ← ProvidedIsNuActive.isNuActive_eq,
          hp.active_iff_lt height hi])
      (Nat.zero_le _) (activeCount_le p height)
  refine ((hp.forHeight_eq_iff height _).2 ?_).symm
  unfold forHeightSearch
  rw [hk]
  rcases h : activeCount zfuture p height with _ | k
  · rfl
  · have hk6 : k < (@upgradesInOrder zfuture).length := by
      have h6 : activeCount zfuture p height ≤ 6 := activeCount_le p height
      rw [length_upgradesInOrder]
      omega
    dsimp only
    rw [List.getElem?_eq_getElem hk6, Option.map_some', Option.getD_some, rank_branchId_getElem]

theorem forHeightSearch_eq_mainNetwork :
    (BranchId.forHeightSearch mainNetwork ⟨419200⟩ : BranchId false) =
      BranchId.forHeight mainNetwork ⟨419200⟩ :=
  BranchId.forHeightSearch_eq (scheduleOrdered_mainNetwork false) _

end Consensus
