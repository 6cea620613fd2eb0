import Libyec.Verifier
import Mathlib.Algebra.BigOperators.Group.List
import Mathlib.Tactic.Abel
/-
**Runs of the Sapling verification context.**

A transaction's verifier is one context, created by `new`, then fed its Spend and Output
descriptions in any order, and at last asked for `final_check`.  This module makes the calls a
datatype, runs a list of them, and proves the invariant of the accumulator over every run: the
flag stays what `new` was given, and the sum is the signed sum of the value commitments of the
calls that got past the small-order guard — a call that fails its signature or proof check
afterwards still counts.  `final_check` then verifies the binding signature under that sum less
the commitment of the value balance.

Main definitions:

* `Sapling.Call`, `Sapling.Call.exec`, `Sapling.run` — calls, one call, and a run;
* `Sapling.Call.spendCv`, `Sapling.Call.outputCv` — the value commitment a call contributes when
  neither of its points is small-order;
* `Sapling.Call.signedCv` — a call's value commitment with the sign it is summed with.

Main results:

* `Sapling.Call.exec_spec`, `Sapling.run_spec` — one call, and then any run from any context,
  never panic and move the sum by the accepted commitments;
* `Sapling.run_new` — **the accumulator invariant from `new`, and what `final_check` then
  computes**;
* `Sapling.run_perm` — the order of the calls changes neither the context a run ends in nor the
  result of any call;
* `Sapling.run_all_accepted` — **a run whose checks all return `true` has counted every
  commitment**.
-/

set_option autoImplicit false

namespace Sapling

/-- A call on a verification context, with its arguments. -/
inductive Call (Point Scalar Signature Proof VerifyingKey : Type) where
  /-- A call of `check_spend`. -/
  | spend (cv : Point) (anchor : Scalar) (nullifier : Mathlib.Vector UInt8 32)
      (rk : PublicKey Point) (sighashValue : Mathlib.Vector UInt8 32) (spendAuthSig : Signature)
      (zkproof : Proof) (verifyingKey : VerifyingKey)
  /-- A call of `check_output`. -/
  | output (cv : Point) (cmu : Scalar) (epk : Point) (zkproof : Proof)
      (verifyingKey : VerifyingKey)

section Run

variable {Point Scalar Signature Proof VerifyingKey Amount : Type} [AddCommGroup Point]
  [Zero Scalar] [One Scalar] [Add Scalar]
  (c : Primitives Point Scalar Signature Proof VerifyingKey Amount)

/-- Making one call on a context: its result and the context after it, or a panic. -/
def Call.exec (self : SaplingVerificationContext Point) :
    Call Point Scalar Signature Proof VerifyingKey →
      Except String (Bool × SaplingVerificationContext Point)
  | .spend cv anchor nullifier rk sighashValue spendAuthSig zkproof verifyingKey =>
      checkSpend c self cv anchor nullifier rk sighashValue spendAuthSig zkproof
        verifyingKey
  | .output cv cmu epk zkproof verifyingKey =>
      .ok (checkOutput c self cv cmu epk zkproof verifyingKey)

/-- Making the calls one after another on one context: their results, and the context they
leave. -/
def run (self : SaplingVerificationContext Point) :
    List (Call Point Scalar Signature Proof VerifyingKey) →
      Except String (List Bool × SaplingVerificationContext Point)
  | [] => .ok ([], self)
  | call :: calls => do
      let (b, self) ← Call.exec c self call
      let (bs, self) ← run self calls
      pure (b :: bs, self)

/-- The value commitment of a spend in which neither `cv` nor `rk` is small-order. -/
def Call.spendCv : Call Point Scalar Signature Proof VerifyingKey → Option Point
  | .spend cv _ _ rk _ _ _ _ =>
      if c.isSmallOrder cv = false ∧ c.isSmallOrder rk.point = false then some cv else none
  | .output .. => none

/-- The value commitment of an output in which neither `cv` nor `epk` is small-order. -/
def Call.outputCv : Call Point Scalar Signature Proof VerifyingKey → Option Point
  | .spend .. => none
  | .output cv _ epk _ _ =>
      if c.isSmallOrder cv = false ∧ c.isSmallOrder epk = false then some cv else none

theorem sum_filterMap_cons {α : Type} (f : α → Option Point) (a : α) (l : List α) :
    ((a :: l).filterMap f).sum = (f a).getD 0 + (l.filterMap f).sum := by
  cases h : f a <;> simp [List.filterMap_cons, h]

/-- **One call never panics; it keeps the flag and moves the sum by its accepted commitment.** -/
theorem Call.exec_spec (self : SaplingVerificationContext Point)
    (call : Call Point Scalar Signature Proof VerifyingKey) :
    ∃ b ctx, Call.exec c self call = .ok (b, ctx) ∧ ctx.zip216Enabled = self.zip216Enabled ∧
      ctx.cvSum = self.cvSum + (call.spendCv c).getD 0 - (call.outputCv c).getD 0 := by
  cases call with
  | spend cv anchor nullifier rk sighashValue spendAuthSig zkproof verifyingKey =>
      obtain ⟨b, hb⟩ := checkSpend_spec self cv anchor nullifier rk sighashValue
        spendAuthSig zkproof verifyingKey
      refine ⟨b, _, hb, ?_, ?_⟩ <;>
        cases h₁ : c.isSmallOrder cv <;> cases h₂ : c.isSmallOrder rk.point <;>
        simp [Call.spendCv, Call.outputCv, h₁, h₂]
  | output cv cmu epk zkproof verifyingKey =>
      refine ⟨(checkOutput c self cv cmu epk zkproof verifyingKey).1,
        (checkOutput c self cv cmu epk zkproof verifyingKey).2, rfl, ?_, ?_⟩ <;>
        rw [checkOutput_spec] <;>
        cases h₁ : c.isSmallOrder cv <;> cases h₂ : c.isSmallOrder epk <;>
        simp [Call.spendCv, Call.outputCv, h₁, h₂, sub_eq_add_neg]

/-- **A run from any context never panics, returns one result per call, keeps the flag, and
adds to the sum the accepted spend commitments less the accepted output ones.** -/
theorem run_spec (self : SaplingVerificationContext Point)
    (calls : List (Call Point Scalar Signature Proof VerifyingKey)) :
    ∃ bs ctx, run c self calls = .ok (bs, ctx) ∧ bs.length = calls.length ∧
      ctx.zip216Enabled = self.zip216Enabled ∧
      ctx.cvSum = self.cvSum + (calls.filterMap (Call.spendCv c)).sum -
        (calls.filterMap (Call.outputCv c)).sum := by
  induction calls generalizing self with
  | nil => exact ⟨[], self, rfl, rfl, rfl, by simp⟩
  | cons call calls ih =>
      obtain ⟨b, ctx₁, h₁, hz₁, hs₁⟩ := Call.exec_spec c self call
      obtain ⟨bs, ctx, h, hlen, hz, hs⟩ := ih ctx₁
      refine ⟨b :: bs, ctx, ?_, by simp [hlen], hz.trans hz₁, ?_⟩
      · simp only [run, h₁, h, bind, Except.bind, pure, Except.pure]
      · rw [hs, hs₁, sum_filterMap_cons, sum_filterMap_cons]
        abel

omit [Zero Scalar] [One Scalar] [Add Scalar] in
theorem finalCheck_eq (self : SaplingVerificationContext Point) (valueBalance : Amount)
    (sighashValue : Mathlib.Vector UInt8 32) (bindingSig : Signature) :
    finalCheck c self valueBalance sighashValue bindingSig =
      match c.computeValueBalance valueBalance with
      | none => false
      | some v => c.verifyWithZip216 ⟨self.cvSum - v⟩ ((c.toBytes (self.cvSum - v)).append sighashValue)
          bindingSig c.valueCommitmentRandomnessGenerator self.zip216Enabled := by
  unfold finalCheck
  cases c.computeValueBalance valueBalance <;> rfl

/-- **The accumulator from `new`.**  After any calls in any order the flag is the one given to
`new`, the sum is the accepted spend commitments less the accepted output ones, and
`final_check` fails on a value balance with no commitment and otherwise verifies the binding
signature under the sum less that commitment. -/
theorem run_new (f : Bool) (calls : List (Call Point Scalar Signature Proof VerifyingKey)) :
    ∃ bs ctx, run c (SaplingVerificationContext.new f) calls = .ok (bs, ctx) ∧
      ctx.zip216Enabled = f ∧
      ctx.cvSum = (calls.filterMap (Call.spendCv c)).sum - (calls.filterMap (Call.outputCv c)).sum ∧
      ∀ (valueBalance : Amount) (sighashValue : Mathlib.Vector UInt8 32) (bindingSig : Signature),
        finalCheck c ctx valueBalance sighashValue bindingSig =
          match c.computeValueBalance valueBalance with
          | none => false
          | some v => c.verifyWithZip216 ⟨ctx.cvSum - v⟩
              ((c.toBytes (ctx.cvSum - v)).append sighashValue) bindingSig
              c.valueCommitmentRandomnessGenerator f := by
  obtain ⟨bs, ctx, h, -, hz, hs⟩ := run_spec c (SaplingVerificationContext.new f) calls
  refine ⟨bs, ctx, h, hz, by rw [hs, SaplingVerificationContext.new, zero_add], fun _ _ _ => ?_⟩
  rw [finalCheck_eq, hz]
  rfl

/-! ### The order of the calls -/

/-- A frame lemma: starting from a sum moved by `d` moves the sum after the call by `d`, and
leaves the result alone. -/
theorem Call.exec_shift (self : SaplingVerificationContext Point) (d : Point)
    (call : Call Point Scalar Signature Proof VerifyingKey) :
    Call.exec c { self with cvSum := self.cvSum + d } call =
      (Call.exec c self call).map fun r => (r.1, { r.2 with cvSum := r.2.cvSum + d }) := by
  cases call with
  | spend cv anchor nullifier rk sighashValue spendAuthSig zkproof verifyingKey =>
      obtain ⟨n, hn⟩ : ∃ n : Scalar × Scalar, nullifierInputs nullifier = .ok n :=
        nullifierInputs_ok nullifier
      simp only [Call.exec, checkSpend, hn]
      by_cases hg : (c.isSmallOrder cv || c.isSmallOrder rk.point) = true <;>
        by_cases hv : c.verifyWithZip216 rk ((c.toBytes rk.point).append sighashValue)
          spendAuthSig c.spendingKeyGenerator self.zip216Enabled = true <;>
        simp [hg, hv, Except.map, add_right_comm]
  | output cv cmu epk zkproof verifyingKey =>
      by_cases hg : (c.isSmallOrder cv || c.isSmallOrder epk) = true <;>
        simp [Call.exec, checkOutput, hg, Except.map, sub_add_eq_add_sub]

/-- The result of a call on a context with flag `f`: it is the same on every such context. -/
def Call.verdict (f : Bool) (call : Call Point Scalar Signature Proof VerifyingKey) : Bool :=
  match Call.exec c (SaplingVerificationContext.new f) call with
  | .ok r => r.1
  | .error _ => false

theorem Call.exec_verdict (self : SaplingVerificationContext Point)
    (call : Call Point Scalar Signature Proof VerifyingKey) :
    ∃ ctx, Call.exec c self call = .ok (call.verdict c self.zip216Enabled, ctx) := by
  let base : SaplingVerificationContext Point := .new self.zip216Enabled
  obtain ⟨b, ctx, h, -⟩ := Call.exec_spec c base call
  have hshift := Call.exec_shift c base self.cvSum call
  have hself : { base with cvSum := base.cvSum + self.cvSum } = self := by
    simp [base, SaplingVerificationContext.new]
  rw [hself, h] at hshift
  exact ⟨_, by rw [hshift, Call.verdict]; simp only [base] at h; rw [h]; rfl⟩

/-- The results of a run are the verdicts of its calls under the context's flag. -/
theorem run_results {self : SaplingVerificationContext Point}
    {calls : List (Call Point Scalar Signature Proof VerifyingKey)} {bs : List Bool}
    {ctx : SaplingVerificationContext Point} (h : run c self calls = .ok (bs, ctx)) :
    bs = calls.map (Call.verdict c self.zip216Enabled) := by
  induction calls generalizing self bs ctx with
  | nil => simp only [run, Except.ok.injEq, Prod.mk.injEq] at h; simp [h.1]
  | cons call calls ih =>
      obtain ⟨ctx₁, h₁⟩ := Call.exec_verdict c self call
      obtain ⟨_, _, h₁', hz₁, -⟩ := Call.exec_spec c self call
      rw [h₁, Except.ok.injEq, Prod.mk.injEq] at h₁'
      obtain ⟨-, rfl⟩ := h₁'
      obtain ⟨bs', ctx', hr, -⟩ := run_spec c ctx₁ calls
      simp only [run, h₁, hr, bind, Except.bind, pure, Except.pure, Except.ok.injEq,
        Prod.mk.injEq] at h
      rw [← h.1, List.map_cons, ih hr, hz₁]

/-- **The order of the calls changes neither the context a run leaves nor the result of any
call**: in either order each call returns its verdict under the context's flag. -/
theorem run_perm (self : SaplingVerificationContext Point)
    {calls calls' : List (Call Point Scalar Signature Proof VerifyingKey)}
    (hperm : calls.Perm calls') :
    ∃ ctx, run c self calls = .ok (calls.map (Call.verdict c self.zip216Enabled), ctx) ∧
      run c self calls' = .ok (calls'.map (Call.verdict c self.zip216Enabled), ctx) := by
  obtain ⟨bs, ctx, h, -, hz, hs⟩ := run_spec c self calls
  obtain ⟨bs', ctx', h', -, hz', hs'⟩ := run_spec c self calls'
  have hctx : ctx' = ctx := by
    cases ctx
    cases ctx'
    rw [(hperm.filterMap _).sum_eq, (hperm.filterMap _).sum_eq] at hs
    simp_all
  exact ⟨ctx, run_results c h ▸ h, hctx ▸ run_results c h' ▸ h'⟩

end Run

/-- Primitives over the integers that accept every signature and proof and take only zero for
small-order: enough to run the context on concrete calls. -/
def integerPrimitives : Primitives ℤ ℤ Unit Unit Unit Unit where
  isSmallOrder p := p == 0
  toBytes _ := Mathlib.Vector.replicate 32 0
  toAffine p := (p, p)
  verifyWithZip216 _ _ _ _ _ := true
  verifyProof _ _ _ := true
  computeValueBalance _ := some 0
  spendingKeyGenerator := 1
  valueCommitmentRandomnessGenerator := 1

theorem run_perm_spend_output :
    ∃ ctx,
      run integerPrimitives (.new true)
        [.spend 3 0 (.replicate 32 0) ⟨5⟩ (.replicate 32 0) () () (), .output 2 0 7 () ()] =
        .ok ([.spend 3 0 (.replicate 32 0) ⟨5⟩ (.replicate 32 0) () () (),
          .output 2 0 7 () ()].map (Call.verdict integerPrimitives true), ctx) ∧
      run integerPrimitives (.new true)
        [.output 2 0 7 () (), .spend 3 0 (.replicate 32 0) ⟨5⟩ (.replicate 32 0) () () ()] =
        .ok ([.output 2 0 7 () (),
          .spend 3 0 (.replicate 32 0) ⟨5⟩ (.replicate 32 0) () () ()].map
          (Call.verdict integerPrimitives true), ctx) :=
  run_perm integerPrimitives _ (List.Perm.swap _ _ _)

section Accepted

variable {Point Scalar Signature Proof VerifyingKey Amount : Type} [AddCommGroup Point]
  [Zero Scalar] [One Scalar] [Add Scalar]
  (c : Primitives Point Scalar Signature Proof VerifyingKey Amount)

/-! ### Accepted calls -/

/-- The value commitment a call adds to the sum when it is counted: a spend's `cv`, and the
negation of an output's. -/
def Call.signedCv : Call Point Scalar Signature Proof VerifyingKey → Point
  | .spend cv .. => cv
  | .output cv .. => -cv

/-- A call that returns `true` got past the small-order guard, so its commitment is in the sum. -/
theorem Call.exec_true {self ctx : SaplingVerificationContext Point}
    {call : Call Point Scalar Signature Proof VerifyingKey}
    (h : Call.exec c self call = .ok (true, ctx)) : ctx.cvSum = self.cvSum + call.signedCv := by
  cases call with
  | spend cv anchor nullifier rk sighashValue spendAuthSig zkproof verifyingKey =>
      obtain ⟨n, hn⟩ : ∃ n : Scalar × Scalar, nullifierInputs nullifier = .ok n :=
        nullifierInputs_ok nullifier
      simp only [Call.exec, checkSpend, hn] at h
      by_cases hg : (c.isSmallOrder cv || c.isSmallOrder rk.point) = true <;>
        by_cases hv : c.verifyWithZip216 rk ((c.toBytes rk.point).append sighashValue)
          spendAuthSig c.spendingKeyGenerator self.zip216Enabled = true <;>
        simp [hg, hv, Except.map] at h
      rw [← h.2, Call.signedCv]
  | output cv cmu epk zkproof verifyingKey =>
      by_cases hg : (c.isSmallOrder cv || c.isSmallOrder epk) = true <;>
        simp [Call.exec, checkOutput, hg] at h
      rw [← h.2, Call.signedCv, sub_eq_add_neg]

/-- **A run in which every check returns `true` has skipped no commitment**: the sum has moved
by the value commitments of all the spends less those of all the outputs, which is what the
binding signature is then checked against. -/
theorem run_all_accepted {self ctx : SaplingVerificationContext Point}
    {calls : List (Call Point Scalar Signature Proof VerifyingKey)} {bs : List Bool}
    (h : run c self calls = .ok (bs, ctx)) (hall : ∀ b ∈ bs, b = true) :
    ctx.cvSum = self.cvSum + (calls.map Call.signedCv).sum := by
  induction calls generalizing self bs with
  | nil =>
      simp only [run, Except.ok.injEq, Prod.mk.injEq] at h
      simp [← h.2]
  | cons call calls ih =>
      obtain ⟨b, ctx₁, h₁, -⟩ := Call.exec_spec c self call
      obtain ⟨bs', ctx', hr, -⟩ := run_spec c ctx₁ calls
      simp only [run, h₁, hr, bind, Except.bind, pure, Except.pure, Except.ok.injEq,
        Prod.mk.injEq] at h
      obtain ⟨rfl, rfl⟩ := h
      rw [ih hr fun b' hb' => hall b' (List.mem_cons_of_mem _ hb'),
        Call.exec_true c (hall b (List.mem_cons_self _ _) ▸ h₁), List.map_cons, List.sum_cons,
        add_assoc]

end Accepted

theorem run_all_accepted_spend_output :
    run integerPrimitives (.new true)
        [.spend 3 0 (.replicate 32 0) ⟨5⟩ (.replicate 32 0) () () (), .output 2 0 7 () ()] =
        .ok ([true, true], ⟨1, true⟩) ∧
      (1 : ℤ) = (SaplingVerificationContext.new true).cvSum +
        (([.spend 3 0 (.replicate 32 0) ⟨5⟩ (.replicate 32 0) () () (), .output 2 0 7 () ()] :
          List (Call ℤ ℤ Unit Unit Unit)).map Call.signedCv).sum := by
  obtain ⟨n, hn⟩ : ∃ n : ℤ × ℤ, nullifierInputs (.replicate 32 0) = .ok n :=
    nullifierInputs_ok _
  have h : run integerPrimitives (.new true)
      [.spend 3 0 (.replicate 32 0) ⟨5⟩ (.replicate 32 0) () () (), .output 2 0 7 () ()] =
      .ok ([true, true], ⟨1, true⟩) := by
    simp only [run, Call.exec, checkSpend, hn]
    simp [checkOutput, integerPrimitives, SaplingVerificationContext.new, Except.map, bind,
      Except.bind, pure, Except.pure]
  exact ⟨h, run_all_accepted integerPrimitives h (by simp)⟩

end Sapling
