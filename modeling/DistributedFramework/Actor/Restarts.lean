import Mathlib.Algebra.Group.Nat.Basic
import DistributedFramework.Actor.Invariant

/-! The restart counter of a process against `MaxRestarts` (`tryRestart`,
types.go lines 176-209; `WithMaxRestarts`, opts.go lines 77-81). Both are
`int32`: `restarts++` wraps, and `tryRestart` gives up only when the counter
equals `MaxRestarts` exactly.

Proved here:

* `bounded_invariant`: whatever the receivers do, and on every way out, the
  code never takes the counter past `MaxRestarts` read as an unsigned word;
* `restarts_le_of_nonneg`: so for a `MaxRestarts` that is non-negative as an
  `int32`, the counter never exceeds it;
* `restarts_unbounded_of_neg`: for every `n` whose `int32(n)` is negative, a
  receiver that faults on `Initialized` makes `tryRestart` re-enter `Start` `k`
  times, and the counter reach `k`, for every `k < 2^31`. -/

namespace Actor.Process
open Go

section
variable (o : Opts)

/-- The restart counter is at most `MaxRestarts`, both read as unsigned words. -/
def Bounded (p : Process) : Prop := p.restarts ≤ o.maxRestarts

/-- `restarts++` below `MaxRestarts` stays at most `MaxRestarts`: the counter
cannot wrap before it reaches it. -/
theorem succ_le_of_lt {r m : BitVec 32} (hle : r ≤ m) (hne : r ≠ m) : r + 1 ≤ m := by
  bv_omega

/-- Only `tryRestart` writes the counter, and only below `MaxRestarts`. -/
theorem bounded_invariant : Invariant o (Bounded o) where
  frame _ hr h := by rw [Bounded, hr]; exact h
  deliver _ h := h
  restart hne h := succ_le_of_lt h hne

/-- For a `MaxRestarts` that is non-negative as an `int32`, the counter of a
process never exceeds it, whatever its receivers do and however its inbox is
cut into batches. -/
theorem restarts_le_of_nonneg (fuel : Nat) (batches : List (List Envelope))
    (h : 0 ≤ o.maxRestarts.toInt) :
    (finalState (life o fuel batches newProcess)).restarts.toInt ≤ o.maxRestarts.toInt := by
  have hb := (bounded_invariant o).keeps_life fuel batches newProcess (BitVec.le_def.mpr (Nat.zero_le _))
  rw [Bounded, BitVec.le_def] at hb
  rw [BitVec.toInt_eq_toNat_cond] at h ⊢
  rw [BitVec.toInt_eq_toNat_cond]
  split_ifs at h ⊢ <;> omega

end

/-- Receivers that panic on every call, under the default `MaxRestarts`. -/
def faultsAlways : Opts := ⟨defaultMaxRestarts, 0, fun _ _ => some .value⟩

theorem restarts_le_of_nonneg_faultsAlways :
    0 ≤ faultsAlways.maxRestarts.toInt ∧
      (finalState (life faultsAlways 5 [[⟨.user 1, none⟩]] newProcess)).restarts.toInt ≤
        faultsAlways.maxRestarts.toInt :=
  ⟨by decide, restarts_le_of_nonneg faultsAlways 5 _ (by decide)⟩

/-! ## A negative `MaxRestarts` -/

/-- Receivers that fault on `Initialized` and on nothing else. -/
def faultsOnInit : Opts :=
  ⟨defaultMaxRestarts, 0, fun _ d => if d.input = .initialized then some .value else none⟩

/-- A process after one faulting `Start`: the `Initialized` call of a new
receiver panics, the deferred handler hands it `Stopped`, and `tryRestart`
counts the restart. -/
def afterFault (p : Process) : Process :=
  { p with
    restarts := p.restarts + 1
    incarnation := p.incarnation + 1
    log := p.log ++ [⟨p.incarnation + 1, .initialized, .middleware⟩,
      ⟨p.incarnation + 1, .stopped, .receiver⟩]
    events := p.events ++ [.actorRestarted (p.restarts + 1) .value] }

theorem start_faultsOnInit_succ (n : Int) {p : Process} (hne : p.restarts ≠ BitVec.ofInt 32 n)
    (fuel : Nat) :
    start (withMaxRestarts n faultsOnInit) (fuel + 1) p =
      start (withMaxRestarts n faultsOnInit) fuel (afterFault p) := by
  have hbody : startBody (withMaxRestarts n faultsOnInit)
      (tryRestartWith (withMaxRestarts n faultsOnInit) (start (withMaxRestarts n faultsOnInit) fuel))
      { p with incarnation := p.incarnation + 1 } =
      .error (.panic .value) { p with
        incarnation := p.incarnation + 1
        log := p.log ++ [⟨p.incarnation + 1, .initialized, .middleware⟩] } :=
    bind_apply_of_error (deliver_of_some _ (by rfl)) _
  simp only [start, startWith, modify_bind_apply]
  rw [bind_apply_of_ok (recoverPanic_of_panic hbody)]
  simp only
  rw [bind_apply_of_ok (deliver_of_none _ (by rfl))]
  simp [tryRestartWith, withMaxRestarts, hne, afterFault]
  rfl

@[simp] theorem afterFault_iterate_restarts (p : Process) (k : Nat) :
    (afterFault^[k] p).restarts = p.restarts + BitVec.ofNat 32 k := by
  induction k with
  | zero => simp
  | succ k ih =>
    rw [Function.iterate_succ_apply', afterFault, ih, BitVec.add_assoc]
    bv_omega

@[simp] theorem afterFault_iterate_incarnation (p : Process) (k : Nat) :
    (afterFault^[k] p).incarnation = p.incarnation + k := by
  induction k with
  | zero => rfl
  | succ k ih => rw [Function.iterate_succ_apply', afterFault, ih]; rfl

/-- While the counter stays below `2^31`, at or under a `MaxRestarts` that is
negative as an `int32`, every `Start` faults and is restarted. -/
theorem start_faultsOnInit (n : Int) (hn : 2 ^ 31 ≤ (BitVec.ofInt 32 n).toNat) :
    ∀ (fuel : Nat) (p : Process), p.restarts.toNat + fuel ≤ 2 ^ 31 →
      start (withMaxRestarts n faultsOnInit) fuel p = .error .outOfFuel (afterFault^[fuel] p)
  | 0, _, _ => rfl
  | fuel + 1, p, h => by
    have hne : p.restarts ≠ BitVec.ofInt 32 n := fun he => by rw [he] at h; omega
    have hnext : (afterFault p).restarts.toNat = p.restarts.toNat + 1 := by
      simp only [afterFault]; bv_omega
    rw [start_faultsOnInit_succ n hne, start_faultsOnInit n hn fuel _ (by omega)]
    rfl

/-- For every `n` whose `int32(n)` is negative, receivers that fault on
`Initialized` make `tryRestart` re-enter `Start` `k` times, for every `k < 2^31`:
the counter reaches `k`, past `max(int32(n), 0) = 0`, and `Producer` makes a new
receiver each time. -/
theorem restarts_unbounded_of_neg (n : Int) (hn : (BitVec.ofInt 32 n).toInt < 0) (k : Nat)
    (hk : k < 2 ^ 31) :
    ∃ p, start (withMaxRestarts n faultsOnInit) k newProcess = .error .outOfFuel p ∧
      p.restarts.toInt = k ∧ p.incarnation = k := by
  rw [BitVec.toInt_eq_toNat_cond] at hn
  have hn' : 2 ^ 31 ≤ (BitVec.ofInt 32 n).toNat := by split_ifs at hn <;> omega
  refine ⟨_, start_faultsOnInit n hn' k newProcess (by simp [newProcess]; omega), ?_, ?_⟩
  · rw [BitVec.toInt_eq_toNat_cond]
    simp [newProcess, Nat.mod_eq_of_lt (by omega : k < 2 ^ 32)]
    omega
  · simp [newProcess]

theorem restarts_unbounded_at_minus_one :
    (BitVec.ofInt 32 (-1)).toInt < 0 ∧ 2 < 2 ^ 31 ∧
      ∃ p, start (withMaxRestarts (-1) faultsOnInit) 2 newProcess = .error .outOfFuel p ∧
        p.restarts.toInt = 2 ∧ p.incarnation = 2 :=
  ⟨by decide, by decide, restarts_unbounded_of_neg (-1) (by decide) 2 (by decide)⟩

end Actor.Process
