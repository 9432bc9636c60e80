import Mathlib.Data.List.Sort
import DistributedFramework.Trading.Strategy

/-! The order-rate limit of `RiskManagerActor.checkRisk` over a whole run
(part_007 lines 82-144).

`checkRisk` prunes `orderTimes` to the times after `now - time.Minute` only
when a check gets past the daily-loss test, and appends `now` when it approves.
Along checks at nondecreasing times, `orderTimes` is always the list of approved
times after some cutoff no later than the last check's `now - time.Minute`
(`Window.step`); so a signal is approved only while fewer than
`MaxOrdersPerMin` approvals lie in the minute before it.

Proved here: `approvals_in_window_le`, that for every `RiskConfig` and every
sequence of checks at nondecreasing times, every window `(T - 1 minute, T]`
holds at most `max(MaxOrdersPerMin, 0)` approved signals. -/

namespace Trading
namespace RiskManager

/-- The risk manager handling `RiskCheck` messages one after the other, each
checked at its `time.Now()`: the times of the signals it approves. -/
def approvedTimes (r : RiskManager) : List (Signal × Int) → List Int
  | [] => []
  | (signal, now) :: rest =>
    let (r', approved) := r.checkRisk signal now
    (if approved then [now] else []) ++ r'.approvedTimes rest

/-- What one check can do: reject before pruning, reject after pruning, or
approve after pruning, when fewer than `MaxOrdersPerMin` order times are left. -/
theorem checkRisk_cases (r : RiskManager) (signal : Signal) (now : Int) :
    r.checkRisk signal now = (r, false) ∨ r.checkRisk signal now = (r.cleanOldOrders now, false) ∨
      (((r.cleanOldOrders now).orderTimes.length : Int) < r.config.maxOrdersPerMin ∧
        r.checkRisk signal now =
          ({ r.cleanOldOrders now with orderTimes := (r.cleanOldOrders now).orderTimes ++ [now] },
            true)) := by
  unfold checkRisk; dsimp only
  split_ifs with h₁ h₂
  · exact .inl rfl
  · exact .inr (.inl rfl)
  · exact .inr (.inl rfl)
  · exact .inr (.inl rfl)
  · exact .inr (.inr ⟨Int.not_le.mp h₂, rfl⟩)

theorem checkRisk_config (r : RiskManager) (signal : Signal) (now : Int) :
    (r.checkRisk signal now).1.config = r.config := by
  rcases checkRisk_cases r signal now with h | h | ⟨-, h⟩ <;> rw [h] <;> rfl

/-- At most `max(M, 0)` of the times `ts` lie in any window `(T - 1 minute, T]`. -/
def Bounded (M : Int) (ts : List Int) : Prop :=
  ∀ T, ((ts.filter fun t => T - minute < t ∧ t ≤ T).length : Int) ≤ max M 0

/-- The order times the manager keeps are the approved times after a cutoff no
later than `last - time.Minute`, and no approval is later than `last`. -/
structure Window (approved : List Int) (last : Int) (r : RiskManager) : Prop where
  kept : ∃ c ≤ last - minute, r.orderTimes = approved.filter (c < ·)
  le_last : ∀ t ∈ approved, t ≤ last

theorem minute_pos : 0 < minute := by decide

theorem filter_lt_filter_lt {c c' : Int} (hc : c ≤ c') (ts : List Int) :
    ((ts.filter (c < ·)).filter (c' < ·)) = ts.filter (c' < ·) := by
  rw [List.filter_filter]
  refine List.filter_congr fun t _ => ?_
  by_cases h : c' < t
  · simp [h, show c < t by omega]
  · simp [h]

/-- Pruning at `now`: the kept times are the approved ones after `now - time.Minute`. -/
theorem Window.cleanOldOrders {approved : List Int} {last now : Int} {r : RiskManager}
    (h : Window approved last r) (hle : last ≤ now) :
    (r.cleanOldOrders now).orderTimes = approved.filter (now - minute < ·) := by
  obtain ⟨c, hc, hkept⟩ := h.kept
  rw [show (r.cleanOldOrders now).orderTimes = r.orderTimes.filter (now - minute < ·) from rfl, hkept]
  exact filter_lt_filter_lt (by omega) approved

/-- A signal approved at `now`, when fewer than `M` approvals lie in the minute
before it and none after it, keeps every window within `max(M, 0)`. -/
theorem Bounded.append {M now : Int} {approved : List Int} (hB : Bounded M approved)
    (hle : ∀ t ∈ approved, t ≤ now)
    (hlt : ((approved.filter (now - minute < ·)).length : Int) < M) :
    Bounded M (approved ++ [now]) := by
  intro T
  have hT := hB T
  rw [List.filter_append, List.length_append]
  by_cases hw : T - minute < now ∧ now ≤ T
  · -- the window ends at or after `now`, so it lies within the minute before `now`
    have hsub := (List.monotone_filter_right approved fun t ht => by
        simp only [decide_eq_true_eq] at ht ⊢; have := hle t; omega :
      (approved.filter fun t => T - minute < t ∧ t ≤ T).Sublist
        (approved.filter (now - minute < ·))).length_le
    have hnow : (([now] : List Int).filter fun t => T - minute < t ∧ t ≤ T).length = 1 := by
      simp [hw]
    omega
  · have hnow : (([now] : List Int).filter fun t => T - minute < t ∧ t ≤ T).length = 0 := by
      simp [hw]
    omega

/-- One check at a time no earlier than the last keeps the window invariant,
and keeps every window of approvals within `max(MaxOrdersPerMin, 0)`. -/
theorem Window.step {approved : List Int} {last now : Int} {r : RiskManager}
    (h : Window approved last r) (hB : Bounded r.config.maxOrdersPerMin approved)
    (hle : last ≤ now) (signal : Signal) :
    let approved' := approved ++ if (r.checkRisk signal now).2 then [now] else []
    Window approved' now (r.checkRisk signal now).1 ∧
      Bounded r.config.maxOrdersPerMin approved' := by
  have hnow : ∀ t ∈ approved, t ≤ now := fun t ht => (h.le_last t ht).trans hle
  rcases checkRisk_cases r signal now with hc | hc | ⟨hlt, hc⟩ <;> rw [hc] <;>
    simp only [Bool.false_eq_true, if_false, if_true, List.append_nil]
  · obtain ⟨c, hc, hkept⟩ := h.kept
    exact ⟨⟨⟨c, by omega, hkept⟩, hnow⟩, hB⟩
  · exact ⟨⟨⟨now - minute, le_rfl, h.cleanOldOrders hle⟩, hnow⟩, hB⟩
  · rw [h.cleanOldOrders hle] at hlt ⊢
    refine ⟨⟨⟨now - minute, le_rfl, ?_⟩, ?_⟩, hB.append hnow hlt⟩
    · have hpos : now - minute < now := by have := minute_pos; omega
      simp [List.filter_append, List.filter_cons, hpos]
    · intro t ht
      rcases List.mem_append.mp ht with ht | ht
      · exact hnow t ht
      · exact le_of_eq (List.mem_singleton.mp ht)

/-- Along checks at times no earlier than `last` and nondecreasing, the
approvals, those before included, stay within `max(MaxOrdersPerMin, 0)` per
window. -/
theorem Window.run : ∀ (checks : List (Signal × Int)) {approved : List Int} {last : Int}
    {r : RiskManager}, Window approved last r → Bounded r.config.maxOrdersPerMin approved →
    (checks.map Prod.snd).Sorted (· ≤ ·) → (∀ x ∈ checks, last ≤ x.2) →
    Bounded r.config.maxOrdersPerMin (approved ++ r.approvedTimes checks)
  | [], _, _, _, _, hB, _, _ => by simpa [approvedTimes] using hB
  | (signal, now) :: rest, approved, last, r, h, hB, hs, hl => by
    obtain ⟨h', hB'⟩ := h.step hB (hl _ (List.mem_cons_self _ _)) signal
    have hrest := Window.run rest h' (checkRisk_config r signal now ▸ hB')
      (List.sorted_cons.mp hs).2 fun x hx =>
        (List.sorted_cons.mp hs).1 x.2 (List.mem_map_of_mem Prod.snd hx)
    rw [checkRisk_config] at hrest
    simpa [approvedTimes, List.append_assoc] using hrest

/-- For every `RiskConfig` and every sequence of `RiskCheck` signals that the
manager checks at nondecreasing times, every window `(T - 1 minute, T]` holds
at most `max(MaxOrdersPerMin, 0)` approved signals. -/
theorem approvals_in_window_le (config : RiskConfig) (checks : List (Signal × Int))
    (hs : (checks.map Prod.snd).Sorted (· ≤ ·)) (T : Int) :
    ((((⟨config, 0, []⟩ : RiskManager).approvedTimes checks).filter fun t =>
      T - minute < t ∧ t ≤ T).length : Int) ≤ max config.maxOrdersPerMin 0 := by
  let last := (checks.map Prod.snd).headD 0
  have hl : ∀ x ∈ checks, last ≤ x.2 := by
    intro x hx
    cases checks with
    | nil => cases hx
    | cons y ys =>
      rcases List.mem_cons.mp hx with rfl | hx
      · exact le_rfl
      · exact (List.sorted_cons.mp hs).1 x.2 (List.mem_map_of_mem Prod.snd hx)
  have h₀ : Window [] last ⟨config, 0, []⟩ := ⟨⟨last - minute, le_rfl, rfl⟩, nofun⟩
  have hB₀ : Bounded config.maxOrdersPerMin [] := fun _ => by simp
  have h := Window.run checks h₀ hB₀ hs hl T
  rwa [List.nil_append] at h

/-- Twelve checks one second apart under `DefaultRiskConfig`. -/
def everySecond : List (Signal × Int) :=
  (List.range 12).map fun k => (⟨"BTC", .buy, 100, 1⟩, k * 1000000000)

theorem approvals_in_window_le_every_second :
    (everySecond.map Prod.snd).Sorted (· ≤ ·) ∧
      ((((⟨defaultRiskConfig, 0, []⟩ : RiskManager).approvedTimes everySecond).filter fun t =>
        11000000000 - minute < t ∧ t ≤ 11000000000).length : Int) ≤ max defaultRiskConfig.maxOrdersPerMin 0 :=
  have hs : (everySecond.map Prod.snd).Sorted (· ≤ ·) := by decide
  ⟨hs, approvals_in_window_le defaultRiskConfig everySecond hs 11000000000⟩

end RiskManager
end Trading
