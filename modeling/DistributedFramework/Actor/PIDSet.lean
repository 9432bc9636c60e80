import Mathlib.Data.Finset.Card
import Mathlib.Data.List.Nodup
import DistributedFramework.Go
import DistributedFramework.Go.Map
import DistributedFramework.Actor.Engine

/-! `PIDSet` (part_002): a slice of PIDs and a map from each PID's key, its
address and ID, to its position in the slice. `Remove` moves the last PID into
the removed one's slot.

A nil `lookup` reads as an empty map, and `Add` and `Remove` make it one with
`ensureInit` before they write, so `lookup` is a map here from the start.

Proved here:

* `Valid`: `lookup` maps a key to `i` exactly when `pids[i]` has that key; then
  no two PIDs share a key (`Valid.nodup`);
* `newPIDSet_refines`: for every `NewPIDSet` and every sequence of `Add`,
  `Remove`, `Contains`, `Len` and `Clear`, no call panics, the set stays
  `Valid`, and every call answers as the same call on the finite set of keys
  added and not since removed. -/

namespace Actor

/-- `pidKey`. -/
structure PidKey where
  address : String
  id : String
  deriving DecidableEq, Repr

/-- `PIDSet`. -/
structure PIDSet where
  pids : List PID
  lookup : Go.Map PidKey Nat

namespace PIDSet
open Go

/-- `key(pid)`. -/
def key (pid : PID) : PidKey := ⟨pid.address, pid.id⟩

/-- `indexOf(v)`: the position `lookup` holds for `v`'s key, or `-1`. -/
def indexOf (p : PIDSet) (v : PID) : Int :=
  match p.lookup.get? (key v) with
  | some idx => idx
  | none => -1

/-- `Contains(v)`. -/
def contains (p : PIDSet) (v : PID) : Bool := (p.lookup.get? (key v)).isSome

/-- `Add(v)`. -/
def add (p : PIDSet) (v : PID) : PIDSet :=
  if p.contains v then p
  else
    let pids := p.pids ++ [v]
    ⟨pids, p.lookup.insert (key v) (pids.length - 1)⟩

/-- `Remove(v)`: the entry of `v`'s key goes, the last PID moves into its slot
and the slice loses its last cell. The reads and writes of the slice and the
reslicing panic outside its bounds. -/
def remove (p : PIDSet) (v : PID) : Except GoPanic (PIDSet × Bool) := do
  let i := p.indexOf v
  if i = -1 then return (p, false)
  let lookup := p.lookup.erase (key v)
  let last : Int := p.pids.length - 1
  let (pids, lookup) ←
    if i < last then do
      let lastPID ← indexInt p.pids last
      let pids ← store p.pids i.toNat lastPID
      pure (pids, lookup.insert (key lastPID) i.toNat)
    else pure (p.pids, lookup)
  if last < 0 then throw .indexOutOfRange
  pure (⟨pids.take last.toNat, lookup⟩, true)

/-- `Len()`. -/
def len (p : PIDSet) : Nat := p.pids.length

/-- `Clear()`: `pids[:0]` and a new map. -/
def clear (p : PIDSet) : PIDSet := ⟨p.pids.take 0, Map.empty⟩

/-- `NewPIDSet(pids...)`: each PID added to the zero `PIDSet`. -/
def newPIDSet (pids : List PID) : PIDSet := pids.foldl add ⟨[], Map.empty⟩

/-- A call on a `PIDSet`. -/
inductive Op where
  | add (v : PID)
  | remove (v : PID)
  | contains (v : PID)
  | len
  | clear

/-- What a call returns. -/
inductive Reply where
  | none
  | bool (b : Bool)
  | nat (n : Nat)
  deriving DecidableEq, Repr

def apply (p : PIDSet) : Op → Except GoPanic (PIDSet × Reply)
  | .add v => pure (p.add v, .none)
  | .remove v => do
    let (p, removed) ← p.remove v
    pure (p, .bool removed)
  | .contains v => pure (p, .bool (p.contains v))
  | .len => pure (p, .nat p.len)
  | .clear => pure (p.clear, .none)

def run (p : PIDSet) : List Op → Except GoPanic (PIDSet × List Reply)
  | [] => pure (p, [])
  | op :: ops => do
    let (p, r) ← p.apply op
    let (p, rs) ← p.run ops
    pure (p, r :: rs)

/-- What a `PIDSet` stands for: the finite set of keys added and not since
removed, with `Contains` as membership and `Len` as its size. -/
def KeySet.apply (s : Finset PidKey) : Op → Finset PidKey × Reply
  | .add v => (insert (key v) s, .none)
  | .remove v => (s.erase (key v), .bool (decide (key v ∈ s)))
  | .contains v => (s, .bool (decide (key v ∈ s)))
  | .len => (s, .nat s.card)
  | .clear => (∅, .none)

def KeySet.run (s : Finset PidKey) : List Op → Finset PidKey × List Reply
  | [] => (s, [])
  | op :: ops =>
    let (s, r) := KeySet.apply s op
    let (s, rs) := KeySet.run s ops
    (s, r :: rs)

/-! ## The representation invariant -/

/-- The keys of the PIDs, in slice order. -/
def keys (p : PIDSet) : List PidKey := p.pids.map key

@[simp] theorem length_keys (p : PIDSet) : p.keys.length = p.pids.length := List.length_map _ _

/-- `lookup` maps a key to `i` exactly when `pids[i]` has that key. -/
def Valid (p : PIDSet) : Prop := ∀ k i, p.lookup.get? k = some i ↔ p.keys[i]? = some k

section
variable {p : PIDSet} (hv : p.Valid)
include hv

/-- One key sits at one position. -/
theorem Valid.index_unique {k : PidKey} {i j : Nat} (hi : p.keys[i]? = some k)
    (hj : p.keys[j]? = some k) : i = j :=
  Option.some.inj (((hv k i).mpr hi).symm.trans ((hv k j).mpr hj))

theorem Valid.nodup : p.keys.Nodup :=
  List.nodup_iff_getElem?_ne_getElem?.mpr fun i j hij hj he => by
    have hk := List.getElem?_eq_getElem hj
    exact absurd (hv.index_unique (he.trans hk) hk) (Nat.ne_of_lt hij)

theorem Valid.mem_iff (k : PidKey) : k ∈ p.keys ↔ (p.lookup.get? k).isSome := by
  rw [List.mem_iff_getElem?, Option.isSome_iff_exists]
  exact exists_congr fun i => (hv k i).symm

theorem Valid.contains (v : PID) : p.contains v = decide (key v ∈ p.keys) := by
  rw [PIDSet.contains, Bool.eq_iff_iff, decide_eq_true_iff, hv.mem_iff]

theorem Valid.len : p.len = p.keys.toFinset.card := by
  rw [List.toFinset_card_of_nodup hv.nodup, keys, List.length_map, PIDSet.len]

end

/-! ## Each call keeps it -/

private theorem getElem?_concat_eq_some {l : List PidKey} {a b : PidKey} {i : Nat} :
    (l ++ [a])[i]? = some b ↔ l[i]? = some b ∨ (i = l.length ∧ a = b) := by
  rcases Nat.lt_or_ge i l.length with h | h
  · rw [List.getElem?_append_left h]
    simp only [show i ≠ l.length by omega, false_and, or_false]
  · rw [List.getElem?_append_right h, List.getElem?_eq_none_iff.mpr h]
    rcases Nat.eq_or_lt_of_le h with rfl | h'
    · simp
    · rw [List.getElem?_eq_none_iff.mpr (by simp; omega)]
      simp only [reduceCtorEq, false_or, false_iff, not_and]
      omega

theorem valid_add {p : PIDSet} (hv : p.Valid) (v : PID) :
    (p.add v).Valid ∧ (p.add v).keys.toFinset = insert (key v) p.keys.toFinset := by
  unfold add
  split_ifs with hc
  · refine ⟨hv, (Finset.insert_eq_of_mem ?_).symm⟩
    rwa [List.mem_toFinset, hv.mem_iff]
  · have hnone : p.lookup.get? (key v) = none := by simpa [PIDSet.contains] using hc
    have hkeys : (⟨p.pids ++ [v], p.lookup.insert (key v) ((p.pids ++ [v]).length - 1)⟩ : PIDSet).keys =
        p.keys ++ [key v] := List.map_append _ _ _
    refine ⟨fun k i => ?_, by rw [hkeys]; simp [Finset.insert_eq, Finset.union_comm]⟩
    rw [hkeys, getElem?_concat_eq_some, Map.get?_insert]
    simp only [List.length_append, List.length_singleton, Nat.add_sub_cancel]
    by_cases hk : k = key v
    · subst hk
      have hnot : p.keys[i]? ≠ some (key v) := fun h => by rw [(hv _ i).mpr h] at hnone; cases hnone
      simp only [if_true, Option.some.injEq, hnot, false_or, and_true, length_keys]
      exact eq_comm
    · simp only [hk, if_false, hv k i, Ne.symm hk, and_false, or_false]

private theorem getElem?_take_set_eq_some {l : List PidKey} {m i j : Nat} {a b : PidKey} :
    ((l.set i a).take m)[j]? = some b ↔
      j < m ∧ (i = j ∧ i < l.length ∧ a = b ∨ i ≠ j ∧ l[j]? = some b) := by
  rw [List.getElem?_take, List.getElem?_set]
  split_ifs <;> simp_all

private theorem getElem?_take_eq_some {l : List PidKey} {m j : Nat} {b : PidKey} :
    (l.take m)[j]? = some b ↔ j < m ∧ l[j]? = some b := by
  rw [List.getElem?_take]
  split_ifs <;> simp_all

section
variable {p : PIDSet} (hv : p.Valid)
include hv

/-- The swap branch of `Remove`: the key `k` sits at `i`, before the last
slot, whose PID `x` moves into slot `i`. -/
theorem Valid.swapLast {k : PidKey} {i : Nat} {x : PID} (hk : p.keys[i]? = some k)
    (hi : i + 1 < p.pids.length) (hx : p.pids[p.pids.length - 1]? = some x) :
    (⟨(p.pids.set i x).take (p.pids.length - 1),
      (p.lookup.erase k).insert (key x) i⟩ : PIDSet).Valid := by
  have hl : p.keys[p.pids.length - 1]? = some (key x) := by simp [keys, hx]
  intro k' j
  rw [show (⟨(p.pids.set i x).take (p.pids.length - 1), (p.lookup.erase k).insert (key x) i⟩ :
      PIDSet).keys = (p.keys.set i (key x)).take (p.pids.length - 1) by simp [keys],
    getElem?_take_set_eq_some, Map.get?_insert, Map.get?_erase]
  by_cases h₁ : k' = key x
  · subst h₁
    simp only [if_true, Option.some.injEq]
    constructor
    · rintro rfl; exact ⟨by omega, .inl ⟨rfl, by rw [length_keys]; omega, trivial⟩⟩
    · rintro ⟨hj, ⟨rfl, -⟩ | ⟨-, hj'⟩⟩
      · rfl
      · exact absurd (hv.index_unique hj' hl) (by omega)
  · by_cases h₂ : k' = k
    · subst h₂
      simp only [h₁, if_false, if_true, reduceCtorEq, false_iff]
      rintro ⟨-, ⟨-, -, he⟩ | ⟨hne, hj'⟩⟩
      · exact h₁ he.symm
      · exact hne (hv.index_unique hk hj')
    · simp only [h₁, h₂, if_false, hv k' j]
      constructor
      · intro hj'
        have hjn : j < p.pids.length := p.length_keys ▸ (List.getElem?_eq_some_iff.mp hj').1
        have hjl : j ≠ p.pids.length - 1 := by rintro rfl; rw [hl] at hj'; exact h₁ (Option.some.inj hj').symm
        exact ⟨by omega, .inr ⟨fun he => h₂ (by subst he; exact Option.some.inj (hj'.symm.trans hk)), hj'⟩⟩
      · rintro ⟨-, ⟨rfl, -, he⟩ | ⟨-, hj'⟩⟩
        · exact absurd he.symm h₁
        · exact hj'

/-- The other branch of `Remove`: the key `k` sits in the last slot. -/
theorem Valid.dropLast {k : PidKey} (hk : p.keys[p.pids.length - 1]? = some k) :
    (⟨p.pids.take (p.pids.length - 1), p.lookup.erase k⟩ : PIDSet).Valid := by
  intro k' j
  rw [show (⟨p.pids.take (p.pids.length - 1), p.lookup.erase k⟩ : PIDSet).keys =
      p.keys.take (p.pids.length - 1) by simp [keys], getElem?_take_eq_some, Map.get?_erase]
  by_cases h : k' = k
  · subst h
    simp only [if_true, reduceCtorEq, false_iff, not_and]
    exact fun hj hj' => absurd (hv.index_unique hj' hk) (by omega)
  · simp only [h, if_false, hv k' j]
    constructor
    · intro hj'
      have hjn : j < p.pids.length := p.length_keys ▸ (List.getElem?_eq_some_iff.mp hj').1
      have hjl : j ≠ p.pids.length - 1 := by rintro rfl; rw [hk] at hj'; exact h (Option.some.inj hj').symm
      exact ⟨by omega, hj'⟩
    · exact And.right

end

/-- `Remove(v)` on a valid set never panics: it answers whether `v`'s key was
in the set, keeps the set valid and takes the key out. -/
theorem valid_remove {p : PIDSet} (hv : p.Valid) (v : PID) :
    ∃ p', p.remove v = .ok (p', decide (key v ∈ p.keys)) ∧ p'.Valid ∧
      p'.keys.toFinset = p.keys.toFinset.erase (key v) := by
  cases hi : p.lookup.get? (key v) with
  | none =>
    have hmem : key v ∉ p.keys := by rw [hv.mem_iff, hi]; simp
    refine ⟨p, ?_, hv, (Finset.erase_eq_of_not_mem (by rwa [List.mem_toFinset])).symm⟩
    simp only [remove, indexOf, hi, Int.reduceNeg, ↓reduceIte, hmem, decide_False]; rfl
  | some i =>
    have hk := (hv _ i).mp hi
    have hmem : key v ∈ p.keys := (hv.mem_iff _).mpr (by simp [hi])
    have hin : i < p.pids.length := p.length_keys ▸ (List.getElem?_eq_some_iff.mp hk).1
    have hlast : ¬ ((p.pids.length : Int) - 1 < 0) := by omega
    rcases Nat.lt_or_ge (i + 1) p.pids.length with hlt | hge
    · obtain ⟨x, hx⟩ : ∃ x, p.pids[p.pids.length - 1]? = some x :=
        ⟨_, List.getElem?_eq_getElem (by omega)⟩
      have hl : p.keys[p.pids.length - 1]? = some (key x) := by simp [keys, hx]
      have hxv : key x ≠ key v := fun h => by have := hv.index_unique hk (h ▸ hl); omega
      have hv' := hv.swapLast hk hlt hx
      refine ⟨_, ?_, hv', ?_⟩
      · have hi' : (i : Int) < p.pids.length - 1 := by omega
        simp only [remove, indexOf, hi, Int.reduceNeg, reduceCtorEq, ↓reduceIte, hi', indexInt, hlast,
          index, Int.pred_toNat, Int.toNat_ofNat, hx, hin, store_of_lt, bind_pure_comp, map_pure, hmem,
          decide_True]
        rfl
      · ext k'
        rw [List.mem_toFinset, hv'.mem_iff, Finset.mem_erase, List.mem_toFinset, hv.mem_iff,
          Map.get?_insert, Map.get?_erase]
        split_ifs with h₁ h₂
        · subst h₁; simp [hxv, (hv _ _).mpr hl]
        · simp [h₂]
        · simp [h₂]
    · obtain rfl : i = p.pids.length - 1 := by omega
      have hv' := hv.dropLast hk
      refine ⟨_, ?_, hv', ?_⟩
      · have hi' : ¬ ((p.pids.length - 1 : Nat) : Int) < p.pids.length - 1 := by omega
        simp only [remove, indexOf, hi, Int.reduceNeg, reduceCtorEq, ↓reduceIte, hi', hlast,
          Int.pred_toNat, Int.toNat_ofNat, bind_pure_comp, map_pure, hmem, decide_True]
        rfl
      · ext k'
        rw [List.mem_toFinset, hv'.mem_iff, Finset.mem_erase, List.mem_toFinset, hv.mem_iff,
          Map.get?_erase]
        split_ifs with h <;> simp [h]

theorem valid_clear (p : PIDSet) : p.clear.Valid ∧ p.clear.keys.toFinset = ∅ := by
  refine ⟨fun k i => ?_, rfl⟩
  simp [clear, keys]

/-! ## Refinement of the key set -/

/-- A valid `PIDSet` standing for the key set `s`. -/
structure Abstracts (p : PIDSet) (s : Finset PidKey) : Prop where
  valid : p.Valid
  keys_eq : p.keys.toFinset = s

/-- One call on a `PIDSet` that stands for `s` does not panic, answers as the
call on `s`, and leaves a set standing for the new `s`. -/
theorem Abstracts.apply {p : PIDSet} {s : Finset PidKey} (h : Abstracts p s) (op : Op) :
    ∃ p', p.apply op = .ok (p', (KeySet.apply s op).2) ∧ Abstracts p' (KeySet.apply s op).1 := by
  obtain ⟨hv, rfl⟩ := h
  cases op with
  | add v => exact ⟨_, rfl, (valid_add hv v).1, (valid_add hv v).2⟩
  | remove v =>
    obtain ⟨p', hr, hv', hk⟩ := valid_remove hv v
    exact ⟨p', by simp [PIDSet.apply, KeySet.apply, hr], hv', hk⟩
  | contains v => exact ⟨p, by simp [PIDSet.apply, KeySet.apply, hv.contains]; rfl, hv, rfl⟩
  | len => exact ⟨p, by simp [PIDSet.apply, KeySet.apply, hv.len]; rfl, hv, rfl⟩
  | clear => exact ⟨_, rfl, (valid_clear p).1, (valid_clear p).2⟩

theorem Abstracts.run {p : PIDSet} {s : Finset PidKey} (h : Abstracts p s) (ops : List Op) :
    ∃ p', p.run ops = .ok (p', (KeySet.run s ops).2) ∧ Abstracts p' (KeySet.run s ops).1 := by
  induction ops generalizing p s with
  | nil => exact ⟨p, rfl, h⟩
  | cons op ops ih =>
    obtain ⟨p₁, h₁, ha₁⟩ := h.apply op
    obtain ⟨p₂, h₂, ha₂⟩ := ih ha₁
    exact ⟨p₂, by simp only [PIDSet.run, h₁, bind, Except.bind, h₂]; rfl, ha₂⟩

theorem Abstracts.foldl_add {p : PIDSet} {s : Finset PidKey} (h : Abstracts p s) (vs : List PID) :
    Abstracts (vs.foldl add p) (s ∪ (vs.map key).toFinset) := by
  induction vs generalizing p s with
  | nil => simpa using h
  | cons v vs ih =>
    have h₁ : Abstracts (p.add v) (insert (key v) s) :=
      ⟨(valid_add h.valid v).1, by rw [(valid_add h.valid v).2, h.keys_eq]⟩
    simpa [Finset.insert_union, Finset.union_insert] using ih h₁

/-- For every `NewPIDSet` and every sequence of calls, no call panics, every
answer is the answer of the same call on the set of keys added and not since
removed, and the final set is valid, with no two PIDs sharing a key, and holds
exactly those keys. -/
theorem newPIDSet_refines (init : List PID) (ops : List Op) :
    ∃ p, (newPIDSet init).run ops = .ok (p, (KeySet.run (init.map key).toFinset ops).2) ∧
      p.Valid ∧ p.keys.Nodup ∧ p.keys.toFinset = (KeySet.run (init.map key).toFinset ops).1 := by
  have h₀ : Abstracts ⟨[], Map.empty⟩ ∅ := ⟨fun k i => by simp [keys], rfl⟩
  obtain ⟨p, hr, hv, hk⟩ := (by simpa using h₀.foldl_add init : Abstracts (newPIDSet init) _).run ops
  exact ⟨p, hr, hv, hv.nodup, hk⟩

end PIDSet
end Actor
