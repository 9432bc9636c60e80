import DistributedFramework.Ringbuffer.Basic
import Mathlib.Data.List.GetD

/-! The ring buffer refines a FIFO queue.

`Valid` is the representation invariant and `toList` the abstraction function:
the queue of the `len` elements in the slots after `head`. Each operation gets
one specification lemma from a valid buffer (`push_spec`, `pop_spec`,
`popN_spec`); `refines_queue` chains them over any sequence of calls from
`New(size)`, `size ≥ 1`, including every doubling of the capacity. -/

namespace Ringbuffer
open Go

namespace RingBuffer
variable {α : Type}

/-! ## Slots -/

theorem getD_set (l : List α) (i j : Nat) (v d : α) :
    (l.set i v).getD j d = if i = j ∧ i < l.length then v else l.getD j d := by
  by_cases hij : i = j
  · subst hij
    by_cases hi : i < l.length
    · simp [hi]
    · simp [hi, List.set_eq_of_length_le (Nat.le_of_not_lt hi)]
  · simp [hij, List.getElem?_set_ne hij]

theorem drop_min_length (l : List α) (n : Nat) : l.drop (min n l.length) = l.drop n := by
  rcases Nat.le_total n l.length with hle | hle
  · rw [Nat.min_eq_left hle]
  · rw [Nat.min_eq_right hle, List.drop_eq_nil_of_le (Nat.le_refl _), List.drop_eq_nil_of_le hle]

/-- The slot of the `i`-th live element, oldest first. -/
def slot (c : Buffer α) (i : Nat) : Nat := (c.head + 1 + i) % c.mod

theorem mod_eq_slot (c : Buffer α) (i : Nat) : (c.head + 1 + i) % c.mod = slot c i := rfl

theorem slot_inj {c : Buffer α} {i j : Nat} (hh : c.head < c.mod) (hi : i < c.mod) (hj : j < c.mod)
    (h : slot c i = slot c j) : i = j := by
  unfold slot at h
  rw [mod_of_lt_two_mul (by omega), mod_of_lt_two_mul (by omega)] at h
  split_ifs at h <;> omega


/-! ## The invariant -/

/-- The representation invariant: the live elements fill the `len` slots after
`head`, one slot stays free, and `tail` is the slot of the newest element. -/
structure Valid (rb : RingBuffer α) : Prop where
  mod_pos : 0 < rb.content.mod
  length_items : rb.content.items.length = rb.content.mod
  head_lt : rb.content.head < rb.content.mod
  len_lt : rb.len < rb.content.mod
  tail_eq : rb.content.tail = (rb.content.head + rb.len) % rb.content.mod

section
variable {rb : RingBuffer α} (h : rb.Valid)
include h

theorem Valid.next_tail : (rb.content.tail + 1) % rb.content.mod = slot rb.content rb.len := by
  rw [h.tail_eq, Nat.mod_add_mod, slot, Nat.add_right_comm]

theorem Valid.slot_len_eq_head :
    slot rb.content rb.len = rb.content.head ↔ rb.len + 1 = rb.content.mod := by
  have := h.head_lt; have := h.len_lt
  unfold slot
  rw [mod_of_lt_two_mul (by omega)]
  split <;> omega

theorem Valid.slot_ne {i j : Nat} (hi : i < rb.content.mod) (hj : j < rb.content.mod) (hij : i ≠ j) :
    slot rb.content i ≠ slot rb.content j :=
  fun e => hij (slot_inj h.head_lt hi hj e)

end


/-! ## The queue a buffer holds -/

variable [Inhabited α]

/-- The `i`-th live element, oldest first. -/
def live (rb : RingBuffer α) (i : Nat) : α := rb.content.items.getD (slot rb.content i) default

/-- The queue the buffer holds, oldest first. -/
def toList (rb : RingBuffer α) : List α := (List.range rb.len).map (live rb)

@[simp] theorem length_toList (rb : RingBuffer α) : rb.toList.length = rb.len := by simp [toList]

theorem getElem_toList (rb : RingBuffer α) (i : Nat) (h : i < rb.toList.length) :
    rb.toList[i] = live rb i := by simp [toList]

theorem toList_snoc {rb rb' : RingBuffer α} {x : α} (hlen : rb'.len = rb.len + 1)
    (hold : ∀ i < rb.len, live rb' i = live rb i) (hnew : live rb' rb.len = x) :
    rb'.toList = rb.toList ++ [x] := by
  apply List.ext_getElem (by simp [hlen])
  intro i h₁ h₂
  rw [getElem_toList, List.getElem_append]
  split <;> rename_i hi <;> simp only [length_toList] at h₁ hi
  · rw [getElem_toList, hold i hi]
  · simp only [length_toList, List.getElem_singleton]
    rw [show i = rb.len by omega, hnew]

theorem toList_drop {rb rb' : RingBuffer α} {k : Nat} (hlen : rb'.len + k = rb.len)
    (hold : ∀ i < rb'.len, live rb' i = live rb (k + i)) :
    rb'.toList = rb.toList.drop k := by
  apply List.ext_getElem (by simp; omega)
  intro i h₁ h₂
  rw [getElem_toList, List.getElem_drop, getElem_toList, hold i (by simpa using h₁)]

theorem copyLive_spec (c : Buffer α) (hm : 0 < c.mod) (hl : c.items.length = c.mod) :
    ∀ (is : List Nat) (nb : List α), (∀ i ∈ is, i < nb.length) →
      ∃ nb', copyLive c nb is = .ok nb' ∧ nb'.length = nb.length ∧
        ∀ j, nb'.getD j default =
          if j ∈ is then c.items.getD ((c.tail + j) % c.mod) default else nb.getD j default := by
  intro is
  induction is with
  | nil => intro nb _; exact ⟨nb, rfl, rfl, by simp⟩
  | cons i is ih =>
    intro nb hnb
    have hidx : (c.tail + i) % c.mod < c.items.length := by rw [hl]; exact Nat.mod_lt _ hm
    have hi : i < nb.length := hnb i (List.mem_cons_self _ _)
    obtain ⟨nb', hrun, hlen, hget⟩ := ih (nb.set i c.items[(c.tail + i) % c.mod])
      (by simpa using fun j hj => hnb j (List.mem_cons_of_mem _ hj))
    refine ⟨nb', ?_, by simpa using hlen, fun j => ?_⟩
    · simpa [copyLive, hm, hidx, hi] using hrun
    · rw [hget j, getD_set, ← List.getD_eq_getElem _ default hidx]
      by_cases hj : j ∈ is
      · simp [hj]
      · by_cases hij : i = j
        · subst hij; simp [hj, hi]
        · simp [hj, hij, Ne.symm hij]

theorem grow_spec (c : Buffer α) (hm : 0 < c.mod) (hl : c.items.length = c.mod) :
    ∃ nb, grow c = pure { items := nb, head := 0, tail := c.mod, mod := c.mod * 2 } ∧
      nb.length = c.mod * 2 ∧
      ∀ j, nb.getD j default = if j < c.mod then c.items.getD ((c.tail + j) % c.mod) default
        else default := by
  obtain ⟨nb, hrun, hlen, hget⟩ := copyLive_spec c hm hl (List.range c.mod)
    (List.replicate (c.mod * 2) default) (by simp; omega)
  refine ⟨nb, ?_, by simpa using hlen, fun j => ?_⟩
  · simp only [grow, makeSlice_ofNat, pure_bind]
    rw [hrun]; rfl
  · rw [hget j]; simp


/-! ## One specification lemma per operation -/

theorem push_spec {rb : RingBuffer α} (h : rb.Valid) (x : α) :
    ∃ rb', push x rb = .ok () rb' ∧ rb'.Valid ∧ rb'.toList = rb.toList ++ [x] := by
  have hm := h.mod_pos; have hl := h.length_items; have hh := h.head_lt; have hn := h.len_lt
  have ht := h.next_tail
  have hslot : slot rb.content rb.len < rb.content.items.length := hl ▸ Nat.mod_lt _ hm
  by_cases hg : slot rb.content rb.len = rb.content.head
  · have hfull := h.slot_len_eq_head.mp hg
    obtain ⟨nb, hgrow, hlen, hget⟩ :=
      grow_spec ⟨rb.content.items, rb.content.head, rb.content.head, rb.content.mod⟩ hm hl
    simp only at hgrow hlen hget
    refine ⟨⟨rb.len + 1, ⟨List.set nb rb.content.mod x, 0, rb.content.mod, rb.content.mod * 2⟩⟩,
      ?_, ?_, toList_snoc rfl (fun i hi => ?_) ?_⟩
    · simp [push, hm, ht, hg, hgrow, hlen]
    · constructor <;> simp only [List.length_set, hlen] <;> try omega
      rw [Nat.zero_add, hfull, Nat.mod_eq_of_lt (by omega)]
    · have h1 : (0 + 1 + i) % (rb.content.mod * 2) = 1 + i := Nat.mod_eq_of_lt (by omega)
      simp only [live, slot, h1, getD_set, hget]
      rw [if_neg (by omega), if_pos (by omega), ← Nat.add_assoc]
    · have h1 : (0 + 1 + rb.len) % (rb.content.mod * 2) = rb.content.mod := by
        rw [Nat.mod_eq_of_lt] <;> omega
      simp only [live, slot, h1, getD_set, hlen]
      rw [if_pos ⟨trivial, by omega⟩]
  · have hroom : rb.len + 1 < rb.content.mod := by
      have := mt h.slot_len_eq_head.mpr hg; omega
    refine ⟨⟨rb.len + 1, ⟨rb.content.items.set (slot rb.content rb.len) x, rb.content.head,
      slot rb.content rb.len, rb.content.mod⟩⟩, ?_, ?_, toList_snoc rfl (fun i hi => ?_) ?_⟩
    · simp [push, hm, ht, hg, hslot]
    · exact ⟨hm, by simp [hl], hh, hroom, by rw [slot, Nat.add_right_comm, Nat.add_assoc]⟩
    · simp only [live, getD_set]
      rw [if_neg fun e => h.slot_ne (by omega) (by omega) (Nat.ne_of_gt hi) e.1]; rfl
    · simp only [live, getD_set]
      rw [if_pos ⟨rfl, hslot⟩]

theorem pop_empty {rb : RingBuffer α} (h : rb.len = 0) : pop rb = .ok (default, false) rb := by
  simp [pop, h]

theorem pop_spec {rb : RingBuffer α} (h : rb.Valid) (hn : 0 < rb.len) :
    ∃ rb', pop rb = .ok (live rb 0, true) rb' ∧ rb'.Valid ∧ rb'.toList = rb.toList.drop 1 := by
  have hm := h.mod_pos; have hl := h.length_items
  have hhead : (rb.content.head + 1) % rb.content.mod < rb.content.items.length := by
    rw [hl]; exact Nat.mod_lt _ hm
  refine ⟨⟨rb.len - 1, ⟨rb.content.items.set ((rb.content.head + 1) % rb.content.mod) default,
    (rb.content.head + 1) % rb.content.mod, rb.content.tail, rb.content.mod⟩⟩, ?_, ?_,
    toList_drop (by simp; omega) fun i hi => ?_⟩
  · simp [pop, Nat.pos_iff_ne_zero.mp hn, hm, hhead, live, slot,
      List.getD_eq_getElem _ _ hhead]
  · refine ⟨hm, by simp [hl], Nat.mod_lt _ hm, by dsimp only; have := h.len_lt; omega, ?_⟩
    dsimp only; rw [h.tail_eq, Nat.mod_add_mod]; congr 1; omega
  · have hs : ((rb.content.head + 1) % rb.content.mod + 1 + i) % rb.content.mod =
        slot rb.content (1 + i) := by
      rw [Nat.add_assoc, Nat.mod_add_mod, slot, Nat.add_assoc]
    have hne : (rb.content.head + 1) % rb.content.mod ≠ slot rb.content (1 + i) :=
      h.slot_ne (show 0 < rb.content.mod by omega) (by have := h.len_lt; simp at hi; omega) (by omega)
    simp only [live, slot] at hs hne ⊢
    rw [hs, getD_set, if_neg fun e => hne e.1]

theorem popLoop_spec {rb : RingBuffer α} (hm : 0 < rb.content.mod)
    (hl : rb.content.items.length = rb.content.mod) (hh : rb.content.head < rb.content.mod) :
    ∀ (is : List Nat) (out : List α), is.Nodup → (∀ i ∈ is, i < rb.content.mod ∧ i < out.length) →
      ∃ out' cells, popLoop out is rb = .ok out' ⟨rb.len, { rb.content with items := cells }⟩ ∧
        out'.length = out.length ∧ cells.length = rb.content.items.length ∧
        (∀ j, out'.getD j default =
          if j ∈ is then rb.content.items.getD (slot rb.content j) default else out.getD j default) ∧
        ∀ p, (∀ i ∈ is, p ≠ slot rb.content i) →
          cells.getD p default = rb.content.items.getD p default := by
  intro is
  induction is generalizing rb with
  | nil => intro out _ _; exact ⟨out, rb.content.items, rfl, rfl, rfl, by simp, fun _ _ => rfl⟩
  | cons i is ih =>
    intro out hnd hlt
    obtain ⟨hi, hio⟩ := hlt i (List.mem_cons_self _ _)
    have hs : slot rb.content i < rb.content.items.length := by rw [hl]; exact Nat.mod_lt _ hm
    let rb₁ : RingBuffer α :=
      ⟨rb.len, { rb.content with items := rb.content.items.set (slot rb.content i) default }⟩
    obtain ⟨out', cells, hrun, hlen, hcells, hout, hkeep⟩ :=
      @ih rb₁ hm (by simp [rb₁, hl]) hh (out.set i rb.content.items[slot rb.content i])
        (List.nodup_cons.mp hnd).2 (fun j hj => by simpa using hlt j (List.mem_cons_of_mem _ hj))
    have hne : ∀ j ∈ is, slot rb.content i ≠ slot rb.content j := fun j hj e =>
      (List.nodup_cons.mp hnd).1 (slot_inj hh hi (hlt j (List.mem_cons_of_mem _ hj)).1 e ▸ hj)
    refine ⟨out', cells, ?_, by simpa using hlen, by simpa [rb₁] using hcells, fun j => ?_, fun p hp => ?_⟩
    · simpa [popLoop, mod_eq_slot, hm, hs, hio] using hrun
    · rw [hout j]
      by_cases hj : j ∈ is
      · simp only [rb₁, hj, if_true, List.mem_cons, or_true, getD_set]
        exact if_neg fun e => hne j hj e.1
      · by_cases hij : i = j
        · subst hij; simp [hj, getD_set, hio, List.getElem?_eq_getElem hs]
        · simp [hj, getD_set, hij, Ne.symm hij]
    · rw [hkeep p fun k hk => hp k (List.mem_cons_of_mem _ hk)]
      simp only [rb₁, getD_set]
      exact if_neg fun e => hp i (List.mem_cons_self _ _) e.1.symm

theorem popN_empty {rb : RingBuffer α} (h : rb.len = 0) (n : Int) :
    popN n rb = .ok ([], false) rb := by
  simp [popN, h]

theorem popN_spec {rb : RingBuffer α} (h : rb.Valid) (hn : 0 < rb.len) (n : Nat) :
    ∃ rb', popN n rb = .ok (rb.toList.take n, true) rb' ∧ rb'.Valid ∧
      rb'.toList = rb.toList.drop n := by
  have hm := h.mod_pos; have hl := h.length_items; have hh := h.head_lt; have hlt := h.len_lt
  obtain ⟨out, cells, hrun, hlen, hcells, hout, hkeep⟩ :=
    @popLoop_spec α _ ⟨rb.len - min n rb.len, rb.content⟩ hm hl hh (List.range (min n rb.len))
      (List.replicate (min n rb.len) default) (List.nodup_range _)
      (fun i hi => by simp at hi ⊢; omega)
  simp only [List.length_replicate] at hlen hcells hout hkeep hrun
  have hk : (if (rb.len : Int) ≤ n then (rb.len : Int) else (n : Int)) = ((min n rb.len : Nat) : Int) := by
    split <;> omega
  have hsub : ((rb.len : Int) - ((min n rb.len : Nat) : Int)).toNat = rb.len - min n rb.len := by
    omega
  have hout' : out = rb.toList.take n := by
    apply List.ext_getElem (by simp [hlen])
    intro j h₁ h₂
    have := hout j
    rw [List.getD_eq_getElem _ _ h₁] at this
    simp only [hlen] at h₁
    simp [this, h₁, getElem_toList, live]
  refine ⟨⟨rb.len - min n rb.len, ⟨cells, (rb.content.head + min n rb.len) % rb.content.mod,
    rb.content.tail, rb.content.mod⟩⟩, ?_, ?_, ?_⟩
  · simp only [popN, get_bind_apply, Nat.pos_iff_ne_zero.mp hn, if_false, ge_iff_le, hk, hsub]
    simp only [pure_bind_apply, set_bind_apply, makeSlice_ofNat, Int.toNat_ofNat,
      bind_apply_of_ok hrun, get_bind_apply, goMod_of_pos hm, map_set_apply, hout', pure_apply]
  · refine ⟨hm, by simp [hcells, hl], Nat.mod_lt _ hm, by dsimp only; omega, ?_⟩
    dsimp only; rw [h.tail_eq, Nat.mod_add_mod]; congr 1; omega
  · rw [← drop_min_length, length_toList]
    refine toList_drop (by dsimp only; omega) fun i hi => ?_
    dsimp only at hi
    have hs : ((rb.content.head + min n rb.len) % rb.content.mod + 1 + i) % rb.content.mod =
        slot rb.content (min n rb.len + i) := by
      rw [Nat.add_assoc, Nat.mod_add_mod, slot]; congr 1; omega
    simp only [live, slot] at hs ⊢
    rw [hs, hkeep]
    intro j hj e
    have := slot_inj hh (by omega) (by simp at hj; omega) e
    simp at hj; omega

theorem new_spec {size : Int} (h : 1 ≤ size) :
    ∃ rb : RingBuffer α, new size = .ok rb ∧ rb.Valid ∧ rb.toList = [] := by
  obtain ⟨n, rfl⟩ := Int.eq_ofNat_of_zero_le (by omega : 0 ≤ size)
  refine ⟨⟨0, ⟨List.replicate n default, 0, 0, n⟩⟩, by simp [new]; rfl, ⟨?_, by simp, ?_, ?_, by simp⟩,
    rfl⟩ <;> (dsimp only; omega)

/-! ## Refinement of the FIFO queue -/

/-- A call on the buffer; `PopN`'s argument ranges over `n ≥ 0`. -/
inductive Cmd (α : Type) where
  | push (x : α)
  | pop
  | popN (n : Nat)
  deriving DecidableEq, Repr

/-- What a call returns. -/
inductive Reply (α : Type) where
  | pushed
  | popped (x : α) (ok : Bool)
  | poppedN (xs : List α) (ok : Bool)
  deriving DecidableEq, Repr

/-- The buffer executing one call. -/
def exec : Cmd α → Op α (Reply α)
  | .push x => do push x; pure .pushed
  | .pop => do let (x, ok) ← pop; pure (.popped x ok)
  | .popN n => do let (xs, ok) ← popN n; pure (.poppedN xs ok)

/-- What a run of calls shows: each reply and `Len()` right after it. -/
def run (rb : RingBuffer α) : List (Cmd α) → Except GoPanic (List (Reply α × Nat))
  | [] => pure []
  | c :: cs =>
    match exec c rb with
    | .ok r rb' => do pure ((r, rb'.len) :: (← run rb' cs))
    | .error e _ => throw e

end RingBuffer

namespace Queue
variable {α : Type} [Inhabited α]
open RingBuffer

/-- The FIFO queue's answer to a call, and the queue after it. -/
def apply (q : List α) : Cmd α → Reply α × List α
  | .push x => (.pushed, q ++ [x])
  | .pop =>
    match q with
    | [] => (.popped default false, [])
    | x :: q => (.popped x true, q)
  | .popN n =>
    match q with
    | [] => (.poppedN [] false, [])
    | q => (.poppedN (q.take (min n q.length)) true, q.drop (min n q.length))

/-- What a run of calls shows on the queue: each reply and the length after it. -/
def run (q : List α) : List (Cmd α) → List (Reply α × Nat)
  | [] => []
  | c :: cs => ((apply q c).1, (apply q c).2.length) :: run (apply q c).2 cs

end Queue

namespace RingBuffer
variable {α : Type} [Inhabited α]

theorem exec_spec {rb : RingBuffer α} (h : rb.Valid) (c : Cmd α) :
    ∃ rb', exec c rb = .ok (Queue.apply rb.toList c).1 rb' ∧ rb'.Valid ∧
      rb'.toList = (Queue.apply rb.toList c).2 := by
  cases c with
  | push x =>
    obtain ⟨rb', hrun, hv, hq⟩ := push_spec h x
    exact ⟨rb', by simp [exec, bind_apply_of_ok hrun, Queue.apply], hv, hq⟩
  | pop =>
    rcases hq : rb.toList with _ | ⟨y, q⟩
    · have hn : rb.len = 0 := by simpa using congrArg List.length hq
      exact ⟨rb, by simp [exec, bind_apply_of_ok (pop_empty hn), Queue.apply], h, hq⟩
    · have hn : 0 < rb.len := by have := congrArg List.length hq; simp at this; omega
      obtain ⟨rb', hrun, hv, hq'⟩ := pop_spec h hn
      have hy : live rb 0 = y := by
        rw [← getElem_toList rb 0 (by simp; omega)]; simp [hq]
      exact ⟨rb', by simp [exec, bind_apply_of_ok hrun, Queue.apply, hy], hv, by simp [hq', hq, Queue.apply]⟩
  | popN n =>
    rcases hq : rb.toList with _ | ⟨y, q⟩
    · have hn : rb.len = 0 := by simpa using congrArg List.length hq
      exact ⟨rb, by simp [exec, bind_apply_of_ok (popN_empty hn n), Queue.apply], h, hq⟩
    · have hn : 0 < rb.len := by have := congrArg List.length hq; simp at this; omega
      obtain ⟨rb', hrun, hv, hq'⟩ := popN_spec h hn n
      rw [← hq]
      refine ⟨rb', ?_, hv, ?_⟩
      · simp [exec, bind_apply_of_ok hrun, Queue.apply, hq]
      · simp [hq', Queue.apply, hq, ← drop_min_length (y :: q)]

theorem run_spec {rb : RingBuffer α} (h : rb.Valid) (cs : List (Cmd α)) :
    run rb cs = .ok (Queue.run rb.toList cs) := by
  induction cs generalizing rb with
  | nil => rfl
  | cons c cs ih =>
    obtain ⟨rb', hexec, hv, hq⟩ := exec_spec h c
    simp only [run, hexec, ih hv, Queue.run, ← hq, length_toList]
    rfl

/-- From `New(size)` with `size ≥ 1`, every sequence of `Push`, `Pop` and `PopN`
calls runs without a panic and shows exactly what the FIFO queue shows: the
same replies, and `Len()` equal to the queue's length after every call. -/
theorem refines_queue {size : Int} (hsize : 1 ≤ size) (cs : List (Cmd α)) :
    ∃ rb : RingBuffer α, new size = .ok rb ∧ run rb cs = .ok (Queue.run [] cs) := by
  obtain ⟨rb, hnew, hv, hq⟩ := @new_spec α _ size hsize
  exact ⟨rb, hnew, hq ▸ run_spec hv cs⟩

theorem refines_queue_of_one :
    (1 : Int) ≤ 1 ∧ ∃ rb : RingBuffer Nat, new 1 = .ok rb ∧
      run rb [.push 7, .push 8, .popN 1, .pop, .pop] =
        .ok (Queue.run [] [.push 7, .push 8, .popN 1, .pop, .pop]) :=
  ⟨Int.le_refl 1, refines_queue (Int.le_refl 1) _⟩

/-! ## Outside the hypotheses of the refinement -/

/-- `WithInboxSize` hands `New` any size and `PopN` takes any `int64`: a
buffer made by `New(0)` divides by zero at its first `Push`, and `PopN(n)` with
`n < 0` on a nonempty buffer panics in `make` after `len` has grown by `-n`. -/
theorem boundary_panics :
    (∀ item : α, ∃ rb, new 0 = .ok rb ∧ push item rb = .error .divideByZero rb) ∧
      ∀ (rb : RingBuffer α) (n : Int), 0 < rb.len → n < 0 →
        popN n rb = .error .makeSliceLen { rb with len := rb.len + n.natAbs } := by
  refine ⟨fun item => ⟨_, rfl, rfl⟩, fun rb n hlen hn => ?_⟩
  have hk : ¬ (rb.len : Int) ≤ n := by omega
  have hsub : ((rb.len : Int) - n).toNat = rb.len + n.natAbs := by omega
  simp only [popN, get_bind_apply, Nat.pos_iff_ne_zero.mp hlen, if_false, ge_iff_le, hk, hsub,
    set_bind_apply, makeSlice, hn, if_true, throw_bind_apply]
  rfl

end RingBuffer
end Ringbuffer
