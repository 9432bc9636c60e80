import DistributedFramework.Cluster.Agent

/-! What `handleMembers` does to the member set of an agent, for every agent
state and every snapshot the provider sends.

Proved here:

* `handleMembers_isSome_iff`: afterwards the member set holds exactly the IDs
  of the snapshot;
* `handleMembers_get?_of_new`: an ID it did not know is mapped to the member
  the snapshot carries;
* `handleMembers_joinEvents`, `handleMembers_leaveEvents`: one
  `MemberJoinEvent` for each member of the snapshot with an unknown ID, one
  `MemberLeaveEvent` for each known member whose ID is not in it;
* `handleMembers_get?_of_known`: an ID it knew keeps the member it had, whatever
  host, region and kinds the snapshot carries for it. -/

namespace Cluster
open Go

namespace MemberSet

theorem get?_add (s : MemberSet) (m : Member) (k : String) :
    (s.add m).members.get? k = if k = m.id then some m else s.members.get? k := by
  split_ifs with h
  · subst h; exact Map.get?_insert_self _ _ _
  · exact Map.get?_insert_ne _ _ _ h

theorem get?_remove (s : MemberSet) (m : Member) (k : String) :
    (s.remove m).members.get? k = if k = m.id then none else s.members.get? k := by
  split_ifs with h
  · subst h; exact Map.get?_erase_self _ _
  · exact Map.get?_erase_ne _ _ h

/-- A member set holds `v` under `k` exactly when `v` is one of its members and
has ID `k`. -/
theorem get?_eq_some_iff {s : MemberSet} {k : String} {v : Member} :
    s.members.get? k = some v ↔ v ∈ s.slice ∧ v.id = k := by
  rw [Map.get?_eq_some_iff]
  constructor
  · intro h
    exact ⟨List.mem_map_of_mem Prod.snd h, (s.keyed _ h).symm⟩
  · rintro ⟨hv, rfl⟩
    obtain ⟨e, he, rfl⟩ := List.mem_map.mp hv
    rwa [← s.keyed e he]

theorem mem_slice {s : MemberSet} {v : Member} : v ∈ s.slice ↔ s.members.get? v.id = some v := by
  simp [get?_eq_some_iff]

theorem mem_ids_filter {s : MemberSet} {p : Member → Bool} {k : String} :
    k ∈ (s.slice.filter p).map Member.id ↔ ∃ v, s.members.get? k = some v ∧ p v := by
  simp only [List.mem_map, List.mem_filter, get?_eq_some_iff]
  constructor
  · rintro ⟨v, ⟨hv, hp⟩, rfl⟩; exact ⟨v, ⟨hv, rfl⟩, hp⟩
  · rintro ⟨v, ⟨hv, rfl⟩, hp⟩; exact ⟨v, ⟨hv, hp⟩, rfl⟩

theorem isSome_get?_iff {s : MemberSet} {k : String} :
    (s.members.get? k).isSome ↔ k ∈ s.slice.map Member.id := by
  simpa [Option.isSome_iff_exists] using (mem_ids_filter (s := s) (p := fun _ => true)).symm

theorem get?_foldl_add_of_forall_ne {l : List Member} {k : String} (h : ∀ j ∈ l, j.id ≠ k)
    (s : MemberSet) : (l.foldl add s).members.get? k = s.members.get? k := by
  induction l generalizing s with
  | nil => rfl
  | cons j l ih =>
    rw [List.foldl_cons, ih (fun j' hj' => h j' (List.mem_cons_of_mem _ hj')), get?_add,
      if_neg (Ne.symm (h j (List.mem_cons_self _ _)))]

theorem isSome_get?_foldl_add (l : List Member) (s : MemberSet) (k : String) :
    ((l.foldl add s).members.get? k).isSome ↔ k ∈ l.map Member.id ∨ (s.members.get? k).isSome := by
  induction l generalizing s with
  | nil => simp
  | cons j l ih =>
    rw [List.foldl_cons, ih, get?_add]
    split_ifs with h <;> simp [h, or_comm, or_left_comm]

theorem get?_foldl_add_of_mem {l : List Member} (hnd : (l.map Member.id).Nodup) {j : Member}
    (hj : j ∈ l) (s : MemberSet) : (l.foldl add s).members.get? j.id = some j := by
  induction l generalizing s with
  | nil => cases hj
  | cons j' l ih =>
    rw [List.map_cons, List.nodup_cons] at hnd
    rw [List.foldl_cons]
    rcases List.mem_cons.mp hj with rfl | hj
    · rw [get?_foldl_add_of_forall_ne (fun i hi he => hnd.1 (by rw [← he]; exact List.mem_map_of_mem _ hi)),
        get?_add, if_pos rfl]
    · exact ih hnd.2 hj _

theorem get?_foldl_remove (l : List Member) (s : MemberSet) (k : String) :
    (l.foldl remove s).members.get? k = if k ∈ l.map Member.id then none else s.members.get? k := by
  induction l generalizing s with
  | nil => simp
  | cons j l ih =>
    rw [List.foldl_cons, ih, get?_remove]
    by_cases hk : k = j.id <;> by_cases hl : k ∈ l.map Member.id <;> simp [hk, hl]

/-- `NewMemberSet(ms...)` holds the IDs of `ms`. -/
theorem isSome_get?_ofList (ms : List Member) (k : String) :
    ((ofList ms).members.get? k).isSome ↔ k ∈ ms.map Member.id := by
  simp [ofList, isSome_get?_foldl_add, empty]

/-- Adding members with new IDs appends them to the slice. -/
theorem slice_foldl_add (l : List Member) (s : MemberSet) (hnd : (l.map Member.id).Nodup)
    (hnew : ∀ j ∈ l, s.members.get? j.id = none) : (l.foldl add s).slice = s.slice ++ l := by
  induction l generalizing s with
  | nil => simp
  | cons j l ih =>
    rw [List.map_cons, List.nodup_cons] at hnd
    rw [List.foldl_cons, ih _ hnd.2, slice, slice]
    · simp [add, Map.insert, Map.values, Map.erase_of_get?_eq_none _ _ (hnew j (List.mem_cons_self _ _))]
    · intro i hi
      rw [get?_add, if_neg fun he => hnd.1 (by rw [← he]; exact List.mem_map_of_mem _ hi)]
      exact hnew i (List.mem_cons_of_mem _ hi)

theorem mem_ids_except {s : MemberSet} {ms : List Member} {k : String} :
    k ∈ (s.except ms).map Member.id ↔ (s.members.get? k).isSome ∧ k ∉ ms.map Member.id := by
  rw [except, mem_ids_filter]
  constructor
  · rintro ⟨v, hv, hp⟩
    obtain ⟨-, rfl⟩ := get?_eq_some_iff.mp hv
    exact ⟨by simp [hv], by simpa using hp⟩
  · rintro ⟨hk, hms⟩
    obtain ⟨v, hv⟩ := Option.isSome_iff_exists.mp hk
    obtain ⟨-, rfl⟩ := get?_eq_some_iff.mp hv
    exact ⟨v, hv, by simpa using hms⟩

/-- The members of a set have distinct IDs. -/
theorem nodup_ids (s : MemberSet) : (s.slice.map Member.id).Nodup := by
  have : s.slice.map Member.id = s.members.entries.map Prod.fst := by
    simp only [slice, Map.values, List.map_map]
    exact List.map_congr_left fun e he => (s.keyed e he).symm
  rw [this]; exact s.members.nodup

/-- With distinct IDs, `NewMemberSet(ms...)` ranges over `ms` in order. -/
theorem slice_ofList {ms : List Member} (hnd : (ms.map Member.id).Nodup) : (ofList ms).slice = ms :=
  slice_foldl_add ms empty hnd (fun _ _ => rfl)

end MemberSet

namespace Agent

section
variable (a : Agent) (m : Member)

@[simp] theorem emit_members (o : Out) : (a.emit o).members = a.members := rfl

@[simp] theorem emit_out (o : Out) : (a.emit o).out = a.out ++ [o] := rfl

@[simp] theorem removeActivated_members (pid : Actor.PID) : (a.removeActivated pid).members = a.members :=
  rfl

@[simp] theorem removeActivated_out (pid : Actor.PID) : (a.removeActivated pid).out = a.out := rfl

/-- Dropping the actors of a leaving host changes neither the member set nor
what the agent has done outside itself. -/
theorem dropHost_frame (host : String) (pids : List Actor.PID) :
    (pids.foldl (fun a pid => if pid.address = host then a.removeActivated pid else a) a).members =
        a.members ∧
      (pids.foldl (fun a pid => if pid.address = host then a.removeActivated pid else a) a).out =
        a.out := by
  induction pids generalizing a with
  | nil => exact ⟨rfl, rfl⟩
  | cons pid pids ih =>
    rw [List.foldl_cons]
    split_ifs
    · exact ih _
    · exact ih _

@[simp] theorem memberJoin_members : (a.memberJoin m).members = a.members.add m := by
  unfold memberJoin; dsimp only; split <;> rfl

theorem memberJoin_out : (a.memberJoin m).out =
    a.out ++ ((if a.activated.values.length > 0 then [Out.send m.pid (.actorTopology a.activated.values)]
      else []) ++ [.broadcast (.memberJoin m)]) := by
  unfold memberJoin; dsimp only; split <;> simp_all

@[simp] theorem memberLeave_members : (a.memberLeave m).members = a.members.remove m := by
  simp only [memberLeave, emit_members, (dropHost_frame _ _ _).1]; rfl

theorem memberLeave_out : (a.memberLeave m).out = a.out ++ [.broadcast (.memberLeave m)] := by
  simp only [memberLeave, emit_out, (dropHost_frame _ _ _).2]; rfl

end

theorem foldl_memberJoin_members (l : List Member) (a : Agent) :
    (l.foldl memberJoin a).members = l.foldl MemberSet.add a.members := by
  induction l generalizing a <;> simp [*]

theorem foldl_memberLeave_members (l : List Member) (a : Agent) :
    (l.foldl memberLeave a).members = l.foldl MemberSet.remove a.members := by
  induction l generalizing a <;> simp [*]

/-- The member set after `handleMembers`: the joined members added, then the
left ones removed. -/
theorem handleMembers_members (a : Agent) (ms : List Member) :
    (a.handleMembers ms).members =
      (a.members.except ms).foldl MemberSet.remove
        (((MemberSet.ofList ms).except a.members.slice).foldl MemberSet.add a.members) := by
  simp only [handleMembers, foldl_memberLeave_members, foldl_memberJoin_members]

/-- After `handleMembers`, the member set holds exactly the IDs of the
snapshot. -/
theorem handleMembers_isSome_iff (a : Agent) (ms : List Member) (k : String) :
    ((a.handleMembers ms).members.members.get? k).isSome ↔ k ∈ ms.map Member.id := by
  rw [handleMembers_members, MemberSet.get?_foldl_remove]
  split_ifs with hl
  · simp [(MemberSet.mem_ids_except.mp hl).2]
  · rw [MemberSet.mem_ids_except] at hl
    rw [MemberSet.isSome_get?_foldl_add, MemberSet.mem_ids_except, MemberSet.isSome_get?_ofList,
      ← MemberSet.isSome_get?_iff]
    tauto

/-- An ID the agent knew keeps the member it had, whatever host, region and
kinds the snapshot carries for it: the sets of joined and left members are
computed by ID alone. -/
theorem handleMembers_get?_of_known (a : Agent) {ms : List Member} {m old : Member} (hm : m ∈ ms)
    (hold : a.members.members.get? m.id = some old) :
    (a.handleMembers ms).members.members.get? m.id = some old := by
  have hknown : m.id ∈ a.members.slice.map Member.id :=
    MemberSet.isSome_get?_iff.mp (by simp [hold])
  rw [handleMembers_members, MemberSet.get?_foldl_remove,
    if_neg fun h => (MemberSet.mem_ids_except.mp h).2 (List.mem_map_of_mem _ hm),
    MemberSet.get?_foldl_add_of_forall_ne, hold]
  intro j hj he
  have := (List.mem_filter.mp hj).2
  simp only [decide_eq_true_eq] at this
  exact this (he ▸ hknown)

/-- Node `n1` as the agent knows it. -/
def n1AtFirstHost : Member := ⟨"n1", "10.0.0.1:4000", "default", ["player"]⟩

/-- Node `n1` in the provider's snapshot, restarted at another host. -/
def n1AtSecondHost : Member := ⟨"n1", "10.0.0.2:4000", "default", ["player"]⟩

/-- An agent whose member set holds `n1AtFirstHost`. -/
def knowsN1 : Agent := ⟨MemberSet.empty.add n1AtFirstHost, Map.empty, [], Map.empty, "local", []⟩

theorem moved_member_keeps_old_host :
    n1AtFirstHost.host ≠ n1AtSecondHost.host ∧ n1AtSecondHost ∈ [n1AtSecondHost] ∧
      knowsN1.members.members.get? n1AtSecondHost.id = some n1AtFirstHost ∧
      (knowsN1.handleMembers [n1AtSecondHost]).members.members.get? n1AtSecondHost.id =
        some n1AtFirstHost :=
  ⟨by decide, List.mem_singleton_self _, rfl,
    handleMembers_get?_of_known knowsN1 (List.mem_singleton_self _) rfl⟩

/-- An ID the agent did not know is mapped to the member the snapshot carries. -/
theorem handleMembers_get?_of_new (a : Agent) {ms : List Member} (hnd : (ms.map Member.id).Nodup)
    {m : Member} (hm : m ∈ ms) (hnew : a.members.members.get? m.id = none) :
    (a.handleMembers ms).members.members.get? m.id = some m := by
  rw [handleMembers_members, MemberSet.get?_foldl_remove,
    if_neg fun h => by simpa [hnew] using (MemberSet.mem_ids_except.mp h).1]
  refine MemberSet.get?_foldl_add_of_mem ((MemberSet.nodup_ids _).sublist
    ((List.filter_sublist _).map _)) ?_ _
  simp only [MemberSet.except, MemberSet.slice_ofList hnd, List.mem_filter]
  have hunknown : m.id ∉ a.members.slice.map Member.id := fun h => by
    simpa [hnew] using MemberSet.isSome_get?_iff.mpr h
  exact ⟨hm, by simpa using hunknown⟩

/-- The members of the `MemberJoinEvent`s among `os`, in order. -/
def joinEvents (os : List Out) : List Member :=
  os.filterMap fun | .broadcast (.memberJoin m) => some m | _ => none

/-- The members of the `MemberLeaveEvent`s among `os`, in order. -/
def leaveEvents (os : List Out) : List Member :=
  os.filterMap fun | .broadcast (.memberLeave m) => some m | _ => none

theorem events_foldl_memberJoin (l : List Member) (a : Agent) :
    joinEvents (l.foldl memberJoin a).out = joinEvents a.out ++ l ∧
      leaveEvents (l.foldl memberJoin a).out = leaveEvents a.out := by
  induction l generalizing a with
  | nil => simp
  | cons m l ih =>
    rw [List.foldl_cons, (ih _).1, (ih _).2, memberJoin_out]
    constructor <;> split <;> simp [joinEvents, leaveEvents]

theorem events_foldl_memberLeave (l : List Member) (a : Agent) :
    joinEvents (l.foldl memberLeave a).out = joinEvents a.out ∧
      leaveEvents (l.foldl memberLeave a).out = leaveEvents a.out ++ l := by
  induction l generalizing a with
  | nil => simp
  | cons m l ih =>
    rw [List.foldl_cons, (ih _).1, (ih _).2, memberLeave_out]
    simp [joinEvents, leaveEvents]

/-- One `MemberJoinEvent` for each member of a snapshot with distinct IDs whose
ID the agent did not know, and no other. -/
theorem handleMembers_joinEvents (a : Agent) {ms : List Member} (hnd : (ms.map Member.id).Nodup) :
    joinEvents (a.handleMembers ms).out =
      joinEvents a.out ++ ms.filter fun m => m.id ∉ a.members.slice.map Member.id := by
  rw [handleMembers, (events_foldl_memberLeave _ _).1, (events_foldl_memberJoin _ _).1,
    MemberSet.except, MemberSet.slice_ofList hnd]

/-- One `MemberLeaveEvent` for each known member whose ID is not in the
snapshot, and no other. -/
theorem handleMembers_leaveEvents (a : Agent) (ms : List Member) :
    leaveEvents (a.handleMembers ms).out =
      leaveEvents a.out ++ a.members.slice.filter fun m => m.id ∉ ms.map Member.id := by
  rw [handleMembers, (events_foldl_memberLeave _ _).2, (events_foldl_memberJoin _ _).2]
  rfl

end Agent

end Cluster
