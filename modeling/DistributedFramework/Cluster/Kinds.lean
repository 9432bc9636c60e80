import DistributedFramework.Cluster.Activation

/-! The kind set of an agent (`a.kinds`) against the kinds of its members, over
runs of the agent's process that include restarts.

`NewAgent(c)` makes the `kinds` map once and hands that same map to every
receiver its producer returns, while each receiver starts with an empty member
set. Within one receiver the kind set, once it agrees with the members' kinds,
agrees after every message (`KindsAgree.receive`): `memberLeave` rebuilds it
from scratch and `memberJoin` adds the kinds of a member whose ID is new. The
first snapshot a receiver handles adds its members' kinds to the map it found
(`handleMembers_kinds_of_empty`); for the producer's first receiver that map
holds the local kinds, but a receiver started after a fault finds the map its
predecessors wrote.

Proved here:

* `KindsAgree.handleMembers`, `KindsAgree.receive`: within one receiver,
  every message keeps the kind set equal to the union of the members' kinds;
* `Agent.run_kindsAgree`: so does every run of one receiver;
* `first_snapshot_agrees`: the producer's first receiver reaches that state at
  its first snapshot when the snapshot holds a member advertising the local
  kinds;
* `kinds_outlive_restart`: after a restart, a kind of a member that has left
  stays in the kind set through the new receiver's first snapshot. -/

namespace Cluster
open Go

namespace Agent

/-- `a.kinds` holds exactly the kinds of `a`'s members. -/
def KindsAgree (a : Agent) : Prop :=
  ∀ k, (a.kinds.get? k).isSome ↔ ∃ m ∈ a.members.slice, k ∈ m.kinds

/-! ## The two loops that write `kinds` -/

theorem isSome_get?_foldl_kinds (l : List String) (ks : Map String Bool) (k : String) :
    ((l.foldl (fun ks k => if (ks.get? k).isSome then ks else ks.insert k true) ks).get? k).isSome ↔
      k ∈ l ∨ (ks.get? k).isSome := by
  induction l generalizing ks with
  | nil => simp
  | cons j l ih =>
    rw [List.foldl_cons, ih]
    split_ifs with h
    · by_cases hk : k = j
      · subst hk; simp [h]
      · simp [hk]
    · rw [Map.get?_insert]
      by_cases hk : k = j <;> simp [hk]

theorem isSome_get?_foldl_memberKinds (l : List Member) (ks : Map String Bool) (k : String) :
    ((l.foldl (fun ks m => m.kinds.foldl (fun ks k =>
        if (ks.get? k).isSome then ks else ks.insert k true) ks) ks).get? k).isSome ↔
      (∃ m ∈ l, k ∈ m.kinds) ∨ (ks.get? k).isSome := by
  induction l generalizing ks with
  | nil => simp
  | cons m l ih =>
    rw [List.foldl_cons, ih, isSome_get?_foldl_kinds]
    simp only [List.mem_cons, exists_eq_or_imp]
    rw [or_assoc]; exact or_left_comm

/-! ## Each handler -/

section
variable (a : Agent)

theorem rebuildKinds_agree : a.rebuildKinds.KindsAgree := fun k => by
  simpa [rebuildKinds] using isSome_get?_foldl_memberKinds a.members.slice Map.empty k

theorem dropHost_kinds (host : String) (pids : List Actor.PID) :
    (pids.foldl (fun a pid => if pid.address = host then a.removeActivated pid else a) a).kinds =
      a.kinds := by
  induction pids generalizing a with
  | nil => rfl
  | cons pid pids ih =>
    rw [List.foldl_cons]
    split_ifs
    · exact ih _
    · exact ih _

/-- `memberLeave` rebuilds the kind set from the remaining members, whatever it held. -/
theorem memberLeave_agree (m : Member) : (a.memberLeave m).KindsAgree := by
  have hk : (a.memberLeave m).kinds = ({ a with members := a.members.remove m }.rebuildKinds).kinds := by
    simp only [memberLeave, emit, dropHost_kinds]
  intro k
  rw [hk, memberLeave_members]
  exact rebuildKinds_agree { a with members := a.members.remove m } k

theorem memberJoin_kinds (m : Member) (k : String) :
    ((a.memberJoin m).kinds.get? k).isSome ↔ k ∈ m.kinds ∨ (a.kinds.get? k).isSome := by
  unfold memberJoin; dsimp only
  split <;> exact isSome_get?_foldl_kinds m.kinds a.kinds k

theorem isSome_get?_foldl_memberJoin (l : List Member) (k : String) :
    ((l.foldl memberJoin a).kinds.get? k).isSome ↔ (∃ m ∈ l, k ∈ m.kinds) ∨ (a.kinds.get? k).isSome := by
  induction l generalizing a with
  | nil => simp
  | cons m l ih =>
    rw [List.foldl_cons, ih, memberJoin_kinds]
    simp only [List.mem_cons, exists_eq_or_imp]
    rw [or_assoc]; exact or_left_comm

end

section
variable {a : Agent}

/-- `memberJoin` of a member with a new ID adds its kinds and it. -/
theorem KindsAgree.memberJoin (h : a.KindsAgree) {m : Member} (hnew : a.members.members.get? m.id = none) :
    (a.memberJoin m).KindsAgree := by
  intro k
  rw [memberJoin_kinds, h k, memberJoin_members,
    show (a.members.add m).slice = a.members.slice ++ [m] from
      MemberSet.slice_foldl_add [m] a.members (List.nodup_singleton _) (by simpa using hnew)]
  simp only [List.mem_append, List.mem_singleton]
  constructor
  · rintro (hk | ⟨m', hm', hk⟩)
    · exact ⟨m, .inr rfl, hk⟩
    · exact ⟨m', .inl hm', hk⟩
  · rintro ⟨m', hm' | rfl, hk⟩
    · exact .inr ⟨m', hm', hk⟩
    · exact .inl hk

theorem KindsAgree.foldl_memberJoin (h : a.KindsAgree) {l : List Member} (hnd : (l.map Member.id).Nodup)
    (hnew : ∀ j ∈ l, a.members.members.get? j.id = none) : (l.foldl Agent.memberJoin a).KindsAgree := by
  induction l generalizing a with
  | nil => exact h
  | cons j l ih =>
    rw [List.map_cons, List.nodup_cons] at hnd
    refine ih (h.memberJoin (hnew j (List.mem_cons_self _ _))) hnd.2 fun i hi => ?_
    rw [memberJoin_members, MemberSet.get?_add,
      if_neg fun (he : i.id = j.id) => hnd.1 (he ▸ List.mem_map_of_mem Member.id hi)]
    exact hnew i (List.mem_cons_of_mem _ hi)

theorem KindsAgree.foldl_memberLeave (h : a.KindsAgree) (l : List Member) :
    (l.foldl Agent.memberLeave a).KindsAgree := by
  induction l generalizing a with
  | nil => exact h
  | cons m l ih => exact ih (memberLeave_agree a m)

/-- The members `handleMembers` joins have distinct IDs the agent did not know. -/
theorem joined_new (a : Agent) (ms : List Member) :
    (((MemberSet.ofList ms).except a.members.slice).map Member.id).Nodup ∧
      ∀ j ∈ (MemberSet.ofList ms).except a.members.slice, a.members.members.get? j.id = none := by
  refine ⟨(MemberSet.nodup_ids _).sublist ((List.filter_sublist _).map _), fun j hj => ?_⟩
  have hj' := (List.mem_filter.mp hj).2
  simp only [decide_eq_true_eq] at hj'
  cases hg : a.members.members.get? j.id with
  | none => rfl
  | some v => exact absurd (MemberSet.isSome_get?_iff.mp (by simp [hg])) hj'

/-- A snapshot keeps the kind set in agreement with the members. -/
theorem KindsAgree.handleMembers (h : a.KindsAgree) (ms : List Member) : (a.handleMembers ms).KindsAgree :=
  (h.foldl_memberJoin (joined_new a ms).1 (joined_new a ms).2).foldl_memberLeave _

end

/-! ## The handlers that leave the membership alone -/

/-- `b` has `a`'s members and kind set. -/
structure SameMembership (a b : Agent) : Prop where
  members : b.members = a.members
  kinds : b.kinds = a.kinds

section
variable {a b c : Agent}

theorem SameMembership.refl (a : Agent) : SameMembership a a := ⟨rfl, rfl⟩

theorem SameMembership.trans (h₁ : SameMembership a b) (h₂ : SameMembership b c) : SameMembership a c :=
  ⟨h₂.members.trans h₁.members, h₂.kinds.trans h₁.kinds⟩

theorem KindsAgree.of_same (h : a.KindsAgree) (hs : SameMembership a b) : b.KindsAgree := fun k => by
  rw [hs.kinds, hs.members]; exact h k

end

section
variable (a : Agent)

theorem emit_same (o : Out) : SameMembership a (a.emit o) := ⟨rfl, rfl⟩

theorem foldl_emit_same {β : Type} (f : β → Out) (l : List β) :
    SameMembership a (l.foldl (fun a x => a.emit (f x)) a) := by
  induction l generalizing a with
  | nil => exact .refl a
  | cons x l ih => exact (emit_same a _).trans (ih _)

theorem addActivated_same (p : Actor.PID) : SameMembership a (a.addActivated p) := by
  unfold addActivated; split <;> exact ⟨rfl, rfl⟩

theorem handleActorTopology_same (ps : List Actor.PID) : SameMembership a (a.handleActorTopology ps) := by
  induction ps generalizing a with
  | nil => exact .refl a
  | cons p ps ih => exact (addActivated_same a p).trans (ih _)

theorem handleActivationRequest_same (kind id : String) :
    SameMembership a (a.handleActivationRequest kind id).1 := by
  unfold handleActivationRequest; split <;> exact ⟨rfl, rfl⟩

theorem activate_same (kind : String) (config : ActivationConfig) (draw : Nat)
    (remote : Member → String → String → Option ActivationResponse) :
    SameMembership a (a.activate kind config draw remote).1 := by
  have hlast : ∀ p : Agent × Option ActivationResponse, SameMembership a p.1 →
      SameMembership a (match p with
        | (a, none) => (a, none)
        | (a, some r) => (a.bcast (.activation r.pid), r.pid)).1 := by
    rintro ⟨b, _ | r⟩ hb
    · exact hb
    · exact hb.trans (foldl_emit_same b _ _)
  unfold activate; dsimp only
  split_ifs
  · exact .refl a
  · exact .refl a
  split
  · exact .refl a
  refine hlast _ ?_
  split_ifs
  · exact handleActivationRequest_same a _ _
  · split
    · exact ⟨rfl, rfl⟩
    · split_ifs <;> exact ⟨rfl, rfl⟩

theorem handleGetActive_same (id kind : String) : SameMembership a (a.handleGetActive id kind) := by
  unfold handleGetActive; dsimp only; split_ifs <;> exact ⟨rfl, rfl⟩

end

/-- Every message but a snapshot leaves the members and the kind set as they are. -/
theorem receive_same {a a' : Agent} {draw : Nat}
    {remote : Member → String → String → Option ActivationResponse} {msg : Msg}
    (hm : ∀ ms, msg ≠ .members ms) (h : a.receive draw remote msg = .ok a') : SameMembership a a' := by
  cases msg with
  | members ms => exact absurd rfl (hm ms)
  | peer pm =>
    cases pm with
    | actorTopology ps => cases h; exact handleActorTopology_same a ps
    | activation p =>
      cases p with
      | none => cases h
      | some p => cases h; exact (addActivated_same a p).trans (emit_same _ _)
    | deactivation p => cases h; exact ⟨rfl, rfl⟩
  | activate kind config =>
    rw [receive_activate] at h; cases h; exact (activate_same a ..).trans (emit_same _ _)
  | activationRequest kind id =>
    rw [receive_activationRequest] at h; cases h
    exact (handleActivationRequest_same a ..).trans (emit_same _ _)
  | deactivate p => cases h; exact foldl_emit_same a _ _
  | getActive id kind => cases h; exact handleGetActive_same a id kind
  | _ => cases h; exact ⟨rfl, rfl⟩

/-- Within one receiver, a kind set that agrees with the members agrees after
every message it handles. -/
theorem KindsAgree.receive {a a' : Agent} (h : a.KindsAgree) {draw : Nat}
    {remote : Member → String → String → Option ActivationResponse} {msg : Msg}
    (hr : a.receive draw remote msg = .ok a') : a'.KindsAgree := by
  by_cases hm : ∃ ms, msg = .members ms
  · obtain ⟨ms, rfl⟩ := hm
    cases hr
    exact h.handleMembers ms
  · exact h.of_same (receive_same (fun ms he => hm ⟨ms, he⟩) hr)

/-- Within one receiver, along every run of its mailbox, a kind set that
agrees with the members keeps agreeing. -/
theorem run_kindsAgree {a a' : Agent} (h : a.KindsAgree) {inputs : List Input}
    (hr : a.run inputs = .ok a') : a'.KindsAgree := by
  induction inputs generalizing a with
  | nil => cases hr; exact h
  | cons i is ih =>
    simp only [Agent.run] at hr
    split at hr
    · exact ih (h.receive ‹_›) hr
    · cases hr

/-- An agent with no members, no kinds and no local kinds. -/
def bareAgent : Agent := ⟨MemberSet.empty, Map.empty, [], Map.empty, "10.0.0.1:4000", []⟩

/-- It hears of a shop, is asked for its kinds, and loses the shop. -/
def shopJoinsAndLeaves : List Input :=
  [⟨.members [⟨"n2", "10.0.0.2:4000", "default", ["shop"]⟩], 0, fun _ _ _ => none⟩,
    ⟨.getKinds, 0, fun _ _ _ => none⟩, ⟨.members [], 0, fun _ _ _ => none⟩]

theorem run_kindsAgree_shopJoinsAndLeaves :
    bareAgent.KindsAgree ∧ ∃ a, bareAgent.run shopJoinsAndLeaves = .ok a ∧ a.KindsAgree :=
  have h : bareAgent.KindsAgree := fun k =>
    iff_of_false (by simp [bareAgent]) (by simp [bareAgent, MemberSet.empty, MemberSet.slice, Map.values,
      Map.empty])
  ⟨h, _, rfl, run_kindsAgree h (rfl : bareAgent.run shopJoinsAndLeaves = _)⟩

/-! ## The first snapshot of a receiver -/

/-- The first snapshot an agent with no members handles: its members become
the snapshot's, and its kind set gains their kinds and keeps what it held. -/
theorem handleMembers_kinds_of_empty {a : Agent} (he : a.members.slice = []) (ms : List Member)
    (k : String) :
    (a.handleMembers ms).members.slice = (MemberSet.ofList ms).slice ∧
      (((a.handleMembers ms).kinds.get? k).isSome ↔
        (a.kinds.get? k).isSome ∨ ∃ m ∈ (MemberSet.ofList ms).slice, k ∈ m.kinds) := by
  have hjoined : (MemberSet.ofList ms).except a.members.slice = (MemberSet.ofList ms).slice := by
    simp [MemberSet.except, he]
  have hleft : a.members.except ms = [] := by simp [MemberSet.except, he]
  have hmembers : ((MemberSet.ofList ms).slice.foldl memberJoin a).members.slice =
      (MemberSet.ofList ms).slice := by
    rw [foldl_memberJoin_members, MemberSet.slice_foldl_add _ _ (hjoined ▸ (joined_new a ms).1)
      (hjoined ▸ (joined_new a ms).2), he, List.nil_append]
  simp only [handleMembers, hjoined, hleft, List.foldl_nil]
  exact ⟨hmembers, (isSome_get?_foldl_memberJoin a _ k).trans or_comm⟩

/-! ## The receivers of one producer -/

/-- `NewAgent(c)`'s `kinds` map as the producer builds it, from the kinds
registered on the node. -/
def newAgentKinds (localKinds : List String) : Map String Bool :=
  localKinds.foldl (fun ks k => ks.insert k true) Map.empty

/-- A receiver from `NewAgent(c)`'s producer: a new member set and activated
map, and the producer's one `kinds` map as the receivers before it left it. -/
def produce (address : String) (localKinds : List String) (kinds : Map String Bool)
    (out : List Out) : Agent :=
  ⟨MemberSet.empty, kinds, localKinds, Map.empty, address, out⟩

/-- The agent's process handling its mailbox, with `restartsLeft` restarts
before `MaxRestarts`. A panic in `Receive` hands `Stopped` to the receiver,
which ignores it; then, while restarts are left, a new receiver from the
producer handles the remaining messages (the rest of the batch replayed from
`mbuffer`, then the inbox), and with none left the process is cleaned up and
handles nothing more. -/
def life (restartsLeft : Nat) (a : Agent) : List Input → Agent
  | [] => a
  | i :: is =>
    match a.receive i.draw i.remote i.msg with
    | .ok a' => life restartsLeft a' is
    | .error _ =>
      match restartsLeft with
      | 0 => a
      | n + 1 => life n (produce a.address a.localKinds a.kinds a.out) is

theorem isSome_get?_foldl_insert (l : List String) (ks : Map String Bool) (k : String) :
    ((l.foldl (fun ks k => ks.insert k true) ks).get? k).isSome ↔ k ∈ l ∨ (ks.get? k).isSome := by
  induction l generalizing ks with
  | nil => simp
  | cons j l ih =>
    rw [List.foldl_cons, ih, Map.get?_insert]
    by_cases hk : k = j <;> simp [hk]

/-- The producer's first receiver: its first snapshot, when it holds members
advertising every local kind (the local member does), makes the kind set
agree with the members. -/
theorem first_snapshot_agrees (address : String) (localKinds : List String) (out : List Out)
    (ms : List Member) (hl : ∀ k ∈ localKinds, ∃ m ∈ (MemberSet.ofList ms).slice, k ∈ m.kinds) :
    ((produce address localKinds (newAgentKinds localKinds) out).handleMembers ms).KindsAgree := by
  intro k
  obtain ⟨hslice, hk⟩ := handleMembers_kinds_of_empty (a := produce address localKinds
    (newAgentKinds localKinds) out) rfl ms k
  rw [hk, hslice, produce, newAgentKinds, isSome_get?_foldl_insert]
  simp only [Map.get?_empty, Option.isSome_none, Bool.false_eq_true, or_false]
  exact ⟨fun h => h.elim (hl k) id, .inr⟩

/-- The node's own member, advertising the one kind registered locally. -/
def localPlayer : Member := ⟨"n1", "10.0.0.1:4000", "default", ["player"]⟩

/-- A member on another node, with a kind of its own. -/
def remoteShop : Member := ⟨"n2", "10.0.0.2:4000", "default", ["shop"]⟩

/-- The producer's first receiver on node `n1`. -/
def firstReceiver : Agent := produce "10.0.0.1:4000" ["player"] (newAgentKinds ["player"]) []

/-- A snapshot with both members; an `*Activation` with a nil PID, on which the
receiver panics; then the new receiver's first snapshot, after `n2` has left. -/
def restartInputs : List Input :=
  [⟨.members [localPlayer, remoteShop], 0, fun _ _ _ => none⟩,
    ⟨.peer (.activation none), 0, fun _ _ _ => none⟩,
    ⟨.members [localPlayer], 0, fun _ _ _ => none⟩]

/-- After the restart the only member is the local one, yet the kind set still
holds the kind of the member that left. -/
theorem kinds_outlive_restart :
    (life 3 firstReceiver restartInputs).members.slice = [localPlayer] ∧
      ((life 3 firstReceiver restartInputs).kinds.get? "shop").isSome ∧
      ¬ (life 3 firstReceiver restartInputs).KindsAgree := by
  have hslice : (life 3 firstReceiver restartInputs).members.slice = [localPlayer] := rfl
  have hshop : ((life 3 firstReceiver restartInputs).kinds.get? "shop").isSome := rfl
  refine ⟨hslice, hshop, fun h => ?_⟩
  obtain ⟨m, hm, hk⟩ := (h "shop").mp hshop
  rw [hslice, List.mem_singleton] at hm
  subst hm
  simp [localPlayer] at hk

end Agent

end Cluster
