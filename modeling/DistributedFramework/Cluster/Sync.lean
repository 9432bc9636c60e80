import DistributedFramework.Cluster.Provider
import DistributedFramework.Cluster.Kinds

/-! The provider and the agent of one node together (`cluster/event.go`,
`cluster/agent.go`): the agent's member set follows the provider's.

The provider sends its whole member set to the agent after every change
(`sendMembersToAgent`), and the agent sets its member IDs to those of each
snapshot it handles (`handleMembers`). Whatever the provider is sent, in
whatever order, the last snapshot it has sent the agent is its member set
(`Synced`, kept by every message it handles without panicking). So an agent
that has handled exactly those snapshots, in order and with any other
messages between them, holds exactly the provider's member IDs. Only the IDs
follow: a member that reappears at another host keeps its old host at the
agent (Membership.lean).

Proved here:

* `SelfManaged.run_synced`: along every run of the provider, the last
  snapshot sent to the agent is the member set;
* `Agent.run_members_isSome_iff`: along every run of the agent, its member IDs
  are those of the last snapshot it handled;
* `agent_ids_follow_provider`: a provider and an agent fresh from their
  producers, each run on its own mailbox, the agent's holding the provider's
  snapshots: the agent holds exactly the provider's member IDs. -/

namespace Cluster
open Go

namespace SelfManaged

/-- A receiver from `NewSelfManagedProvider(config)(c)`: an empty member set,
nothing sent yet. -/
def produce (bootstrapMembers : List MemberAddr) (localMember : Member) (agentPID pid : Actor.PID) :
    SelfManaged :=
  ⟨bootstrapMembers, localMember, agentPID, pid, MemberSet.empty, []⟩

/-- The provider handling the messages of its mailbox one after the other; a
panic ends the run. -/
def run (s : SelfManaged) : List Msg → Except GoPanic SelfManaged
  | [] => .ok s
  | m :: ms =>
    match s.receive m with
    | .ok s => s.run ms
    | .error e => .error e

/-- The members of a `Members` sent to `pid`. -/
def Out.snapshotFor (pid : Actor.PID) : Out → Option (List Member)
  | .members target ms => if target = pid then some ms else none
  | _ => none

/-- The member lists of the `Members` the provider has sent to the agent, oldest first. -/
def agentSnapshots (s : SelfManaged) : List (List Member) :=
  s.out.filterMap (Out.snapshotFor s.agentPID)

/-- The last snapshot sent to the agent is the member set; before the first,
the set is empty. -/
def Synced (s : SelfManaged) : Prop :=
  s.agentSnapshots.getLast? = some s.members.slice ∨ s.agentSnapshots = [] ∧ s.members.slice = []

theorem synced_produce (bootstrapMembers : List MemberAddr) (localMember : Member)
    (agentPID pid : Actor.PID) : (produce bootstrapMembers localMember agentPID pid).Synced :=
  .inr ⟨rfl, rfl⟩

theorem agentSnapshots_emit (s : SelfManaged) (o : Out) :
    (s.emit o).agentSnapshots = s.agentSnapshots ++ (o.snapshotFor s.agentPID).toList := by
  simp only [agentSnapshots, emit, List.filterMap_append]
  cases h : o.snapshotFor s.agentPID <;> simp [h]

/-- Sending the member set, to the agent or to anyone else, keeps the provider synced. -/
theorem Synced.emit_members {s : SelfManaged} (h : s.Synced) (target : Actor.PID) :
    (s.emit (.members target s.members.slice)).Synced := by
  unfold Synced
  rw [agentSnapshots_emit]
  by_cases ht : target = s.agentPID
  · exact .inl (by simp [Out.snapshotFor, ht]; rfl)
  · simpa [Out.snapshotFor, ht] using h

theorem synced_sendMembersToAgent (s : SelfManaged) : s.sendMembersToAgent.Synced := by
  unfold Synced sendMembersToAgent
  rw [agentSnapshots_emit]
  exact .inl (by simp [Out.snapshotFor]; rfl)

theorem synced_addMembers (s : SelfManaged) (ms : List Member) : (s.addMembers ms).Synced :=
  synced_sendMembersToAgent _

/-- `s'` holds `s`'s members and has sent the agent nothing more. -/
structure Quiet (s s' : SelfManaged) : Prop where
  members : s'.members = s.members
  agentPID : s'.agentPID = s.agentPID
  snapshots : s'.agentSnapshots = s.agentSnapshots

theorem Quiet.synced {s s' : SelfManaged} (hq : Quiet s s') (h : s.Synced) : s'.Synced := by
  unfold Synced; rwa [hq.snapshots, hq.members]

theorem quiet_emit (s : SelfManaged) {o : Out} (ho : o.snapshotFor s.agentPID = none) :
    Quiet s (s.emit o) :=
  ⟨rfl, rfl, by simp [agentSnapshots_emit, ho]⟩

theorem quiet_foldl {β : Type} {g : SelfManaged → β → SelfManaged} (hg : ∀ s x, Quiet s (g s x)) :
    ∀ (l : List β) (s : SelfManaged), Quiet s (l.foldl g s)
  | [], s => ⟨rfl, rfl, rfl⟩
  | x :: l, s => by
    have h₁ := hg s x
    have h₂ := quiet_foldl hg l (g s x)
    exact ⟨h₂.members.trans h₁.members, h₂.agentPID.trans h₁.agentPID,
      h₂.snapshots.trans h₁.snapshots⟩

/-- `handleMemberPing` only pings providers. -/
theorem quiet_handleMemberPing (s : SelfManaged) : Quiet s s.handleMemberPing :=
  quiet_foldl (fun s' _ => by split; exacts [quiet_emit s' (by rfl), ⟨rfl, rfl, rfl⟩]) _ _

/-- `start` only sends handshakes. -/
theorem quiet_start (s : SelfManaged) : Quiet s s.start :=
  quiet_foldl (fun s' _ => quiet_emit s' (by rfl)) _ _

/-- Every message the provider handles without panicking leaves it synced. -/
theorem Synced.receive {s s' : SelfManaged} (h : s.Synced) {m : Msg} (hr : s.receive m = .ok s') :
    s'.Synced := by
  cases m with
  | started =>
    cases hr; exact (quiet_start _).synced (synced_sendMembersToAgent _)
  | stopped | ping | initialized => cases hr; exact h
  | handshake sender member =>
    cases hr
    cases sender with
    | none => exact synced_addMembers _ _
    | some target => exact (synced_addMembers _ _).emit_members target
  | members ms => cases hr; exact synced_addMembers _ _
  | memberPing => cases hr; exact (quiet_handleMemberPing s).synced h
  | memberLeave host =>
    change s.removeMember (s.members.getByHost host) = .ok s' at hr
    revert hr
    cases s.members.getByHost host with
    | none => intro hr; cases hr
    | some m => intro hr; cases hr; exact synced_sendMembersToAgent _

theorem run_synced {s s' : SelfManaged} (h : s.Synced) {msgs : List Msg} (hr : s.run msgs = .ok s') :
    s'.Synced := by
  induction msgs generalizing s with
  | nil => cases hr; exact h
  | cons m ms ih =>
    simp only [run] at hr
    split at hr
    · exact ih (h.receive ‹_›) hr
    · cases hr

end SelfManaged

/-- The members a snapshot carries. -/
def Msg.snapshot : Msg → Option (List Member)
  | .members ms => some ms
  | _ => none

theorem Msg.eq_of_snapshot {m : Msg} {ms : List Member} (h : m.snapshot = some ms) :
    m = .members ms := by
  cases m <;> cases h; rfl

theorem Msg.ne_of_snapshot {m : Msg} (h : m.snapshot = none) : ∀ ms, m ≠ .members ms := by
  rintro ms rfl; cases h

namespace Agent

/-- The member lists of the snapshots among the agent's inputs, in order. -/
def snapshots (inputs : List Input) : List (List Member) :=
  inputs.filterMap (·.msg.snapshot)

theorem snapshots_cons (i : Input) (is : List Input) :
    snapshots (i :: is) = i.msg.snapshot.toList ++ snapshots is := by
  simp only [snapshots, List.filterMap_cons]; cases i.msg.snapshot <;> rfl

/-- Along every run of the agent, its member IDs are those of the last
snapshot it handled, or, before the first, those it started with. -/
theorem run_members_isSome_iff {a a' : Agent} {inputs : List Input} (hr : a.run inputs = .ok a')
    (k : String) :
    (a'.members.members.get? k).isSome ↔
      match (snapshots inputs).getLast? with
      | some ms => k ∈ ms.map Member.id
      | none => (a.members.members.get? k).isSome := by
  induction inputs generalizing a with
  | nil => cases hr; rfl
  | cons i is ih =>
    simp only [run] at hr
    split at hr
    next b hb =>
      rw [ih hr, snapshots_cons, List.getLast?_append]
      cases (snapshots is).getLast? with
      | some _ => rfl
      | none =>
        rw [Option.none_or]
        cases hs : i.msg.snapshot with
        | none => rw [(receive_same (Msg.ne_of_snapshot hs) hb).members]; rfl
        | some ms =>
          rw [Msg.eq_of_snapshot hs] at hb
          cases hb
          exact handleMembers_isSome_iff a ms k
    next => cases hr

end Agent

/-- A provider and an agent fresh from their producers, each handling its own
mailbox without panicking: when the agent has handled exactly the snapshots
the provider sent it, in order and with any other messages between them, it
holds exactly the provider's member IDs, whatever the provider was sent and in
whatever order. -/
theorem agent_ids_follow_provider (bootstrapMembers : List MemberAddr) (localMember : Member)
    (agentPID pid : Actor.PID) (msgs : List SelfManaged.Msg) {s : SelfManaged}
    (hs : (SelfManaged.produce bootstrapMembers localMember agentPID pid).run msgs = .ok s)
    (address : String) (localKinds : List String) (kinds : Map String Bool) (out : List Out)
    (inputs : List Agent.Input) {a : Agent}
    (ha : (Agent.produce address localKinds kinds out).run inputs = .ok a)
    (hsnap : Agent.snapshots inputs = s.agentSnapshots) (k : String) :
    (a.members.members.get? k).isSome ↔ (s.members.members.get? k).isSome := by
  rw [Agent.run_members_isSome_iff ha, hsnap]
  rcases SelfManaged.run_synced (SelfManaged.synced_produce ..) hs with hl | ⟨he, hsl⟩
  · rw [hl, MemberSet.isSome_get?_iff (s := s.members)]
  · rw [List.getLast?_eq_none_iff.mpr he, MemberSet.isSome_get?_iff (s := s.members), hsl]
    exact iff_of_false (by simp [Agent.produce, MemberSet.empty]) (List.not_mem_nil k)

/-- The member of the node, and a member that joins and leaves. -/
def syncPlayer : Member := ⟨"n1", "10.0.0.1:4000", "default", ["player"]⟩

def syncShop : Member := ⟨"n2", "10.0.0.2:4000", "default", ["shop"]⟩

/-- The provider starts, hears a handshake from the shop's node, pings, and
loses the shop's host. -/
def joinLeaveMsgs : List SelfManaged.Msg :=
  [.initialized, .started, .handshake none syncShop, .memberPing, .memberLeave "10.0.0.2:4000"]

/-- The agent's mailbox: the three snapshots, with requests between them. -/
def joinLeaveInputs : List Agent.Input :=
  [⟨.started, 0, fun _ _ _ => none⟩, ⟨.members [syncPlayer], 0, fun _ _ _ => none⟩,
    ⟨.getMembers, 0, fun _ _ _ => none⟩, ⟨.members [syncPlayer, syncShop], 0, fun _ _ _ => none⟩,
    ⟨.getKinds, 0, fun _ _ _ => none⟩, ⟨.members [syncPlayer], 0, fun _ _ _ => none⟩]

theorem agent_ids_follow_provider_join_leave :
    ∃ s a, (SelfManaged.produce [] syncPlayer ⟨"10.0.0.1:4000", "cluster/n1"⟩
        ⟨"10.0.0.1:4000", "provider/n1"⟩).run joinLeaveMsgs = .ok s ∧
      (Agent.produce "10.0.0.1:4000" ["player"] (Agent.newAgentKinds ["player"]) []).run
        joinLeaveInputs = .ok a ∧
      Agent.snapshots joinLeaveInputs = s.agentSnapshots ∧
      ((a.members.members.get? "n2").isSome ↔ (s.members.members.get? "n2").isSome) :=
  ⟨_, _, rfl, rfl, rfl, agent_ids_follow_provider [] syncPlayer ⟨"10.0.0.1:4000", "cluster/n1"⟩
    ⟨"10.0.0.1:4000", "provider/n1"⟩ joinLeaveMsgs rfl "10.0.0.1:4000" ["player"]
    (Agent.newAgentKinds ["player"]) [] joinLeaveInputs rfl rfl "n2"⟩

end Cluster
