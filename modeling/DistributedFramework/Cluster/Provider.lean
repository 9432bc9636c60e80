import DistributedFramework.Cluster.Membership

/-! `cluster/event.go`: the `SelfManaged` provider, which keeps the member set
of the cluster as this node sees it and sends it to the agent as a `Members`
snapshot after every change.

The provider is reduced to its member set, the member it advertises
(`cluster.Member()`), the agent's PID, its own PID, its bootstrap members and
the sends it makes. The context, the pinger, the event-stream child and the
zeroconf discovery are left out; the child turns each
`RemoteUnreachableEvent{ListenAddr}` into `memberLeave{ListenAddr}`, which is
the message modelled here.

Proved here:

* `getByHost_spec`: `GetByHost` finds a member at a host exactly when there
  is one;
* `memberLeave_removes_one`: for every provider state and every address, a
  `memberLeave` panics on a nil member when no member has that host, and
  otherwise removes exactly one of the members at it and sends the new
  snapshot. -/

namespace Cluster
open Go

namespace MemberSet

/-- `MemberSet.GetByHost`: the last member at `host` in iteration order, or nil. -/
def getByHost (s : MemberSet) (host : String) : Option Member :=
  s.slice.foldl (fun theMember m => if m.host = host then some m else theMember) none

/-- `MemberSet.Contains(member)`, which reads `member.ID`. -/
def contains (s : MemberSet) (m : Member) : Bool := (s.members.get? m.id).isSome

/-- The members at `host`. -/
def atHost (s : MemberSet) (host : String) : List Member := s.slice.filter (·.host = host)

private theorem foldl_lastAtHost (host : String) : ∀ (l : List Member) (init : Option Member),
    (l.foldl (fun theMember m => if m.host = host then some m else theMember) init = init ∧
        ∀ m ∈ l, m.host ≠ host) ∨
      ∃ m ∈ l, m.host = host ∧
        l.foldl (fun theMember m => if m.host = host then some m else theMember) init = some m
  | [], _ => .inl ⟨rfl, nofun⟩
  | m :: l, init => by
    rw [List.foldl_cons]
    rcases foldl_lastAtHost host l (if m.host = host then some m else init) with ⟨h, hl⟩ | ⟨m', hm', hh, h⟩
    · by_cases hm : m.host = host
      · exact .inr ⟨m, List.mem_cons_self _ _, hm, by rw [h, if_pos hm]⟩
      · exact .inl ⟨by rw [h, if_neg hm], List.forall_mem_cons.mpr ⟨hm, hl⟩⟩
    · exact .inr ⟨m', List.mem_cons_of_mem _ hm', hh, h⟩

/-- `GetByHost` returns nil exactly when no member has the host, and otherwise
one of the members at it. -/
theorem getByHost_spec (s : MemberSet) (host : String) :
    (s.getByHost host = none ∧ ∀ m ∈ s.slice, m.host ≠ host) ∨
      ∃ m ∈ s.slice, m.host = host ∧ s.getByHost host = some m :=
  foldl_lastAtHost host s.slice none

theorem contains_of_mem {s : MemberSet} {m : Member} (h : m ∈ s.slice) : s.contains m = true := by
  simp [contains, mem_slice.mp h]

theorem slice_remove (s : MemberSet) (m : Member) :
    (s.remove m).slice = s.slice.filter (·.id != m.id) := by
  simp only [slice, remove, Map.values, Map.erase, List.filter_map]
  congr 1
  exact List.filter_congr fun e he => by simp [s.keyed e he]

/-- In a list of members with distinct IDs, one of them is the only one with its ID. -/
theorem length_filter_id_ne {l : List Member} (hnd : (l.map Member.id).Nodup) {m : Member}
    (hm : m ∈ l) : (l.filter (·.id != m.id)).length + 1 = l.length := by
  induction l with
  | nil => cases hm
  | cons x l ih =>
    rw [List.map_cons, List.nodup_cons] at hnd
    by_cases hx : x.id = m.id
    · have hl : l.filter (·.id != m.id) = l := List.filter_eq_self.mpr fun y hy => by
        have hy' : y.id ≠ x.id := fun he => hnd.1 (he ▸ List.mem_map_of_mem Member.id hy)
        simpa [← hx] using hy'
      simp [List.filter_cons, hx, hl]
    · have hm' : m ∈ l := (List.mem_cons.mp hm).resolve_left fun he => hx (he ▸ rfl)
      simp [List.filter_cons, hx, ih hnd.2 hm']

/-- Removing a member at `host` leaves one member fewer at it. -/
theorem length_atHost_remove {s : MemberSet} {m : Member} {host : String} (hm : m ∈ s.slice)
    (hh : m.host = host) : ((s.remove m).atHost host).length + 1 = (s.atHost host).length := by
  have hmem : m ∈ s.atHost host := List.mem_filter.mpr ⟨hm, by simp [hh]⟩
  have hnd : ((s.atHost host).map Member.id).Nodup :=
    (nodup_ids s).sublist ((List.filter_sublist _).map _)
  rw [atHost, slice_remove, List.filter_filter, ← length_filter_id_ne hnd hmem, atHost,
    List.filter_filter]
  simp only [Bool.and_comm]

end MemberSet

/-- `MemberAddr`. -/
structure MemberAddr where
  listenAddr : String
  id : String
  deriving DecidableEq, Repr

/-- `memberToProviderPID`. -/
def memberToProviderPID (m : Member) : Actor.PID := ⟨m.host, "provider/" ++ m.id⟩

/-- What the provider sends through the engine. -/
inductive SelfManaged.Out where
  /-- `&Members{Members}` -/
  | members (target : Actor.PID) (members : List Member)
  /-- `&Handshake{Member}`, sent with a sender -/
  | handshake (target : Actor.PID) (member : Member) (sender : Actor.PID)
  /-- `&actor.Ping{From}` -/
  | ping (target : Actor.PID) (sender : Actor.PID)
  deriving DecidableEq, Repr

/-- The messages `SelfManaged.Receive` tells apart; a `*Handshake` from a nil
sender has `sender = none`. -/
inductive SelfManaged.Msg where
  | started
  | stopped
  | handshake (sender : Option Actor.PID) (member : Member)
  | members (members : List Member)
  | memberPing
  | memberLeave (listenAddr : String)
  | ping
  | initialized
  deriving DecidableEq, Repr

/-- `SelfManaged`, with `cluster` reduced to the member it advertises
(`cluster.Member()`) and the agent's PID (`cluster.PID()`), and `pid` the
PID of the provider's own process. -/
structure SelfManaged where
  bootstrapMembers : List MemberAddr
  localMember : Member
  agentPID : Actor.PID
  pid : Actor.PID
  members : MemberSet
  out : List SelfManaged.Out

namespace SelfManaged

/-- A send through the engine. -/
def emit (s : SelfManaged) (o : Out) : SelfManaged := { s with out := s.out ++ [o] }

/-- `sendMembersToAgent`. -/
def sendMembersToAgent (s : SelfManaged) : SelfManaged :=
  s.emit (.members s.agentPID s.members.slice)

/-- `addMembers(members...)`. -/
def addMembers (s : SelfManaged) (ms : List Member) : SelfManaged :=
  (ms.foldl (fun s m => if s.members.contains m then s else { s with members := s.members.add m })
    s).sendMembersToAgent

/-- `removeMember(member)`: `Contains` reads `member.ID`, so a nil member panics. -/
def removeMember (s : SelfManaged) (member : Option Member) : Except GoPanic SelfManaged := do
  let some member := member | throw .nilDereference
  let s := if s.members.contains member then { s with members := s.members.remove member } else s
  pure s.sendMembersToAgent

/-- `handleMemberPing`: a `Ping` to the provider of every member on another
host than the agent. -/
def handleMemberPing (s : SelfManaged) : SelfManaged :=
  s.members.slice.foldl (fun s' m =>
    if m.host ≠ s.agentPID.address then s'.emit (.ping (memberToProviderPID m) s.pid) else s') s

/-- The handshakes `start` sends to the bootstrap members. -/
def start (s : SelfManaged) : SelfManaged :=
  s.bootstrapMembers.foldl (fun s' b =>
    s'.emit (.handshake ⟨b.listenAddr, "provider/" ++ b.id⟩ s.localMember s.pid)) s

/-- `SelfManaged.Receive`. `Stopped` stops the pinger, the subscription and the
announcer, none of which is modelled; a reply to a nil sender is dropped by
`engine.Send`. -/
def receive (s : SelfManaged) : Msg → Except GoPanic SelfManaged
  | .started => pure { s with members := s.members.add s.localMember }.sendMembersToAgent.start
  | .stopped | .ping | .initialized => pure s
  | .handshake sender m =>
    let s := s.addMembers [m]
    pure (match sender with
      | some target => s.emit (.members target s.members.slice)
      | none => s)
  | .members ms => pure (s.addMembers ms)
  | .memberPing => pure s.handleMemberPing
  | .memberLeave listenAddr => s.removeMember (s.members.getByHost listenAddr)

/-- For every provider state and every address: when no member has that host,
`GetByHost` returns nil and `removeMember` panics reading its ID; otherwise
one member at that host is removed, the others at it stay, and the snapshot
sent to the agent is the new member set. -/
theorem memberLeave_removes_one (s : SelfManaged) (host : String) :
    ((s.members.atHost host).length = 0 → s.receive (.memberLeave host) = .error .nilDereference) ∧
      (0 < (s.members.atHost host).length → ∃ s', s.receive (.memberLeave host) = .ok s' ∧
        (s'.members.atHost host).length + 1 = (s.members.atHost host).length ∧
        s'.out = s.out ++ [.members s.agentPID s'.members.slice]) := by
  rcases s.members.getByHost_spec host with ⟨hnone, hall⟩ | ⟨m, hm, hh, hsome⟩
  · have hlen : (s.members.atHost host).length = 0 := by
      simpa [MemberSet.atHost, List.filter_eq_nil_iff] using hall
    exact ⟨fun _ => by simp [receive, hnone, removeMember]; rfl, fun h => absurd hlen (by omega)⟩
  · have hlen := MemberSet.length_atHost_remove hm hh
    refine ⟨fun h => absurd h (by omega),
      fun _ => ⟨{ s with members := s.members.remove m }.sendMembersToAgent, ?_, hlen, rfl⟩⟩
    simp [receive, hsome, removeMember, MemberSet.contains_of_mem hm]
    rfl

end SelfManaged

end Cluster
