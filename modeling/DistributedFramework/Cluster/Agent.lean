import DistributedFramework.Go
import DistributedFramework.Actor.Engine
import DistributedFramework.Go.Map

/-! `cluster/agent.go` and `cluster/member_set.go`: the agent of a node, which
keeps the member set, the kinds the cluster can activate and the map of
activated actors, and the messages it handles.

A handler returns the new agent; what it does outside itself (sends to other
agents, events, `Poison`, `Spawn`, replies) is appended to `out`. Go maps are
`Go.Map`, iterated in the order of their entries. `Cluster` is reduced to what
the agent reads of it: the address of the node's engine. The random draw of
`SelectRandomMember` and the outcome of a remote `Request` are inputs of
`activate`. `Network.lean` runs agents against each other. -/

namespace Cluster
open Go

/-- `Member`. -/
structure Member where
  id : String
  host : String
  region : String
  kinds : List String
  deriving DecidableEq, Repr

namespace Member

/-- `Member.PID()`: the agent of the member's node. -/
def pid (m : Member) : Actor.PID := ⟨m.host, "cluster/" ++ m.id⟩

/-- `Member.HasKind`. -/
def hasKind (m : Member) (kind : String) : Bool := m.kinds.contains kind

end Member

/-- `MemberSet`: members keyed by their ID. -/
structure MemberSet where
  members : Map String Member
  keyed : ∀ e ∈ members.entries, e.1 = e.2.id

namespace MemberSet

/-- `NewMemberSet()`. -/
def empty : MemberSet := ⟨Map.empty, nofun⟩

/-- `MemberSet.Add`. -/
def add (s : MemberSet) (m : Member) : MemberSet :=
  ⟨s.members.insert m.id m, fun e he => by
    rcases (Map.mem_insert _ _ _).mp he with he | rfl
    · exact s.keyed e (Map.mem_of_mem_erase _ _ he)
    · rfl⟩

/-- `NewMemberSet(members...)`. -/
def ofList (ms : List Member) : MemberSet := ms.foldl add empty

/-- `MemberSet.Remove`. -/
def remove (s : MemberSet) (m : Member) : MemberSet :=
  ⟨s.members.erase m.id, fun e he => s.keyed e (Map.mem_of_mem_erase _ _ he)⟩

/-- `MemberSet.Slice`, and the order of `ForEach`. -/
def slice (s : MemberSet) : List Member := s.members.values

/-- `MemberSet.Except`: the members of the set whose ID is not one of `ms`'s. -/
def except (s : MemberSet) (ms : List Member) : List Member :=
  s.slice.filter fun m => m.id ∉ ms.map Member.id

/-- `MemberSet.FilterByKind`. -/
def filterByKind (s : MemberSet) (kind : String) : List Member :=
  s.slice.filter (·.hasKind kind)

end MemberSet

/-- `ActivationDetails`. -/
structure ActivationDetails where
  members : List Member
  region : String
  kind : String

/-- `SelectMemberFunc`; `none` is a nil `*Member`. -/
abbrev SelectMemberFunc := ActivationDetails → Option Member

/-- `SelectRandomMember`, given the draw of `rand.Intn(len(details.Members))`. -/
def selectRandomMember (draw : Nat) (details : ActivationDetails) : Option Member :=
  details.members[draw % details.members.length]?

/-- `ActivationConfig`; a nil `selectMember` is `none`. -/
structure ActivationConfig where
  id : String
  region : String
  selectMember : Option SelectMemberFunc

/-- `ActivationResponse`; a nil `PID` is `none`. -/
structure ActivationResponse where
  pid : Option Actor.PID
  success : Bool
  deriving DecidableEq, Repr

/-- The messages agents send one another: `*ActorTopology` (the PIDs of its
`ActorInfo`s), `*Activation` and `*Deactivation`. -/
inductive PeerMsg where
  | actorTopology (actors : List Actor.PID)
  | activation (pid : Option Actor.PID)
  | deactivation (pid : Actor.PID)
  deriving DecidableEq, Repr

/-- The messages `Agent.Receive` handles. -/
inductive Msg where
  | started
  | stopped
  | peer (msg : PeerMsg)
  /-- `*Members` from the provider -/
  | members (ms : List Member)
  | activate (kind : String) (config : ActivationConfig)
  | deactivate (pid : Actor.PID)
  /-- `*ActivationRequest{Kind, ID}` -/
  | activationRequest (kind id : String)
  | getMembers
  | getKinds
  | getActive (id kind : String)

/-- The events the agent broadcasts. -/
inductive Event where
  | memberJoin (m : Member)
  | memberLeave (m : Member)
  | activation (pid : Actor.PID)
  | deactivation (pid : Actor.PID)
  deriving DecidableEq, Repr

/-- What `c.Respond` sends back to the sender of the current message. -/
inductive Reply where
  | pid (pid : Option Actor.PID)
  | activationResponse (r : ActivationResponse)
  | members (ms : List Member)
  | kinds (ks : List String)
  | pids (ps : List Actor.PID)
  deriving DecidableEq, Repr

/-- What the agent does outside itself. -/
inductive Out where
  /-- `engine.Send(pid, msg)` to another agent -/
  | send (target : Actor.PID) (msg : PeerMsg)
  | broadcast (ev : Event)
  | poison (pid : Actor.PID)
  /-- `engine.Spawn` of a kind's producer, with the PID it returns -/
  | spawn (pid : Actor.PID)
  /-- `engine.Request(pid, &ActivationRequest{Kind, ID}, timeout)` -/
  | request (target : Actor.PID) (kind id : String)
  | respond (r : Reply)
  deriving DecidableEq, Repr

/-- `Agent`, with `address` for `a.cluster.engine.Address()` and the names of
`localKinds`. -/
structure Agent where
  members : MemberSet
  kinds : Map String Bool
  localKinds : List String
  activated : Map String Actor.PID
  address : String
  out : List Out

namespace Agent

/-- Appends to what the agent has done outside itself. -/
def emit (a : Agent) (o : Out) : Agent := { a with out := a.out ++ [o] }

/-- `addActivated`: the first PID seen for an ID is kept. -/
def addActivated (a : Agent) (pid : Actor.PID) : Agent :=
  if (a.activated.get? pid.id).isSome then a
  else { a with activated := a.activated.insert pid.id pid }

/-- `removeActivated`. -/
def removeActivated (a : Agent) (pid : Actor.PID) : Agent :=
  { a with activated := a.activated.erase pid.id }

/-- `bcast(msg)`: a send to the agent of every member, itself included when
it is a member. -/
def bcast (a : Agent) (msg : PeerMsg) : Agent :=
  a.members.slice.foldl (fun a m => a.emit (.send m.pid msg)) a

/-- `hasKindLocal`. -/
def hasKindLocal (a : Agent) (name : String) : Bool := a.localKinds.contains name

/-- `handleActorTopology`. -/
def handleActorTopology (a : Agent) (actors : List Actor.PID) : Agent :=
  actors.foldl addActivated a

/-- `handleDeactivation`. -/
def handleDeactivation (a : Agent) (pid : Actor.PID) : Agent :=
  ((a.removeActivated pid).emit (.poison pid)).emit (.broadcast (.deactivation pid))

/-- `handleActivation`. -/
def handleActivation (a : Agent) (pid : Actor.PID) : Agent :=
  (a.addActivated pid).emit (.broadcast (.activation pid))

/-- `handleActivationRequest`: a kind registered on this node is spawned with
the requested ID, under the PID `Spawn` returns whether or not the registry
already holds that ID. -/
def handleActivationRequest (a : Agent) (kind id : String) : Agent × ActivationResponse :=
  if !a.hasKindLocal kind then (a, ⟨none, false⟩)
  else
    let pid : Actor.PID := ⟨a.address, kind ++ "/" ++ id⟩
    (a.emit (.spawn pid), ⟨some pid, true⟩)

/-- `activate(kind, config)`, given the draw of `SelectRandomMember` and what a
remote activator answers (`none` when `Request(...).Result()` fails or the
reply is not an `*ActivationResponse`). It returns the PID the caller gets. -/
def activate (a : Agent) (kind : String) (config : ActivationConfig) (draw : Nat)
    (remote : Member → String → String → Option ActivationResponse) :
    Agent × Option Actor.PID :=
  let id := kind ++ "/" ++ config.id
  if (a.activated.get? id).isSome then (a, none)
  else
    let members := a.members.filterByKind kind
    if members.length = 0 then (a, none)
    else
      let select := config.selectMember.getD (selectRandomMember draw)
      match select ⟨members, config.region, kind⟩ with
      | none => (a, none)
      | some memberPID =>
        let activation : Agent × Option ActivationResponse :=
          if memberPID.host = a.address then
            let (a, r) := a.handleActivationRequest kind config.id
            (a, some r)
          else
            let a := a.emit (.request memberPID.pid kind config.id)
            match remote memberPID kind config.id with
            | none => (a, none)
            | some r => if !r.success then (a, none) else (a, some r)
        match activation with
        | (a, none) => (a, none)
        | (a, some r) => (a.bcast (.activation r.pid), r.pid)

/-- `rebuildKinds`: the kinds of the remaining members. -/
def rebuildKinds (a : Agent) : Agent :=
  { a with kinds := a.members.slice.foldl (fun ks m => m.kinds.foldl (fun ks k =>
      if (ks.get? k).isSome then ks else ks.insert k true) ks) Map.empty }

/-- `memberJoin`. -/
def memberJoin (a : Agent) (m : Member) : Agent :=
  let a := { a with
    members := a.members.add m
    kinds := m.kinds.foldl (fun ks k => if (ks.get? k).isSome then ks else ks.insert k true) a.kinds }
  let actorInfos := a.activated.values
  let a := if actorInfos.length > 0 then a.emit (.send m.pid (.actorTopology actorInfos)) else a
  a.emit (.broadcast (.memberJoin m))

/-- `memberLeave`: the activated actors on the member's host are dropped. -/
def memberLeave (a : Agent) (m : Member) : Agent :=
  let a := { a with members := a.members.remove m }.rebuildKinds
  let a := a.activated.values.foldl
    (fun a pid => if pid.address = m.host then a.removeActivated pid else a) a
  a.emit (.broadcast (.memberLeave m))

/-- `handleMembers`: members joined and left are computed by ID before either
loop runs. -/
def handleMembers (a : Agent) (ms : List Member) : Agent :=
  let joined := (MemberSet.ofList ms).except a.members.slice
  let left := a.members.except ms
  left.foldl memberLeave (joined.foldl memberJoin a)

/-- The loop of `handleGetActive` over `activated` for a kind: the PIDs whose ID
starts with the kind and a `/`. -/
def activeOfKind (kind : String) : List (String × Actor.PID) → List Actor.PID
  | [] => []
  | (id, pid) :: rest =>
    match id.splitOn "/" with
    | [] => []
    | k :: _ => if kind = k then pid :: activeOfKind kind rest else activeOfKind kind rest

/-- `handleGetActive`, which responds once for an ID and once more for a kind. -/
def handleGetActive (a : Agent) (id kind : String) : Agent :=
  let a := if id.length > 0 then a.emit (.respond (.pid (a.activated.get? id))) else a
  if kind.length > 0 then a.emit (.respond (.pids (activeOfKind kind a.activated.entries))) else a

/-- `Agent.Receive`, with the inputs of `activate`. An `*Activation` with a nil
`PID` makes `addActivated` dereference nil. -/
def receive (a : Agent) (draw : Nat) (remote : Member → String → String → Option ActivationResponse) :
    Msg → Except GoPanic Agent
  | .started | .stopped => pure a
  | .peer (.actorTopology actors) => pure (a.handleActorTopology actors)
  | .members ms => pure (a.handleMembers ms)
  | .peer (.activation none) => throw .nilDereference
  | .peer (.activation (some pid)) => pure (a.handleActivation pid)
  | .activate kind config =>
    let (a, pid) := a.activate kind config draw remote
    pure (a.emit (.respond (.pid pid)))
  | .deactivate pid => pure (a.bcast (.deactivation pid))
  | .peer (.deactivation pid) => pure (a.handleDeactivation pid)
  | .activationRequest kind id =>
    let (a, r) := a.handleActivationRequest kind id
    pure (a.emit (.respond (.activationResponse r)))
  | .getMembers => pure (a.emit (.respond (.members a.members.slice)))
  | .getKinds => pure (a.emit (.respond (.kinds a.kinds.keys)))
  | .getActive id kind => pure (a.handleGetActive id kind)

/-- A message the mailbox hands the agent, with the draw of `SelectRandomMember`
and what a remote activator answers while the agent handles it. -/
structure Input where
  msg : Msg
  draw : Nat
  remote : Member → String → String → Option ActivationResponse

/-- One receiver of the agent handling the messages of its mailbox one after
the other, in the order the mailbox hands them over, up to its first panic:
a result stated over `run` is about runs in which no message makes the agent
panic. `Agent.life` goes on past a panic, as `Invoke` does, with the
producer's next receiver. -/
def run (a : Agent) : List Input → Except GoPanic Agent
  | [] => .ok a
  | i :: is =>
    match a.receive i.draw i.remote i.msg with
    | .ok a => a.run is
    | .error e => .error e

end Agent

end Cluster
