import DistributedFramework.Cluster.Kinds

/-! The agents of several nodes, run against each other.

A world holds the nodes, the messages in flight between senders and agents,
the replies callers received, and the processes that activations spawned. A
step either has a caller on some node send a message to an agent
(`Cluster.Activate`, `Cluster.Deactivate`, the provider's `Members`), or
delivers the oldest message in flight from one sender to one agent, which
handles it at once: messages from one sender to one agent keep their order,
messages from different senders interleave in any order.

`activate` blocks its agent while a remote activator answers; the answer is
what that activator's `handleActivationRequest` gives, which reads only the
activator's kinds and address. If the request times out, the caller gets nil
and the activator still handles the request later.

An agent that panics (on an `Activation` with a nil PID) is restarted as
`Invoke` restarts it: the message is dropped and a new receiver from
`NewAgent`'s producer, with an empty member set and activated map, handles
what follows (`Agent.life` is the same for one agent). Past `MaxRestarts`
the next panic ends the program.

`Engine.Poison(pid)` on a node stops the process of that node whose ID is
`pid`'s (`Registry.get` looks up IDs only), and a `Spawn` whose ID the node
already runs starts nothing.

Along every run, restarts included, every agent keeps its activated map keyed
(`run_keyed`), so an agent never maps an ID it holds to another PID
(`run_first_pid_kept`); an ID leaves the map only on a `Deactivation` or the
leave of its host. The runs here are of two nodes that both register a kind: two concurrent
activations at one agent are both answered (and, when the second selects the
other node, two processes run for the ID); two agents activating one ID at
once keep different PIDs for it, with a process on each node; and an agent
takes back a PID after it handled its `Deactivation` or the leave of its
host. -/

namespace Cluster
open Go

/-- A node of the cluster: the ID it was configured with, its agent, and the
restarts its agent's process has left before `MaxRestarts`. -/
structure Node where
  id : String
  agent : Agent
  restartsLeft : Nat

/-- The PID of a node's agent: `cluster/<id>` at the node's address. -/
def Node.pid (n : Node) : Actor.PID := ⟨n.agent.address, "cluster/" ++ n.id⟩

/-- Who sent a message: an agent, a caller on some node, or the `Response` of
an agent's `Request`, whose replies are dropped. -/
inductive Source where
  | agent (pid : Actor.PID)
  | caller (n : Nat)
  | request (pid : Actor.PID)
  deriving DecidableEq, Repr

/-- A message in flight to an agent. -/
structure Envelope where
  src : Source
  dst : Actor.PID
  msg : Msg

/-- The nodes, the messages in flight, the replies callers received (oldest
first), and the processes activations spawned and `Poison` has not stopped. -/
structure World where
  nodes : List Node
  inflight : List Envelope
  replies : List (Nat × Reply)
  live : List Actor.PID

/-- The oldest message of `es` satisfying `p`, and the others. -/
def takeFirst (p : Envelope → Bool) : List Envelope → Option (Envelope × List Envelope)
  | [] => none
  | e :: es => if p e then some (e, es) else (takeFirst p es).map fun r => (r.1, e :: r.2)

/-- `Registry.add` on the node at `pid.address`: nothing starts when that node
already runs a process with `pid`'s ID. -/
def spawnAt (live : List Actor.PID) (pid : Actor.PID) : List Actor.PID :=
  if live.any fun q => q.address = pid.address ∧ q.id = pid.id then live else live ++ [pid]

/-- `Engine.Poison(pid)` on the node at `address`: its process with `pid`'s ID stops. -/
def poisonAt (live : List Actor.PID) (address : String) (pid : Actor.PID) : List Actor.PID :=
  live.filter fun q => !(q.address = address ∧ q.id = pid.id)

namespace World

/-- The node whose agent has PID `pid`. -/
def node? (w : World) (pid : Actor.PID) : Option Node := w.nodes.find? (·.pid = pid)

/-- What a remote activator answers an agent's `Request`: `none` when the
request times out or no node runs that agent. -/
def answer (w : World) (timeout : Bool) (m : Member) (kind id : String) : Option ActivationResponse :=
  if timeout then none else (w.node? m.pid).map fun x => (x.agent.handleActivationRequest kind id).2

/-- The effect on the world of one thing node `n` did while handling a message
from `src`. -/
def apply (w : World) (n : Node) (src : Source) (timeout : Bool) : Out → World
  | .send target msg => { w with inflight := w.inflight ++ [⟨.agent n.pid, target, .peer msg⟩] }
  | .respond r =>
    match src with
    | .caller c => { w with replies := w.replies ++ [(c, r)] }
    | _ => w
  | .spawn pid => { w with live := spawnAt w.live pid }
  | .poison pid => { w with live := poisonAt w.live n.agent.address pid }
  | .request target kind id =>
    if timeout then
      { w with inflight := w.inflight ++ [⟨.request n.pid, target, .activationRequest kind id⟩] }
    else
      match w.node? target with
      | none => w
      | some x =>
        match (x.agent.handleActivationRequest kind id).2.pid with
        | some pid => { w with live := spawnAt w.live pid }
        | none => w
  | .broadcast _ => w

/-- Replaces the agent of node `n`. -/
def setAgent (w : World) (n : Node) (a : Agent) : World :=
  { w with nodes := w.nodes.map fun m => if m.pid = n.pid then { m with agent := a } else m }

/-- `Invoke`'s recover for the agent of node `n`: a new receiver from the
producer takes its place, and `k` restarts are left. -/
def restart (w : World) (n : Node) (k : Nat) : World :=
  { w with nodes := w.nodes.map fun m => if m.pid = n.pid then
      ⟨m.id, Agent.produce n.agent.address n.agent.localKinds n.agent.kinds [], k⟩ else m }

/-- Delivers the oldest message from `src` to `dst`; `draw` is the draw of
`SelectRandomMember` and `timeout` whether a remote activation times out. A
message to no agent is dropped. An agent that panics is restarted while it has
restarts left; past them, `cleanup(nil)` panics outside any recover and the
program exits, which ends the run. -/
def deliver (w : World) (src : Source) (dst : Actor.PID) (draw : Nat) (timeout : Bool) :
    Option World :=
  match takeFirst (fun e => e.src = src ∧ e.dst = dst) w.inflight with
  | none => none
  | some (e, rest) =>
    let w := { w with inflight := rest }
    match w.node? dst with
    | none => some w
    | some n =>
      match { n.agent with out := [] }.receive draw (w.answer timeout) e.msg with
      | .ok a => some ((a.out.foldl (fun w o => w.apply n src timeout o) w).setAgent n { a with out := [] })
      | .error _ =>
        match n.restartsLeft with
        | 0 => none
        | k + 1 => some (w.restart n k)

/-- A step of the cluster. -/
inductive Step where
  /-- a caller on some node sends `msg` to the agent `dst` -/
  | call (caller : Nat) (dst : Actor.PID) (msg : Msg)
  | deliver (src : Source) (dst : Actor.PID) (draw : Nat) (timeout : Bool)

def step (w : World) : Step → Option World
  | .call c dst msg => some { w with inflight := w.inflight ++ [⟨.caller c, dst, msg⟩] }
  | .deliver src dst draw timeout => w.deliver src dst draw timeout

/-- A run of steps; `none` if one of them cannot be taken. -/
def run (w : World) : List Step → Option World
  | [] => some w
  | s :: ss => (w.step s).bind (·.run ss)

/-! ## Every agent keys its map

Every step keeps each agent's map keyed: a message is handled by `receive`,
which keeps it so (`Agent.receive_keyed`), and a restart brings up an empty
map. So the one-message facts of `Activation.lean` hold at every reachable
world: whichever message an agent handles there, it never maps an ID it holds
to another PID. -/

/-- Every agent of the world maps each ID to a PID with that ID. -/
def Keyed (w : World) : Prop := ∀ n ∈ w.nodes, n.agent.Keyed

variable {w w' : World}

@[simp] theorem apply_nodes (n : Node) (src : Source) (timeout : Bool) (o : Out) :
    (w.apply n src timeout o).nodes = w.nodes := by
  unfold apply
  split <;> (try split) <;> (try split) <;> (try split) <;> rfl

theorem foldl_apply_nodes (n : Node) (src : Source) (timeout : Bool) (os : List Out) :
    ∀ w : World, (os.foldl (fun w o => w.apply n src timeout o) w).nodes = w.nodes := by
  induction os with
  | nil => exact fun _ => rfl
  | cons o os ih => exact fun w => (ih _).trans (apply_nodes n src timeout o)

theorem Keyed.setAgent (h : w.Keyed) (n : Node) {a : Agent} (ha : a.Keyed) : (w.setAgent n a).Keyed := by
  intro m hm
  obtain ⟨m₀, hm₀, rfl⟩ := List.mem_map.1 hm
  split_ifs
  · exact ha
  · exact h m₀ hm₀

theorem Keyed.restart (h : w.Keyed) (n : Node) (k : Nat) : (w.restart n k).Keyed := by
  intro m hm
  obtain ⟨m₀, hm₀, rfl⟩ := List.mem_map.1 hm
  split_ifs
  · exact fun _ _ h => nomatch h
  · exact h m₀ hm₀

theorem Keyed.deliver (h : w.Keyed) {src : Source} {dst : Actor.PID} {draw : Nat} {timeout : Bool}
    (hd : w.deliver src dst draw timeout = some w') : w'.Keyed := by
  unfold World.deliver at hd
  split at hd
  · cases hd
  · dsimp only at hd
    split at hd
    · cases hd; exact h
    · rename_i n hn
      have hk : ({ n.agent with out := [] } : Agent).Keyed := h n (List.mem_of_find?_eq_some hn)
      split at hd
      · rename_i a ha
        cases hd
        have ha' : a.Keyed := Agent.receive_keyed hk ha
        refine Keyed.setAgent (fun m hm => ?_) n ha'
        rw [foldl_apply_nodes] at hm
        exact h m hm
      · split at hd
        · cases hd
        · cases hd; exact Keyed.restart h n _

/-- Along every run every agent keys its map. -/
theorem run_keyed (h : w.Keyed) {steps : List Step} (hr : w.run steps = some w') : w'.Keyed := by
  induction steps generalizing w with
  | nil => cases hr; exact h
  | cons s ss ih =>
    simp only [run, Option.bind_eq_some] at hr
    obtain ⟨w₁, hs, hr⟩ := hr
    refine ih ?_ hr
    cases s with
    | call c dst msg => cases hs; exact h
    | deliver src dst draw timeout => exact h.deliver hs

/-- Along every run, restarts included, an agent of the world handling a
message never maps an ID it holds to another PID. -/
theorem run_first_pid_kept (h : w.Keyed) {steps : List Step} (hr : w.run steps = some w')
    {n : Node} (hn : n ∈ w'.nodes) {draw : Nat} {remote : Member → String → String → Option ActivationResponse}
    {msg : Msg} {a : Agent} (hrecv : n.agent.receive draw remote msg = .ok a) {k : String} {q q' : Actor.PID}
    (hq : n.agent.activated.get? k = some q) (hq' : a.activated.get? k = some q') : q' = q :=
  Agent.receive_get?_eq_of_get? (run_keyed h hr n hn) hrecv hq hq'

/-! Two nodes `A` and `B` that both register kind `player`, and whose agents have
handled the provider's snapshot of both. -/

def memberA : Member := ⟨"A", "10.0.0.1:4000", "default", ["player"]⟩

def memberB : Member := ⟨"B", "10.0.0.2:4000", "default", ["player"]⟩

/-- The node of member `m`, after its agent handled the snapshot `[A, B]`,
with the `MaxRestarts` of `DefaultOpts` left. -/
def nodeOf (m : Member) : Node :=
  ⟨m.id, { (Agent.handleMembers ⟨MemberSet.empty, Map.empty, ["player"], Map.empty, m.host, []⟩
    [memberA, memberB]) with out := [] }, 3⟩

def twoNodes : World := ⟨[nodeOf memberA, nodeOf memberB], [], [], []⟩

/-- `Cluster.Activate("player", {ID: "7"})`. -/
def activatePlayer7 : Msg := .activate "player" ⟨"7", "default", none⟩

/-- What the agent of node `n` maps `id` to. -/
def activatedAt (w : World) (n : Node) (id : String) : Option Actor.PID :=
  (w.node? n.pid).bind fun n => n.agent.activated.get? id

/-- `A` and `B` each activate `player/7` for a caller, choosing themselves, and
then handle both `Activation`s, each its own first. -/
def racingSteps : List Step :=
  [.call 1 memberA.pid activatePlayer7, .call 2 memberB.pid activatePlayer7,
    .deliver (.caller 1) memberA.pid 0 false, .deliver (.caller 2) memberB.pid 1 false,
    .deliver (.agent memberA.pid) memberA.pid 0 false, .deliver (.agent memberB.pid) memberB.pid 0 false,
    .deliver (.agent memberB.pid) memberA.pid 0 false, .deliver (.agent memberA.pid) memberB.pid 0 false]

/-- Two agents that activate one ID at the same time map it to different PIDs,
and the cluster runs a process for it on each node. -/
theorem racing_activations_diverge :
    ∃ w, twoNodes.run racingSteps = some w ∧
      activatedAt w (nodeOf memberA) "player/7" = some ⟨memberA.host, "player/7"⟩ ∧
      activatedAt w (nodeOf memberB) "player/7" = some ⟨memberB.host, "player/7"⟩ ∧
      w.live = [⟨memberA.host, "player/7"⟩, ⟨memberB.host, "player/7"⟩] :=
  ⟨_, rfl, rfl, rfl, rfl⟩

/-- Two callers on `A` ask for `player/7`, and `A` handles both requests before
the `Activation` the first one broadcast. -/
def concurrentSteps : List Step :=
  [.call 1 memberA.pid activatePlayer7, .call 2 memberA.pid activatePlayer7,
    .deliver (.caller 1) memberA.pid 0 false, .deliver (.caller 2) memberA.pid 0 false,
    .deliver (.agent memberA.pid) memberA.pid 0 false, .deliver (.agent memberA.pid) memberA.pid 0 false]

/-- The same two requests, the second selecting `B`. -/
def splitSteps : List Step :=
  [.call 1 memberA.pid activatePlayer7, .call 2 memberA.pid activatePlayer7,
    .deliver (.caller 1) memberA.pid 0 false, .deliver (.caller 2) memberA.pid 1 false,
    .deliver (.agent memberA.pid) memberA.pid 0 false, .deliver (.agent memberA.pid) memberA.pid 0 false]

/-- Both callers get a PID; when the second request selects `B`, the cluster
runs a process for `player/7` on each node, and `A` keeps the first PID. -/
theorem concurrent_activations_both_answered :
    (∃ w, twoNodes.run concurrentSteps = some w ∧
      w.replies = [(1, .pid (some ⟨memberA.host, "player/7"⟩)), (2, .pid (some ⟨memberA.host, "player/7"⟩))]) ∧
    ∃ w, twoNodes.run splitSteps = some w ∧
      w.replies = [(1, .pid (some ⟨memberA.host, "player/7"⟩)), (2, .pid (some ⟨memberB.host, "player/7"⟩))] ∧
      activatedAt w (nodeOf memberA) "player/7" = some ⟨memberA.host, "player/7"⟩ ∧
      w.live = [⟨memberA.host, "player/7"⟩, ⟨memberB.host, "player/7"⟩] :=
  ⟨⟨_, rfl, rfl⟩, _, rfl, rfl, rfl, rfl⟩

/-- `A` activates `player/7`; a caller on `B` deactivates it; `B` handles its
own `Deactivation` before the `Activation` from `A`, and `A` handles both. -/
def staleActivationSteps : List Step :=
  [.call 1 memberA.pid activatePlayer7, .deliver (.caller 1) memberA.pid 0 false,
    .call 2 memberB.pid (.deactivate ⟨memberA.host, "player/7"⟩),
    .deliver (.caller 2) memberB.pid 0 false,
    .deliver (.agent memberB.pid) memberB.pid 0 false, .deliver (.agent memberA.pid) memberB.pid 0 false,
    .deliver (.agent memberA.pid) memberA.pid 0 false, .deliver (.agent memberB.pid) memberA.pid 0 false]

/-- `A` activates `player/7`; the provider of `B` sends a snapshot without `A`,
which `B` handles before the `Activation` from `A`. -/
def staleLeaveSteps : List Step :=
  [.call 1 memberA.pid activatePlayer7, .deliver (.caller 1) memberA.pid 0 false,
    .call 2 memberB.pid (.members [memberB]), .deliver (.caller 2) memberB.pid 0 false,
    .deliver (.agent memberA.pid) memberB.pid 0 false]

/-- After it handled the `Deactivation`, `B` maps `player/7` again to the PID of
a process that is stopped; after it handled the leave of `A`, it maps
`player/7` to a PID at `A`'s host. -/
theorem removed_pid_comes_back :
    (∃ w, twoNodes.run staleActivationSteps = some w ∧
      activatedAt w (nodeOf memberB) "player/7" = some ⟨memberA.host, "player/7"⟩ ∧ w.live = []) ∧
    ∃ w, twoNodes.run staleLeaveSteps = some w ∧
      activatedAt w (nodeOf memberB) "player/7" = some ⟨memberA.host, "player/7"⟩ ∧
      ((w.node? (nodeOf memberB).pid).bind fun n => n.agent.members.members.get? memberA.id) = none :=
  ⟨⟨_, rfl, rfl, rfl⟩, _, rfl, rfl, rfl⟩

end World

end Cluster
