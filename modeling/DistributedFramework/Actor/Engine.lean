import Mathlib.Data.List.Basic

/-! `actor/engine.go` and `actor/event_stream.go`: how the engine routes a
message, and the event stream that fans events out to its subscribers.

`send`, `SendLocal` and `BroadcastEvent` call each other: a send to a local pid
the registry does not know broadcasts a `DeadLetterEvent`, and a broadcast is a
send to the event stream. `broadcastEvent` is given a fuel bound on that
recursion, the only one in the three. The event stream is a process; a run
of it takes the oldest message of its inbox at each step.

Proved here:

* `run_unregistered`: with one subscriber that is a local pid the registry
  does not know, every step of the event stream turns the event it forwards
  into a new `DeadLetterEvent` for itself, so the inbox is never empty;
  `dead_letters_exceed_bound` is the run of two steps;
* `forward_to_registered`: when every subscriber is registered locally, the
  event stream hands each event to every subscriber and sends nothing to
  itself;
* `poison_ignores_address`: `sendPoisonPill` looks a pid up by its ID alone,
  so a pill for a pid of another node reaches the local process that has the
  same ID, where `send` would hand it to the remote. -/

namespace Actor

/-- `PID`. -/
structure PID where
  address : String
  id : String
  deriving DecidableEq, Repr

/-- A message as the engine and the event stream tell them apart. -/
inductive Msg where
  | eventSub (pid : PID)
  | eventUnsub (pid : PID)
  /-- `poisonPill{cancel, graceful}` -/
  | poisonPill (graceful : Bool)
  /-- `DeadLetterEvent{Target, Message, Sender}` -/
  | deadLetter (target : PID) (msg : Msg) (sender : Option PID)
  /-- `EngineRemoteMissingEvent{Target, Sender, Message}` -/
  | remoteMissing (target : PID) (sender : Option PID) (msg : Msg)
  /-- any other message or event -/
  | other (n : Nat)
  deriving DecidableEq, Repr

/-- Where a message the engine sends ends up: in the inbox of the process the
registry maps `id` to, or with the remote. -/
inductive Out where
  | local (id : String) (msg : Msg) (sender : Option PID)
  | remote (target : PID) (msg : Msg) (sender : Option PID)
  deriving DecidableEq, Repr

/-- `Engine`: its address, whether a remote is configured, the IDs its
registry maps, and `eventStream`. -/
structure Engine where
  address : String
  remote : Bool
  registry : List String
  eventStream : Option PID
  deriving DecidableEq, Repr

namespace Engine
variable (e : Engine)

/-- `Registry.get(pid) != nil`: the registry is keyed by `pid.ID` alone. -/
def registered (pid : PID) : Bool :=
  pid.id ∈ e.registry

/-- `isLocalMessage(pid)`. -/
def isLocalMessage (pid : PID) : Bool :=
  e.address == pid.address

/-- `SendLocal(pid, msg, sender)`, where `broadcast` stands for `BroadcastEvent`. -/
def sendLocalWith (broadcast : Msg → Option (List Out)) (pid : PID) (msg : Msg)
    (sender : Option PID) : Option (List Out) :=
  if e.registered pid then some [.local pid.id msg sender]
  else broadcast (.deadLetter pid msg sender)

/-- `send(pid, msg, sender)`, where `broadcast` stands for `BroadcastEvent`. -/
def sendWith (broadcast : Msg → Option (List Out)) (pid : Option PID) (msg : Msg)
    (sender : Option PID) : Option (List Out) :=
  match pid with
  | none => some []
  | some pid =>
    if e.isLocalMessage pid then e.sendLocalWith broadcast pid msg sender
    else if e.remote then some [.remote pid msg sender]
    else broadcast (.remoteMissing pid sender msg)

/-- `BroadcastEvent(msg)`, allowed `fuel` nested broadcasts; `none` when they
do not end within it. -/
def broadcastEvent : Nat → Msg → Option (List Out)
  | 0, _ => none
  | fuel + 1, msg => e.sendWith (broadcastEvent fuel) e.eventStream msg none

/-- `send(pid, msg, sender)`. -/
def send (fuel : Nat) : Option PID → Msg → Option PID → Option (List Out) :=
  e.sendWith (e.broadcastEvent fuel)

/-- `SendLocal(pid, msg, sender)`. -/
def sendLocal (fuel : Nat) : PID → Msg → Option PID → Option (List Out) :=
  e.sendLocalWith (e.broadcastEvent fuel)

/-- `sendPoisonPill(ctx, graceful, pid)`: a dead letter when the registry does
not know the pid, `SendLocal` of the pill otherwise. The context and its
`cancel` are not modelled. -/
def sendPoisonPill (fuel : Nat) (graceful : Bool) (pid : PID) : Option (List Out) :=
  if !e.registered pid then e.broadcastEvent fuel (.deadLetter pid (.poisonPill graceful) none)
  else e.sendLocal fuel pid (.poisonPill graceful) none

/-- `Stop(pid)`. -/
def stop (fuel : Nat) (pid : PID) : Option (List Out) :=
  e.sendPoisonPill fuel false pid

/-- `Poison(pid)`. -/
def poison (fuel : Nat) (pid : PID) : Option (List Out) :=
  e.sendPoisonPill fuel true pid

/-- `PoisonCtx(ctx, pid)`; the context is not modelled. -/
def poisonCtx (fuel : Nat) (pid : PID) : Option (List Out) :=
  e.sendPoisonPill fuel true pid

/-! ## The event stream -/

/-- Modelled from the spec: `Context.Forward(pid)`, whose source is not in the
repository, sends the current message with its sender to `pid` as
`Engine.send` does. -/
def forward (fuel : Nat) (pid : PID) (msg : Msg) (sender : Option PID) : Option (List Out) :=
  e.send fuel (some pid) msg sender

/-- `eventStream.Receive`: a subscription changes `subs`, any other message is
forwarded to every subscriber. Subscribers are told apart by value, and
`subs` is iterated in the order they subscribed. Logging is left out. -/
def receive (fuel : Nat) (subs : List PID) (msg : Msg) (sender : Option PID) :
    List PID × Option (List Out) :=
  match msg with
  | .eventSub pid => (if pid ∈ subs then subs else subs ++ [pid], some [])
  | .eventUnsub pid => (subs.erase pid, some [])
  | _ => (subs, (subs.mapM fun sub => e.forward fuel sub msg sender).map List.flatten)

/-- The event stream process: its subscribers, its inbox of messages with
their senders, and what it has sent to other processes or the remote. -/
structure Stream where
  subs : List PID
  inbox : List (Msg × Option PID)
  sent : List Out
  deriving DecidableEq, Repr

/-- An output of the event stream: back into its own inbox, or elsewhere. -/
def deliverOut (s : Stream) : Out → Stream
  | .local id msg sender =>
    if some id = e.eventStream.map PID.id then { s with inbox := s.inbox ++ [(msg, sender)] }
    else { s with sent := s.sent ++ [.local id msg sender] }
  | o => { s with sent := s.sent ++ [o] }

/-- The event stream receives the oldest message of its inbox. -/
def step (fuel : Nat) (s : Stream) : Option Stream :=
  match s.inbox with
  | [] => some s
  | (msg, sender) :: rest =>
    let (subs, outs) := e.receive fuel s.subs msg sender
    outs.map fun outs => outs.foldl e.deliverOut { s with subs, inbox := rest }

/-- `k` steps of the event stream. -/
def run (fuel : Nat) : Nat → Stream → Option Stream
  | 0, s => some s
  | k + 1, s => (e.step fuel s).bind (run fuel k)

/-- Whether `msg` changes the subscriptions instead of being forwarded. -/
def isSubscription : Msg → Bool
  | .eventSub _ | .eventUnsub _ => true
  | _ => false

theorem receive_of_not_subscription {msg : Msg} (h : isSubscription msg = false) (fuel : Nat)
    (subs : List PID) (sender : Option PID) :
    e.receive fuel subs msg sender =
      (subs, (subs.mapM fun sub => e.forward fuel sub msg sender).map List.flatten) := by
  cases msg <;> simp_all [isSubscription, receive]

/-! ## Sends to registered and unregistered local pids -/

section
variable {e} {pid : PID} (fuel : Nat) (msg : Msg) (sender : Option PID)

theorem send_registered (hl : e.isLocalMessage pid) (hr : e.registered pid) :
    e.send fuel (some pid) msg sender = some [.local pid.id msg sender] := by
  simp [send, sendWith, sendLocalWith, hl, hr]

/-- A send to a local pid the registry does not know becomes a dead letter in
the inbox of a registered, local event stream. -/
theorem send_unregistered {es : PID} (hes : e.eventStream = some es) (hesl : e.isLocalMessage es)
    (hesr : e.registered es) (hl : e.isLocalMessage pid) (hr : e.registered pid = false) :
    e.send (fuel + 1) (some pid) msg sender = some [.local es.id (.deadLetter pid msg sender) none] := by
  simp [send, sendWith, sendLocalWith, broadcastEvent, hes, hesl, hesr, hl, hr]

end

theorem mapM_eq_some_map {α β : Type} {f : α → Option β} {g : α → β} :
    ∀ {l : List α}, (∀ x ∈ l, f x = some (g x)) → l.mapM f = some (l.map g)
  | [], _ => rfl
  | x :: xs, h => by
    rw [List.mapM_cons, h x (List.mem_cons_self _ _),
      mapM_eq_some_map fun y hy => h y (List.mem_cons_of_mem _ hy)]
    rfl

theorem foldl_deliverOut_elsewhere {msg : Msg} {sender : Option PID} :
    ∀ {subs : List PID} (s : Stream), (∀ p ∈ subs, some p.id ≠ e.eventStream.map PID.id) →
      (subs.map fun p => Out.local p.id msg sender).foldl e.deliverOut s =
        { s with sent := s.sent ++ subs.map fun p => .local p.id msg sender }
  | [], s, _ => by simp
  | p :: ps, s, h => by
    have hp := h p (List.mem_cons_self _ _)
    simp only [List.map_cons, List.foldl_cons, deliverOut, if_neg hp]
    rw [foldl_deliverOut_elsewhere _ fun q hq => h q (List.mem_cons_of_mem _ hq)]
    simp

/-! ## Dead letters fed back to the event stream -/

/-- What an event becomes after `k` rounds through a subscriber `pid` that the
registry does not know: a dead letter of a dead letter, `k` deep. -/
def deadLetterChain (pid : PID) : Msg → Nat → Msg
  | msg, 0 => msg
  | msg, k + 1 => deadLetterChain pid (.deadLetter pid msg none) k

section
variable {e} {es gone : PID} (hes : e.eventStream = some es) (hesl : e.isLocalMessage es)
  (hesr : e.registered es) (hl : e.isLocalMessage gone) (hr : e.registered gone = false)
include hes hesl hesr hl hr

/-- One step of an event stream whose one subscriber is unknown to the registry:
the event comes back as a dead letter, and nothing else is sent. -/
theorem step_unregistered (fuel : Nat) {msg : Msg} (hmsg : isSubscription msg = false) :
    e.step (fuel + 1) ⟨[gone], [(msg, none)], []⟩ =
      some ⟨[gone], [(.deadLetter gone msg none, none)], []⟩ := by
  have hf : [gone].mapM (fun sub => e.forward (fuel + 1) sub msg none) =
      some [[.local es.id (.deadLetter gone msg none) none]] := by
    rw [List.mapM_cons, List.mapM_nil, forward, send_unregistered fuel msg none hes hesl hesr hl hr]
    rfl
  simp only [step, receive_of_not_subscription e hmsg]
  rw [hf]
  simp [deliverOut, hes]

theorem run_unregistered (fuel : Nat) (k : Nat) {msg : Msg} (hmsg : isSubscription msg = false) :
    e.run (fuel + 1) k ⟨[gone], [(msg, none)], []⟩ =
      some ⟨[gone], [(deadLetterChain gone msg k, none)], []⟩ := by
  induction k generalizing msg with
  | zero => rfl
  | succ k ih =>
    rw [run, step_unregistered hes hesl hesr hl hr fuel hmsg, Option.some_bind]
    exact ih rfl

end

/-- An engine at `local` without a remote, whose registry knows only its event stream. -/
def streamOnly : Engine :=
  ⟨"local", false, ["eventstream/1"], some ⟨"local", "eventstream/1"⟩⟩

/-- A subscriber that stopped without unsubscribing: two steps after one
broadcast event, two `DeadLetterEvent`s descend from it, more than the one
subscriber the registry does not know, and the event stream's inbox still
holds the second. `run_unregistered` gives the same for every number of steps. -/
theorem dead_letters_exceed_bound :
    streamOnly.run 1 2 ⟨[⟨"local", "gone"⟩], [(.other 0, none)], []⟩ =
      some ⟨[⟨"local", "gone"⟩],
        [(.deadLetter ⟨"local", "gone"⟩ (.deadLetter ⟨"local", "gone"⟩ (.other 0) none) none, none)],
        []⟩ :=
  @run_unregistered streamOnly ⟨"local", "eventstream/1"⟩ ⟨"local", "gone"⟩ rfl
    (by decide) (by decide) (by decide) (by decide) 0 2 (.other 0) rfl

/-! ## Subscribers the registry knows -/

/-- When every subscriber is a local pid the registry knows, other than the
event stream itself, the event stream hands each event to every subscriber and
sends nothing back to itself: the cascade of one `BroadcastEvent` ends after
one step, with no `DeadLetterEvent`. -/
theorem forward_to_registered (fuel : Nat) {subs : List PID} {msg : Msg} (sender : Option PID)
    (rest : List (Msg × Option PID)) (sent : List Out) (hmsg : isSubscription msg = false)
    (hsubs : ∀ p ∈ subs,
      e.isLocalMessage p ∧ e.registered p ∧ some p.id ≠ e.eventStream.map PID.id) :
    e.step fuel ⟨subs, (msg, sender) :: rest, sent⟩ =
      some ⟨subs, rest, sent ++ subs.map fun p => .local p.id msg sender⟩ := by
  simp only [step, receive_of_not_subscription e hmsg, forward]
  rw [mapM_eq_some_map fun p hp =>
    send_registered fuel msg sender (hsubs p hp).1 (hsubs p hp).2.1]
  have hflat : ∀ l : List PID,
      (l.map fun p => [Out.local p.id msg sender]).flatten = l.map fun p => .local p.id msg sender := by
    intro l; induction l <;> simp [*]
  simp only [Option.map_some', hflat]
  rw [foldl_deliverOut_elsewhere e _ fun p hp => (hsubs p hp).2.2]

/-- An engine at `local` whose registry knows its event stream and `probe`. -/
def withProbe : Engine :=
  ⟨"local", false, ["eventstream/1", "probe"], some ⟨"local", "eventstream/1"⟩⟩

theorem forward_to_registered_probe :
    isSubscription (.other 0) = false ∧
      (∀ p ∈ [(⟨"local", "probe"⟩ : PID)], withProbe.isLocalMessage p ∧ withProbe.registered p ∧
        some p.id ≠ withProbe.eventStream.map PID.id) ∧
      withProbe.step 1 ⟨[⟨"local", "probe"⟩], [(.other 0, none)], []⟩ =
        some ⟨[⟨"local", "probe"⟩], [], [] ++ [(⟨"local", "probe"⟩ : PID)].map fun p =>
          .local p.id (.other 0) none⟩ :=
  have hsubs : ∀ p ∈ [(⟨"local", "probe"⟩ : PID)], withProbe.isLocalMessage p ∧
      withProbe.registered p ∧ some p.id ≠ withProbe.eventStream.map PID.id := by decide
  ⟨rfl, hsubs, forward_to_registered withProbe 1 none [] [] rfl hsubs⟩

/-! ## Poison pills -/

/-- `sendPoisonPill` asks the registry by ID alone: a pill for a pid of another
node is put in the inbox of the local process registered under the same ID,
where `send` hands a message for that pid to the remote. -/
theorem poison_ignores_address (fuel : Nat) (graceful : Bool) {pid : PID}
    (hreg : e.registered pid) (hforeign : e.isLocalMessage pid = false) :
    e.sendPoisonPill fuel graceful pid = some [.local pid.id (.poisonPill graceful) none] ∧
      (e.remote = true →
        e.send fuel (some pid) (.poisonPill graceful) none =
          some [.remote pid (.poisonPill graceful) none]) := by
  refine ⟨by simp [sendPoisonPill, sendLocal, sendLocalWith, hreg], fun hr => ?_⟩
  simp [send, sendWith, hforeign, hr]

/-- An engine at address `A` with a remote, whose registry maps the ID `x`. -/
def nodeA : Engine :=
  ⟨"A", true, ["x"], none⟩

theorem poison_ignores_address_at_other_node :
    nodeA.registered ⟨"B", "x"⟩ ∧ nodeA.isLocalMessage ⟨"B", "x"⟩ = false ∧
      nodeA.sendPoisonPill 1 true ⟨"B", "x"⟩ = some [.local "x" (.poisonPill true) none] ∧
      (nodeA.remote = true →
        nodeA.send 1 (some ⟨"B", "x"⟩) (.poisonPill true) none =
          some [.remote ⟨"B", "x"⟩ (.poisonPill true) none]) :=
  have hreg : nodeA.registered ⟨"B", "x"⟩ := by decide
  have hforeign : nodeA.isLocalMessage ⟨"B", "x"⟩ = false := by decide
  ⟨hreg, hforeign, poison_ignores_address nodeA 1 true hreg hforeign⟩

end Engine
end Actor
