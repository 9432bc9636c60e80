import DistributedFramework.Go
import DistributedFramework.Actor.Inbox

/-! `actor/types.go`: a process, the receivers it obtains from its `Producer`,
and its supervision by `recover`, `tryRestart` and `cleanup`.

A Go panic is `Unwind.panic`; the deferred handlers of `Invoke` and `Start`
are `recoverPanic` around the code they guard, and `defer cancel()` in
`cleanup` runs after the body whether or not it panicked. The receiver of each
incarnation is an oracle that sees every earlier delivery and says whether the
new one panics. `Start` and `tryRestart` call each other; `start` is given a
fuel bound on that recursion, and running out of it is `Unwind.outOfFuel`,
which no `recover` catches. `Supervision.lean` proves what the code does. -/

namespace Actor

/-- The values a panic carries, as far as `tryRestart` tells them apart. -/
inductive Panic where
  /-- a `*InternalError` -/
  | internalError
  /-- any other value a receiver panics with -/
  | value
  /-- the runtime error of calling a nil function -/
  | nilFuncCall
  deriving DecidableEq, Repr

/-- The `Msg` of an `Envelope`: a user message or the engine's `poisonPill`. -/
inductive Message where
  | user (m : Nat)
  /-- `poisonPill{cancel, graceful}`; `cancel` says whether the `CancelFunc` is non-nil -/
  | poisonPill (graceful cancel : Bool)
  deriving DecidableEq, Repr

/-- `Envelope{Msg, Sender}`; a sender pid is a number, `none` for nil. -/
structure Envelope where
  msg : Message
  sender : Option Nat
  deriving DecidableEq, Repr

/-- What a receiver is handed in `context.message` (and `context.sender`). -/
inductive Input where
  | user (m : Nat) (sender : Option Nat)
  | initialized
  | started
  | stopped
  deriving DecidableEq, Repr

/-- Whether a delivery goes through the chain `applyMiddleware` builds or calls
`receiver.Receive` itself. -/
inductive Route where
  | middleware
  | receiver
  deriving DecidableEq, Repr

/-- One call of a receiver: the instance `Producer` made (counted from 1), the
input, and the route. -/
structure Delivery where
  incarnation : Nat
  input : Input
  route : Route
  deriving DecidableEq, Repr

/-- The events a process broadcasts; timestamps and stack traces are left out. -/
inductive Event where
  | actorInitialized
  | actorStarted
  | actorRestarted (restarts : BitVec 32) (reason : Panic)
  | actorMaxRestartsExceeded
  | actorStopped
  deriving DecidableEq, Repr

/-- `Opts` as a process reads them. `MaxRestarts` is an `int32`; `receive` is the
behaviour of the receivers `Producer` makes: given the deliveries so far and a
new one, whether it panics. -/
structure Opts where
  maxRestarts : BitVec 32
  /-- `len(Middleware)` -/
  middleware : Nat
  receive : List Delivery → Delivery → Option Panic

/-- `defaultMaxRestarts`, the `MaxRestarts` of `DefaultOpts`. -/
def defaultMaxRestarts : BitVec 32 := 3

/-- `WithMaxRestarts(n)`: `opts.MaxRestarts = int32(n)`, which keeps the low 32
bits of `n`. -/
def withMaxRestarts (n : Int) (o : Opts) : Opts :=
  { o with maxRestarts := BitVec.ofInt 32 n }

/-- A process and what it writes outside itself: the status of its inbox, its
registry entry, the receivers' calls and the broadcast events. -/
structure Process where
  /-- the `int32` counter of restarts -/
  restarts : BitVec 32
  mbuffer : List Envelope
  /-- the receivers `Producer` has made; the last one is `context.receiver` -/
  incarnation : Nat
  /-- `procStatus` of `inbox` -/
  inbox : Status
  /-- whether `Registry` maps the pid's ID to this process -/
  registered : Bool
  /-- every call of a receiver, oldest first -/
  log : List Delivery
  /-- every `BroadcastEvent` of the process, oldest first -/
  events : List Event
  deriving DecidableEq, Repr

/-- How control leaves a call early: a Go panic, or the fuel of `start` running out. -/
inductive Unwind where
  | panic (v : Panic)
  | outOfFuel
  deriving DecidableEq, Repr

/-- Code of a process: it reads and writes `Process` and may unwind. -/
abbrev ProcM := EStateM Unwind Process

namespace Process
open Go

/-- `newProcess`, once `Registry.add` has stored it and is about to call `Start`. -/
def newProcess : Process :=
  ⟨0, [], 0, .stopped, true, [], []⟩

/-- `inbox.Start(p)` run to its end: the CAS `stopped → starting`, the swap to
`idle`, and `schedule()`, whose CAS `idle → running` schedules a drain task. -/
def inboxStart (p : Process) : Process :=
  if p.inbox = .stopped then { p with inbox := .running } else p

theorem inboxStart_inbox_ne (p : Process) : (inboxStart p).inbox ≠ .stopped := by
  unfold inboxStart; split <;> simp_all

/-- `recover()` in a deferred call: a panic of `x` becomes a value; running out
of fuel is not a panic and goes on. -/
def recoverPanic (x : ProcM Unit) : ProcM (Option Panic) :=
  tryCatch (x *> pure none) fun
    | .panic v => pure (some v)
    | .outOfFuel => throw .outOfFuel

section
variable {x : ProcM Unit} {p p' : Process}

theorem recoverPanic_of_ok (h : x p = .ok () p') : recoverPanic x p = .ok none p' := by
  rw [recoverPanic, tryCatch_apply, seqRight_apply, bind_apply_of_ok h]; rfl

theorem recoverPanic_of_panic {v : Panic} (h : x p = .error (.panic v) p') :
    recoverPanic x p = .ok (some v) p' := by
  rw [recoverPanic, tryCatch_apply, seqRight_apply, bind_apply_of_error h]; rfl

/-- `recover()` found no panic: the guarded code returned normally. -/
theorem eq_ok_of_recoverPanic_none (h : recoverPanic x p = .ok none p') : x p = .ok () p' := by
  cases hx : x p with
  | ok a s => rw [recoverPanic_of_ok hx] at h; cases h; rfl
  | error e s =>
    cases e with
    | panic v => rw [recoverPanic_of_panic hx] at h; cases h
    | outOfFuel =>
      rw [recoverPanic, tryCatch_apply, seqRight_apply, bind_apply_of_error hx] at h; cases h

end

/-- `engine.BroadcastEvent(ev)`. -/
def broadcastEvent (ev : Event) : ProcM Unit :=
  modify fun p => { p with events := p.events ++ [ev] }

@[simp] theorem broadcastEvent_apply (ev : Event) (p : Process) :
    broadcastEvent ev p = .ok () { p with events := p.events ++ [ev] } := rfl

section
variable (o : Opts)

/-- The current receiver is called with `input`, directly or through the middleware. -/
def deliver (route : Route) (input : Input) : ProcM Unit := do
  let p ← get
  let d : Delivery := ⟨p.incarnation, input, route⟩
  set { p with log := p.log ++ [d] }
  match o.receive p.log d with
  | some v => throw (.panic v)
  | none => pure ()

section
variable {p : Process} {route : Route} {input : Input}

theorem deliver_of_none (h : o.receive p.log ⟨p.incarnation, input, route⟩ = none) :
    deliver o route input p = .ok () { p with log := p.log ++ [⟨p.incarnation, input, route⟩] } := by
  simp only [deliver, get_bind_apply, set_bind_apply, h]; rfl

theorem deliver_of_some {v : Panic} (h : o.receive p.log ⟨p.incarnation, input, route⟩ = some v) :
    deliver o route input p =
      .error (.panic v) { p with log := p.log ++ [⟨p.incarnation, input, route⟩] } := by
  simp only [deliver, get_bind_apply, set_bind_apply, h]; rfl

end

/-- `invokeMsg(msg)`: a pill is dropped; a user message goes through the
middleware when there is some. -/
def invokeMsg (e : Envelope) : ProcM Unit :=
  match e.msg with
  | .poisonPill _ _ => pure ()
  | .user m => deliver o (if o.middleware > 0 then .middleware else .receiver) (.user m e.sender)

/-- The body of `cleanup`: stop the inbox, leave the registry, hand `Stopped` to
the receiver through the middleware, broadcast `ActorStoppedEvent`. The
children of the process are not modelled. -/
def cleanupBody : ProcM Unit := do
  modify fun p => { p with inbox := .stopped }
  modify fun p => { p with registered := false }
  deliver o .middleware .stopped
  broadcastEvent .actorStopped

/-- `cleanup(cancel)`: the body, then the deferred `cancel()`, which panics when
`cancel` is nil and so replaces any panic of the body. -/
def cleanup (cancel : Bool) : ProcM Unit := do
  let r ← recoverPanic (cleanupBody o)
  if !cancel then throw (.panic .nilFuncCall)
  match r with
  | some v => throw (.panic v)
  | none => pure ()

/-- The `for` loop of `Invoke(msgs)` over `rest`, with its counters `nproc` and
`processed`. It returns the panic that ends it, with the value of `nproc` that
the deferred handler of `Invoke` reads. -/
def invokeLoop (msgs : List Envelope) (nproc processed : Nat) :
    List Envelope → ProcM (Option (Panic × Nat))
  | [] => pure none
  | msg :: rest => do
    let nproc := nproc + 1
    match msg.msg with
    | .poisonPill graceful cancel =>
      let r ← recoverPanic do
        if graceful then (msgs.drop processed).forM (invokeMsg o)
        cleanup o cancel
      pure (r.map fun v => (v, nproc))
    | .user _ =>
      match ← recoverPanic (invokeMsg o msg) with
      | some v => pure (some (v, nproc))
      | none => invokeLoop msgs nproc (processed + 1) rest

/-- `Invoke(msgs)`, where `restart` stands for `tryRestart`. After a panic the
handler calls the receiver with `Stopped`, buffers `msgs[nproc:]` and restarts. -/
def invokeWith (restart : Panic → ProcM Unit) (msgs : List Envelope) : ProcM Unit := do
  match ← invokeLoop o msgs 0 0 msgs with
  | none => pure ()
  | some (v, nproc) =>
    deliver o .receiver .stopped
    modify fun p => { p with mbuffer := msgs.drop nproc }
    restart v

theorem invokeWith_of_panic {restart : Panic → ProcM Unit} {msgs : List Envelope} {p p' : Process}
    {v : Panic} {n : Nat} (h : invokeLoop o msgs 0 0 msgs p = .ok (some (v, n)) p') :
    invokeWith o restart msgs p =
      (do
        deliver o .receiver .stopped
        modify fun p => { p with mbuffer := msgs.drop n }
        restart v : ProcM Unit) p' :=
  bind_apply_of_ok h _

/-- The body of `Start` after `Producer()`: `Initialized` and `Started`, each
through the middleware and followed by its event, the replay of `mbuffer`,
and `inbox.Start(p)`. -/
def startBody (restart : Panic → ProcM Unit) : ProcM Unit := do
  deliver o .middleware .initialized
  broadcastEvent .actorInitialized
  deliver o .middleware .started
  broadcastEvent .actorStarted
  let p ← get
  if p.mbuffer.length > 0 then
    invokeWith o restart p.mbuffer
    modify fun p => { p with mbuffer := [] }
  modify inboxStart

/-- `Start()`, where `restart` stands for `tryRestart`: a new receiver from
`Producer`, then the body; after a panic the handler calls the current
receiver with `Stopped` and restarts. -/
def startWith (restart : Panic → ProcM Unit) : ProcM Unit := do
  modify fun p => { p with incarnation := p.incarnation + 1 }
  match ← recoverPanic (startBody o restart) with
  | none => pure ()
  | some v =>
    deliver o .receiver .stopped
    restart v

theorem startWith_of_panic {restart : Panic → ProcM Unit} {p p' : Process} {v : Panic}
    (h : startBody o restart { p with incarnation := p.incarnation + 1 } = .error (.panic v) p') :
    startWith o restart p = (do deliver o .receiver .stopped; restart v : ProcM Unit) p' := by
  simp only [startWith, modify_bind_apply]
  rw [bind_apply_of_ok (recoverPanic_of_panic h)]

/-- `tryRestart(v)`, where `start` stands for `Start`. An `InternalError`
restarts at once; otherwise the process is cleaned up with a nil `cancel`
once `restarts` has reached `MaxRestarts`, and restarted after counting the
restart if not. Logging and `RestartDelay` are left out. -/
def tryRestartWith (start : ProcM Unit) (v : Panic) : ProcM Unit := do
  if v = .internalError then start
  else
    let p ← get
    if p.restarts = o.maxRestarts then
      broadcastEvent .actorMaxRestartsExceeded
      cleanup o false
    else
      set { p with restarts := p.restarts + 1 }
      broadcastEvent (.actorRestarted (p.restarts + 1) v)
      start

/-- A restart below `MaxRestarts` counts it, broadcasts it and starts again. -/
theorem tryRestartWith_of_ne (start : ProcM Unit) (v : Panic) (hv : v ≠ .internalError) {p : Process}
    (hp : p.restarts ≠ o.maxRestarts) :
    tryRestartWith o start v p =
      start { p with restarts := p.restarts + 1, events := p.events ++ [.actorRestarted (p.restarts + 1) v] } := by
  simp [tryRestartWith, hv, hp]
  rfl

/-- `Start()`, allowed `fuel` nested restarts. -/
def start : Nat → ProcM Unit
  | 0 => throw .outOfFuel
  | fuel + 1 => startWith o (tryRestartWith o (start fuel))

/-- `tryRestart(v)`, allowed `fuel` nested restarts. -/
def tryRestart (fuel : Nat) : Panic → ProcM Unit :=
  tryRestartWith o (start o fuel)

/-- `Invoke(msgs)`, allowed `fuel` nested restarts. -/
def invoke (fuel : Nat) : List Envelope → ProcM Unit :=
  invokeWith o (tryRestart o fuel)

/-- `Shutdown()`. -/
def shutdown : ProcM Unit :=
  cleanup o false

/-- The `run()` loop of the drain task: each batch `PopN` returns is handed to
`Invoke` while the inbox is not stopped. -/
def run (fuel : Nat) : List (List Envelope) → ProcM Unit
  | [] => pure ()
  | b :: bs => do
    if (← get).inbox = .stopped then pure ()
    else
      invoke o fuel b
      run fuel bs

theorem run_cons {fuel : Nat} {b : List Envelope} {bs : List (List Envelope)} {p p' : Process}
    (hs : p.inbox ≠ .stopped) (h : invoke o fuel b p = .ok () p') :
    run o fuel (b :: bs) p = run o fuel bs p' := by
  simp only [run, get_bind_apply, if_neg hs]; exact bind_apply_of_ok h _

/-- A process from `Registry.add`: `Start`, then its inbox drained batch by batch. -/
def life (fuel : Nat) (batches : List (List Envelope)) : ProcM Unit := do
  start o fuel
  run o fuel batches

theorem life_of_start {fuel : Nat} {bs : List (List Envelope)} {p p' : Process}
    (h : start o fuel p = .ok () p') : life o fuel bs p = run o fuel bs p' :=
  bind_apply_of_ok h _

end

end Process
end Actor
