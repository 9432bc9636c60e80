import Mathlib.Data.List.Basic

/-! `remote/remote.go`: `New`, `Start` and `Stop` of a `Remote`, called from
goroutines whose steps interleave.

`Start` and `Stop` read and write `state` with separate atomic loads and
stores, so each call is a sequence of steps, and the steps of concurrent calls
interleave in any order. `net.Listen` and `DRPCRegisterRemote` may fail; the
network stack's answer is chosen at the step that makes the call. A `Start`
that gets past both makes the stop channel and starts the goroutine that waits
on it. `Stop` reads `r.stopCh` and sends on it; the send completes only when
that goroutine receives, which it does once, and a send on a nil channel
never completes. The drpc server, the context and the router's work are left
out: what is kept is what the calls leave behind, namely the state, the stop
channel, the listeners opened and the routers spawned.

Proved here:

* `blocked_forever`: a `Stop` whose send has no receiver, because the channel
  is nil or its goroutine has already received, stays blocked along every
  continuation of the run;
* `serial_stop_never_blocks`: when the calls run one after another and every
  `Start` gets past the network stack, every call returns, so no `Stop` blocks,
  and at most one `Stop` sends;
* `lifecycle_hazards`: a failed `Start` leaves the remote running, a retried
  `Start` is refused and a later `Stop` blocks forever; a failed registration
  leaves its listener open; and of two concurrent `Stop`s after a successful
  `Start`, one blocks forever. -/

namespace Remote.Lifecycle

/-- The values of `Remote.state`. -/
inductive State where
  | invalid
  | initialized
  | running
  | stopped
  deriving DecidableEq, Repr

/-- The fields of `Remote` that `Start` and `Stop` touch, with what they leave
open outside it: the listeners opened and not closed, and the routers
spawned. A channel is named by the number of channels made before it;
`waiting` holds the channels whose waiting goroutine has not yet received. -/
structure Remote where
  state : State
  stopCh : Option Nat
  made : Nat
  waiting : List Nat
  listeners : Nat
  routers : Nat
  deriving DecidableEq, Repr

/-- `New(addr, config)`. -/
def new : Remote := ⟨.initialized, none, 0, [], 0, 0⟩

/-- The errors `Start` returns. -/
inductive StartError where
  /-- "远程模块已启动" -/
  | alreadyStarted
  /-- "远程监听失败: %w" -/
  | listen
  /-- "注册远程失败: %w" -/
  | register
  deriving DecidableEq, Repr

/-- Where a goroutine inside `Start` stands: before the load of `state`, the
store of `stateRunning`, the listen, the registration, and the rest (spawn the
router, make the stop channel, start the server and the waiting goroutine). -/
inductive StartPC where
  | load
  | store
  | listen
  | register
  | launch
  deriving DecidableEq, Repr

/-- Where a goroutine inside `Stop` stands: before the load of `state`, the
store of `stateStopped`, and the send on `r.stopCh`. -/
inductive StopPC where
  | load
  | store
  | send
  deriving DecidableEq, Repr

/-- A goroutine calling `Start` or `Stop`. -/
inductive Call where
  | start (pc : StartPC)
  | stop (pc : StopPC)
  /-- `Start` has returned this error, or nil -/
  | started (err : Option StartError)
  /-- `Stop` has returned: `r.stopWg` after its send, or at once an empty `WaitGroup` -/
  | stopped (sent : Bool)
  /-- `Stop` waits to send on the channel it read, nil or not -/
  | sending (ch : Option Nat)
  deriving DecidableEq, Repr

/-- What the network stack answers: whether `net.Listen` and
`DRPCRegisterRemote` succeed. -/
structure Outcome where
  listenOk : Bool
  registerOk : Bool
  deriving DecidableEq, Repr

/-- One step of a goroutine, given the network stack's answer; `none` when it
cannot move. -/
def stepCall (r : Remote) (o : Outcome) : Call → Option (Remote × Call)
  | .start .load =>
    some (r, if r.state ≠ .initialized then .started (some .alreadyStarted) else .start .store)
  | .start .store => some ({ r with state := .running }, .start .listen)
  | .start .listen =>
    if o.listenOk then some ({ r with listeners := r.listeners + 1 }, .start .register)
    else some (r, .started (some .listen))
  | .start .register =>
    if o.registerOk then some (r, .start .launch) else some (r, .started (some .register))
  | .start .launch =>
    some ({ r with
      routers := r.routers + 1
      stopCh := some r.made
      made := r.made + 1
      waiting := r.waiting ++ [r.made] }, .started none)
  | .stop .load => some (r, if r.state ≠ .running then .stopped false else .stop .store)
  | .stop .store => some ({ r with state := .stopped }, .stop .send)
  | .stop .send => some (r, .sending r.stopCh)
  | .sending none => none
  | .sending (some c) =>
    if c ∈ r.waiting then some ({ r with waiting := r.waiting.erase c }, .stopped true) else none
  | .started _ | .stopped _ => none

/-- The remote and the goroutines calling into it. -/
structure World where
  remote : Remote
  calls : List Call
  deriving DecidableEq, Repr

/-- Goroutine `i` takes a step. -/
def step (w : World) (i : Nat) (o : Outcome) : Option World :=
  w.calls[i]?.bind fun c => (stepCall w.remote o c).map fun rc => ⟨rc.1, w.calls.set i rc.2⟩

/-- A schedule: which goroutine steps, and what the network stack answers. -/
def run (w : World) : List (Nat × Outcome) → Option World
  | [] => some w
  | (i, o) :: s => (step w i o).bind fun w' => run w' s

/-! ## A blocked `Stop` stays blocked -/

/-- A step only adds the channel it makes to `waiting`, and never forgets a
channel name. -/
theorem stepCall_waiting {r r' : Remote} {o : Outcome} {c c' : Call}
    (h : stepCall r o c = some (r', c')) :
    (∀ x ∈ r'.waiting, x ∈ r.waiting ∨ x = r.made) ∧ r.made ≤ r'.made := by
  cases c with
  | start pc =>
    cases pc <;> simp only [stepCall] at h <;> (try split_ifs at h) <;> cases h
    all_goals first
      | exact ⟨fun x hx => .inl hx, le_rfl⟩
      | exact ⟨fun x hx => by simpa using hx, Nat.le_succ _⟩
  | stop pc => cases pc <;> cases h <;> exact ⟨fun x hx => .inl hx, le_rfl⟩
  | sending ch =>
    rcases ch with _ | c
    · cases h
    · simp only [stepCall] at h
      split_ifs at h
      cases h
      exact ⟨fun x hx => .inl (List.mem_of_mem_erase hx), le_rfl⟩
  | started _ | stopped _ => cases h

/-- No receiver will ever appear for `ch`: it is nil, or a channel already
made whose goroutine has received. -/
def NoReceiver (r : Remote) : Option Nat → Prop
  | none => True
  | some c => c ∉ r.waiting ∧ c < r.made

theorem NoReceiver.step {r r' : Remote} {o : Outcome} {c c' : Call} {ch : Option Nat}
    (h : NoReceiver r ch) (hs : stepCall r o c = some (r', c')) : NoReceiver r' ch := by
  obtain ⟨hw, hm⟩ := stepCall_waiting hs
  cases ch with
  | none => trivial
  | some x =>
    exact ⟨fun hx => (hw x hx).elim h.1 (fun he => by have := h.2; omega), by have := h.2; omega⟩

theorem stepCall_sending {r : Remote} {o : Outcome} {ch : Option Nat} (h : NoReceiver r ch) :
    stepCall r o (.sending ch) = none := by
  cases ch with
  | none => rfl
  | some c => simp [stepCall, h.1]

/-- A `Stop` waiting to send with no receiver stays so along every
continuation of the run, whatever the other goroutines do. -/
theorem blocked_forever {w w' : World} {s : List (Nat × Outcome)} (hrun : run w s = some w')
    {i : Nat} {ch : Option Nat} (hi : w.calls[i]? = some (.sending ch)) (hch : NoReceiver w.remote ch) :
    w'.calls[i]? = some (.sending ch) := by
  induction s generalizing w with
  | nil => cases hrun; exact hi
  | cons io s ih =>
    obtain ⟨j, o⟩ := io
    simp only [run, Option.bind_eq_some] at hrun
    obtain ⟨w₁, hstep, hrun⟩ := hrun
    simp only [step, Option.bind_eq_some, Option.map_eq_some'] at hstep
    obtain ⟨c, hc, ⟨r, c'⟩, hsc, hw₁⟩ := hstep
    cases hw₁
    have hji : j ≠ i := by
      rintro rfl
      rw [hi, Option.some.injEq] at hc
      subst hc
      rw [stepCall_sending hch] at hsc
      cases hsc
    refine ih hrun ?_ (hch.step hsc)
    rw [List.getElem?_set_ne hji]
    exact hi

/-! ## Calls one after another -/

/-- A call run on its own until it returns or blocks (no call takes more than
five steps). -/
def finish (r : Remote) (o : Outcome) : Nat → Call → Remote × Call
  | 0, c => (r, c)
  | n + 1, c =>
    match stepCall r o c with
    | some (r', c') => finish r' o n c'
    | none => (r, c)

/-- A call, with the network stack's answer for a `Start`. -/
inductive Request where
  | start (o : Outcome)
  | stop
  deriving DecidableEq, Repr

/-- What the network stack answers, and the goroutine as it enters the call. -/
def Request.call : Request → Outcome × Call
  | .start o => (o, .start .load)
  | .stop => (⟨true, true⟩, .stop .load)

/-- The calls made one after another, each returning (or blocking) before
the next begins. -/
def serial (r : Remote) : List Request → Remote × List Call
  | [] => (r, [])
  | q :: qs =>
    let done := finish r q.call.1 5 q.call.2
    let rest := serial done.1 qs
    (rest.1, done.2 :: rest.2)

/-- Whether the goroutine has returned from its call. -/
def Call.returned : Call → Bool
  | .started _ | .stopped _ => true
  | _ => false

/-- The remote between calls: never started, running with its stop channel's
goroutine still waiting, or stopped with no goroutine waiting. -/
def Settled (r : Remote) : Prop :=
  r.state = .initialized ∧ r.waiting = [] ∨
    r.state = .running ∧ (∃ c, r.stopCh = some c ∧ r.waiting = [c]) ∨
    r.state = .stopped ∧ r.waiting = []

/-- One call on a settled remote, a `Start` getting past the network stack:
it returns, leaves the remote settled, and sends only from a running remote,
which it leaves stopped; a stopped remote stays stopped. -/
theorem finish_settled {r : Remote} (h : Settled r) {q : Request}
    (hq : ∀ o, q = .start o → o.listenOk ∧ o.registerOk) :
    let d := finish r q.call.1 5 q.call.2
    d.2.returned ∧ Settled d.1 ∧
      (if d.2 = .stopped true then 1 else 0) + (if r.state = .stopped then 1 else 0) ≤
        if d.1.state = .stopped then 1 else 0 := by
  cases q with
  | start o =>
    obtain ⟨h₁, h₂⟩ := hq o rfl
    rcases h with ⟨hs, hw⟩ | ⟨hs, c, hc, hw⟩ | ⟨hs, hw⟩ <;>
      simp [Request.call, finish, stepCall, Call.returned, Settled, *]
  | stop =>
    rcases h with ⟨hs, hw⟩ | ⟨hs, c, hc, hw⟩ | ⟨hs, hw⟩ <;>
      simp [Request.call, finish, stepCall, Call.returned, Settled, *]

/-- Serial calls from a settled remote, every `Start` getting past the network
stack: every call returns, so no `Stop` blocks, and one `Stop` at most sends,
none if the remote is already stopped. -/
theorem serial_settled {r : Remote} (h : Settled r) (qs : List Request)
    (hq : ∀ o, Request.start o ∈ qs → o.listenOk ∧ o.registerOk) :
    (∀ c ∈ (serial r qs).2, c.returned) ∧
      (serial r qs).2.count (.stopped true) + (if r.state = .stopped then 1 else 0) ≤ 1 := by
  induction qs generalizing r with
  | nil => exact ⟨nofun, by simp only [serial, List.count_nil]; split <;> omega⟩
  | cons q qs ih =>
    obtain ⟨hc, hs, hle⟩ := finish_settled h fun o ho => hq o (ho ▸ List.mem_cons_self _ _)
    obtain ⟨hsend, hcount⟩ := ih hs fun o ho => hq o (List.mem_cons_of_mem q ho)
    refine ⟨fun c hmem => (List.mem_cons.mp hmem).elim (fun he => he ▸ hc) (hsend c), ?_⟩
    simp only [serial, List.count_cons, beq_iff_eq]
    omega

/-- Calls made one after another on a new remote, every `Start` getting past
the network stack: every call returns, so no `Stop` blocks, and at most one
`Stop` sends. -/
theorem serial_stop_never_blocks (qs : List Request)
    (hq : ∀ o, Request.start o ∈ qs → o.listenOk ∧ o.registerOk) :
    (∀ c ∈ (serial new qs).2, c.returned) ∧ (serial new qs).2.count (.stopped true) ≤ 1 :=
  (serial_settled (.inl ⟨rfl, rfl⟩) qs hq).imp_right fun h => by simpa [new] using h

theorem serial_stop_never_blocks_start_stop_stop :
    (∀ o, Request.start o ∈ [.start ⟨true, true⟩, .stop, .stop] → o.listenOk ∧ o.registerOk) ∧
      (∀ c ∈ (serial new [.start ⟨true, true⟩, .stop, .stop]).2, c.returned) ∧
      (serial new [.start ⟨true, true⟩, .stop, .stop]).2.count (.stopped true) ≤ 1 :=
  have hq : ∀ o, Request.start o ∈ [.start ⟨true, true⟩, .stop, .stop] → o.listenOk ∧ o.registerOk := by
    simp
  ⟨hq, serial_stop_never_blocks _ hq⟩

/-! ## What the calls leave behind when a `Start` fails or two `Stop`s race -/

/-- A `Start` that fails at listen returns its error with the remote running,
so a retried `Start` is refused and a later `Stop` sends on a nil channel and
blocks forever; a `Start` that fails at registration returns with the remote
running and its listener open; and after a successful `Start`, two `Stop`s
that both load `stateRunning` both send on the stop channel, whose goroutine
receives once, so one of them blocks forever. -/
theorem lifecycle_hazards :
    (∃ w₁ w₂, run ⟨new, [.start .load, .start .load, .stop .load]⟩
          (List.replicate 3 (0, ⟨false, true⟩)) = some w₁ ∧
        w₁.calls[0]? = some (.started (some .listen)) ∧ w₁.remote.state = .running ∧
        run w₁ ([1, 2, 2, 2].map (·, ⟨true, true⟩)) = some w₂ ∧
        w₂.calls = [.started (some .listen), .started (some .alreadyStarted), .sending none] ∧
        ∀ s w', run w₂ s = some w' → w'.calls[2]? = some (.sending none)) ∧
      (∃ w, run ⟨new, [.start .load]⟩ (List.replicate 4 (0, ⟨true, false⟩)) = some w ∧
        w.calls = [.started (some .register)] ∧ w.remote.state = .running ∧
        w.remote.listeners = 1) ∧
      ∃ w, run ⟨new, [.start .load, .stop .load, .stop .load]⟩
          ([0, 0, 0, 0, 0, 1, 2, 1, 2, 1, 2, 1].map (·, ⟨true, true⟩)) = some w ∧
        w.calls = [.started none, .stopped true, .sending (some 0)] ∧
        ∀ s w', run w s = some w' → w'.calls[2]? = some (.sending (some 0)) := by
  refine ⟨⟨_, _, rfl, rfl, rfl, rfl, rfl, fun s w' h => blocked_forever h rfl trivial⟩,
    ⟨_, rfl, rfl, rfl, rfl⟩, ⟨_, rfl, rfl, fun s w' h => blocked_forever h rfl ⟨?_, ?_⟩⟩⟩ <;> decide

end Remote.Lifecycle
