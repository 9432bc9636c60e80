import DistributedFramework.Actor.Process

/-! What the supervision code of `actor/types.go` does, for every receiver and
every restart limit, and at the inputs where a process does not end the way
the package documents.

Proved here:

* `cleanup_nil_panics`: `cleanup(nil)`, which `Shutdown` and the max-restarts
  path of `tryRestart` call, never returns: the deferred call of the nil
  `cancel` panics after the inbox is stopped and the pid unregistered;
* `start_returns_running`: a `Start` that returns leaves the inbox running,
  even when the replay of `mbuffer` inside it ran `cleanup`;
* `pill_after_fault_restarts_inbox`: a poison pill buffered behind a faulting
  message stops the process inside the restart, whose `inbox.Start` then
  revives the inbox, and the next message reaches the receiver;
* `graceful_fault_redelivers`: a fault while a graceful pill drains its batch
  buffers messages the receiver already had, and the restart hands them over
  again;
* `max_restarts_panics`: at `MaxRestarts` a fault escapes `Invoke`;
* `stopped_twice`: on the max-restarts path the faulting receiver is handed
  `Stopped` twice. -/

namespace Actor.Process
open Go

variable (o : Opts)

/-! ## `cleanup` with a nil `cancel` -/

/-- The body of `cleanup`, under `recover`, returns with the inbox stopped and
the registry entry gone, whatever the receiver does with `Stopped`. -/
theorem recoverPanic_cleanupBody (p : Process) :
    ∃ r p', recoverPanic (cleanupBody o) p = .ok r p' ∧ p'.inbox = .stopped ∧
      p'.registered = false := by
  let q : Process := { p with inbox := .stopped, registered := false }
  let d : Delivery := ⟨q.incarnation, .stopped, .middleware⟩
  cases h : o.receive q.log d with
  | none =>
    refine ⟨none, { q with log := q.log ++ [d], events := q.events ++ [.actorStopped] },
      recoverPanic_of_ok ?_, rfl, rfl⟩
    simp only [cleanupBody, modify_bind_apply]
    rw [bind_apply_of_ok (deliver_of_none o h)]; rfl
  | some v =>
    refine ⟨some v, { q with log := q.log ++ [d] }, recoverPanic_of_panic ?_, rfl, rfl⟩
    simp only [cleanupBody, modify_bind_apply]
    rw [bind_apply_of_error (deliver_of_some o h)]

theorem cleanup_nil_panics (p : Process) :
    ∃ p', cleanup o false p = .error (.panic .nilFuncCall) p' ∧
      p'.inbox = .stopped ∧ p'.registered = false := by
  obtain ⟨r, p', h, hi, hr⟩ := recoverPanic_cleanupBody o p
  exact ⟨p', by rw [cleanup, bind_apply_of_ok h]; rfl, hi, hr⟩

/-! ## A `Start` that returns leaves the inbox running -/

theorem startBody_returns (restart : Panic → ProcM Unit) :
    Returns (startBody o restart) (·.inbox ≠ .stopped) := by
  unfold startBody
  repeat refine Returns.bind fun _ => ?_
  dsimp only
  split <;> repeat refine Returns.bind fun _ => ?_
  all_goals exact returns_modify inboxStart_inbox_ne

theorem startWith_returns {restart : Panic → ProcM Unit} {Q : Process → Prop}
    (hb : Returns (startBody o restart) Q) (hr : ∀ v, Returns (restart v) Q) :
    Returns (startWith o restart) Q := by
  refine Returns.bind fun _ s _ s' h => ?_
  obtain ⟨r, s₁, hrec, h⟩ := bind_eq_ok.mp h
  cases r with
  | none => cases h; exact hb _ _ _ (eq_ok_of_recoverPanic_none hrec)
  | some v => exact (Returns.bind fun _ => hr v) _ _ _ h

/-- `tryRestart` returns only through the `Start` it calls: its cleanup
never returns. -/
theorem tryRestartWith_returns {start : ProcM Unit} {Q : Process → Prop} (hs : Returns start Q)
    (v : Panic) : Returns (tryRestartWith o start v) Q := by
  unfold tryRestartWith
  split
  · exact hs
  · refine Returns.bind fun _ => ?_
    split
    · refine Returns.bind fun _ => returns_of_never (fun p => ?_) Q
      obtain ⟨p', h, -⟩ := cleanup_nil_panics o p
      exact ⟨_, p', h⟩
    · exact Returns.bind fun _ => Returns.bind fun _ => hs

/-- Every `Start` that returns, through any number of restarts, leaves the
inbox not stopped, since `inbox.Start(p)` comes last. A `cleanup` run inside
it, by a pill replayed from `mbuffer`, is therefore always undone. -/
theorem start_returns_running (fuel : Nat) : Returns (start o fuel) (·.inbox ≠ .stopped) := by
  induction fuel with
  | zero => exact returns_throw _ _
  | succ n ih => exact startWith_returns o (startBody_returns o _) (tryRestartWith_returns o ih)

/-! ## Runs at fixed inputs -/

/-- Options with no middleware whose receivers panic with a plain value on the
user messages `bad` picks, by incarnation and message, and on nothing else. -/
def panicsOn (maxRestarts : BitVec 32) (bad : Nat → Nat → Bool) : Opts :=
  ⟨maxRestarts, 0, fun _ d => match d.input with
    | .user m _ => if bad d.incarnation m then some .value else none
    | _ => none⟩

/-- A process after its first `Start`, when the receiver does not panic on
`Initialized` or `Started`. -/
def firstStarted : Process :=
  { newProcess with
    incarnation := 1, inbox := .running
    log := [⟨1, .initialized, .middleware⟩, ⟨1, .started, .middleware⟩]
    events := [.actorInitialized, .actorStarted] }

theorem start_panicsOn (maxRestarts : BitVec 32) (bad : Nat → Nat → Bool) (fuel : Nat) :
    start (panicsOn maxRestarts bad) (fuel + 1) newProcess = .ok () firstStarted := rfl

/-- `Stop` queued behind a message that makes the first receiver panic: the
pill, buffered in `mbuffer`, runs `cleanup` inside the restart (the inbox is
stopped, the pid unregistered, `Stopped` and `ActorStoppedEvent` sent), and the
restart's own `inbox.Start(p)` then revives the inbox, whose next message is
handed to the stopped receiver. -/
theorem pill_after_fault_restarts_inbox :
    life (panicsOn 3 fun i m => i == 1 && m == 1) 1
        [[⟨.user 1, none⟩, ⟨.poisonPill false true, none⟩], [⟨.user 2, none⟩]] newProcess =
      .ok ()
        { restarts := 1
          mbuffer := []
          incarnation := 2
          inbox := .running
          registered := false
          log := [⟨1, .initialized, .middleware⟩, ⟨1, .started, .middleware⟩,
            ⟨1, .user 1 none, .receiver⟩, ⟨1, .stopped, .receiver⟩, ⟨2, .initialized, .middleware⟩,
            ⟨2, .started, .middleware⟩, ⟨2, .stopped, .middleware⟩, ⟨2, .user 2 none, .receiver⟩]
          events := [.actorInitialized, .actorStarted, .actorRestarted 1 .value, .actorInitialized,
            .actorStarted, .actorStopped] } := by
  have h₁ : invoke (panicsOn 3 fun i m => i == 1 && m == 1) 1
      [⟨.user 1, none⟩, ⟨.poisonPill false true, none⟩]
      firstStarted =
      .ok ()
        { restarts := 1
          mbuffer := []
          incarnation := 2
          inbox := .running
          registered := false
          log := [⟨1, .initialized, .middleware⟩, ⟨1, .started, .middleware⟩,
            ⟨1, .user 1 none, .receiver⟩, ⟨1, .stopped, .receiver⟩, ⟨2, .initialized, .middleware⟩,
            ⟨2, .started, .middleware⟩, ⟨2, .stopped, .middleware⟩]
          events := [.actorInitialized, .actorStarted, .actorRestarted 1 .value, .actorInitialized,
            .actorStarted, .actorStopped] } := rfl
  rw [life_of_start _ (start_panicsOn _ _ 0), run_cons _ (by decide) h₁]
  rfl

/-- The first receiver after the graceful drain of `graceful_fault_redelivers`
has handed it messages 1 and 2. -/
def handedBoth : Process :=
  { firstStarted with
    log := firstStarted.log ++ [⟨1, .user 1 none, .receiver⟩, ⟨1, .user 2 none, .receiver⟩] }

/-- `Poison` at the head of a batch, and a panic on the last message the
graceful drain hands over: `nproc` is 1, so `mbuffer` holds the messages after
the pill, and the restart hands message 1, which the first receiver handled
without fault, to the second receiver again. The pill itself is lost. -/
theorem graceful_fault_redelivers :
    life (panicsOn 3 fun i m => i == 1 && m == 2) 1
        [[⟨.poisonPill true true, none⟩, ⟨.user 1, none⟩, ⟨.user 2, none⟩]] newProcess =
      .ok ()
        { restarts := 1
          mbuffer := []
          incarnation := 2
          inbox := .running
          registered := true
          log := [⟨1, .initialized, .middleware⟩, ⟨1, .started, .middleware⟩,
            ⟨1, .user 1 none, .receiver⟩, ⟨1, .user 2 none, .receiver⟩, ⟨1, .stopped, .receiver⟩,
            ⟨2, .initialized, .middleware⟩, ⟨2, .started, .middleware⟩,
            ⟨2, .user 1 none, .receiver⟩, ⟨2, .user 2 none, .receiver⟩]
          events := [.actorInitialized, .actorStarted, .actorRestarted 1 .value, .actorInitialized,
            .actorStarted] } := by
  have hloop : invokeLoop (panicsOn 3 fun i m => i == 1 && m == 2)
      [⟨.poisonPill true true, none⟩, ⟨.user 1, none⟩, ⟨.user 2, none⟩] 0 0
      [⟨.poisonPill true true, none⟩, ⟨.user 1, none⟩, ⟨.user 2, none⟩] firstStarted =
      .ok (some (.value, 1)) handedBoth := rfl
  refine (life_of_start _ (start_panicsOn _ _ 0)).trans ((run_cons _ (by decide) ?_).trans rfl)
  rw [invoke, invokeWith_of_panic _ hloop]
  rfl

/-- `MaxRestarts = 0` and a receiver that panics on the first message: the
recover handler of `Invoke` calls `tryRestart`, which calls `cleanup(nil)`,
whose deferred `cancel()` panics; the panic leaves `Invoke` and the drain task. -/
theorem max_restarts_panics :
    life (panicsOn 0 fun i m => i == 1 && m == 1) 1 [[⟨.user 1, none⟩]] newProcess =
      .error (.panic .nilFuncCall)
        { restarts := 0
          mbuffer := []
          incarnation := 1
          inbox := .stopped
          registered := false
          log := [⟨1, .initialized, .middleware⟩, ⟨1, .started, .middleware⟩,
            ⟨1, .user 1 none, .receiver⟩, ⟨1, .stopped, .receiver⟩, ⟨1, .stopped, .middleware⟩]
          events := [.actorInitialized, .actorStarted, .actorMaxRestartsExceeded,
            .actorStopped] } := by
  rw [life_of_start _ (start_panicsOn _ _ 0)]
  rfl

/-- `MaxRestarts = 1` and receivers that panic on every message: the second
receiver is handed `Stopped` by the recover handler of `Invoke`, and again by
the `cleanup` that `tryRestart` runs at the limit. -/
theorem stopped_twice :
    life (panicsOn 1 fun _ _ => true) 1 [[⟨.user 1, none⟩], [⟨.user 2, none⟩]] newProcess =
      .error (.panic .nilFuncCall)
        { restarts := 1
          mbuffer := []
          incarnation := 2
          inbox := .stopped
          registered := false
          log := [⟨1, .initialized, .middleware⟩, ⟨1, .started, .middleware⟩,
            ⟨1, .user 1 none, .receiver⟩, ⟨1, .stopped, .receiver⟩,
            ⟨2, .initialized, .middleware⟩, ⟨2, .started, .middleware⟩,
            ⟨2, .user 2 none, .receiver⟩, ⟨2, .stopped, .receiver⟩, ⟨2, .stopped, .middleware⟩]
          events := [.actorInitialized, .actorStarted, .actorRestarted 1 .value, .actorInitialized,
            .actorStarted, .actorMaxRestartsExceeded, .actorStopped] } := by
  have h₁ : invoke (panicsOn 1 fun _ _ => true) 1 [⟨.user 1, none⟩]
      firstStarted =
      .ok ()
        { restarts := 1
          mbuffer := []
          incarnation := 2
          inbox := .running
          registered := true
          log := [⟨1, .initialized, .middleware⟩, ⟨1, .started, .middleware⟩,
            ⟨1, .user 1 none, .receiver⟩, ⟨1, .stopped, .receiver⟩,
            ⟨2, .initialized, .middleware⟩, ⟨2, .started, .middleware⟩]
          events := [.actorInitialized, .actorStarted, .actorRestarted 1 .value, .actorInitialized,
            .actorStarted] } := rfl
  rw [life_of_start _ (start_panicsOn _ _ 0), run_cons _ (by decide) h₁]
  rfl

end Actor.Process
