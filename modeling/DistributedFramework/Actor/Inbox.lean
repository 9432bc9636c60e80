import Mathlib.Tactic.Common

/-! `actor/inbox.go`: the mailbox and its scheduling state machine.

A goroutine inside the mailbox code is counted at the atomic operation it will
perform next, so the state says how many `Send`, `Start` and drain-task
(`process()`) calls stand at each point. One `Action` is one atomic operation
of the Go code: a CAS, a store, a `Push`, a `PopN`, the return of `Invoke`.
The ring buffer is represented by the queue it holds, which
`Ringbuffer.RingBuffer.refines_queue` justifies.

Proved here, for every interleaving in which no `Start` is issued after a `Stop`:

* `mutual_exclusion`: at most one drain task is inside `run()`;
* `no_stranded_message`: when no goroutine is inside `schedule()` and no drain
  task exists, a mailbox that is neither `stopped` nor `starting` is `idle`
  with an empty buffer;
* `stranded_during_start`: a `Start` between its swap to `idle` and its
  `schedule()` is not covered by "no `Send` and no drain task in flight". -/

namespace Actor

/-- `messageBatchSize`, the `PopN` argument of `run()`. -/
def messageBatchSize : Nat := 1024 * 4

/-- The four values of `procStatus`. -/
inductive Status where
  | stopped
  | starting
  | idle
  | running
  deriving DecidableEq, Repr

/-- The three places that call `schedule()`. -/
inductive Caller where
  /-- `Send`, after its `Push` -/
  | send
  /-- `process()`, after `rb.Len() > 0` -/
  | drain
  /-- `Start`, after its swap to `idle` -/
  | start
  deriving DecidableEq, Repr

/-- The mailbox and the goroutines inside its code, counted per program point. -/
structure Inbox (α : Type) where
  procStatus : Status
  /-- the ring buffer's contents, oldest first -/
  rb : List α
  /-- `Send` calls before the CAS `idle → running` of their `schedule()` -/
  sendScheduling : Nat
  /-- drain tasks before the CAS of their `schedule()` -/
  drainScheduling : Nat
  /-- `Start` calls before the CAS of their `schedule()` -/
  startScheduling : Nat
  /-- `schedule()` calls that won that CAS, before `Schedule(in.process)` -/
  spawning : Nat
  /-- drain tasks at the loop test of `run()` -/
  checking : Nat
  /-- drain tasks about to call `PopN` -/
  popping : Nat
  /-- drain tasks inside `proc.Invoke(msgs)` -/
  invoking : Nat
  /-- drain tasks back from `run()`, before the CAS `running → idle` -/
  finishing : Nat
  /-- drain tasks whose CAS `running → idle` succeeded, before `rb.Len() > 0` -/
  lenChecking : Nat
  /-- `Start` calls whose CAS `stopped → starting` succeeded, before the swap to `idle` -/
  swapping : Nat
  /-- calls of `Stop` so far -/
  stops : Nat
  deriving DecidableEq, Repr

namespace Inbox
variable {α : Type}

/-- `NewInbox(size)`: stopped, empty, no goroutine inside. -/
def newInbox : Inbox α :=
  ⟨.stopped, [], 0, 0, 0, 0, 0, 0, 0, 0, 0, 0, 0⟩

/-- The calls from `c` that stand before the CAS of `schedule()`. -/
def scheduling (s : Inbox α) : Caller → Nat
  | .send => s.sendScheduling
  | .drain => s.drainScheduling
  | .start => s.startScheduling

/-- One call from `c` leaves `schedule()`'s CAS. -/
def leaveSchedule (s : Inbox α) : Caller → Inbox α
  | .send => { s with sendScheduling := s.sendScheduling - 1 }
  | .drain => { s with drainScheduling := s.drainScheduling - 1 }
  | .start => { s with startScheduling := s.startScheduling - 1 }

/-- One atomic operation of the mailbox code. -/
inductive Action (α : Type) where
  /-- `Send`: `rb.Push(msg)`; the sender then enters `schedule()` -/
  | send (m : α)
  /-- `schedule()` called from `c`: the CAS `idle → running` -/
  | schedule (c : Caller)
  /-- `Schedule(in.process)`: a drain task starts at the loop test of `run()` -/
  | spawn
  /-- `run()`: the test `procStatus != stopped` -/
  | check
  /-- `run()`: `PopN(messageBatchSize)` -/
  | pop
  /-- `run()`: `proc.Invoke(msgs)` returns -/
  | invoke
  /-- `process()`: the CAS `running → idle` -/
  | finish
  /-- `process()`: the test `rb.Len() > 0`, then `schedule()` -/
  | lenCheck
  /-- `Start`: the CAS `stopped → starting` -/
  | start
  /-- `Start`: store `proc`, swap to `idle`, enter `schedule()` -/
  | startIdle
  /-- `Stop`: store `stopped` -/
  | stop
  deriving DecidableEq, Repr

/-- The effect of one operation; `none` when no goroutine stands at its point. -/
def step (s : Inbox α) : Action α → Option (Inbox α)
  | .send m => some { s with rb := s.rb ++ [m], sendScheduling := s.sendScheduling + 1 }
  | .schedule c =>
    if s.scheduling c = 0 then none
    else if s.procStatus = .idle then
      some ({ s with procStatus := .running, spawning := s.spawning + 1 }.leaveSchedule c)
    else some (s.leaveSchedule c)
  | .spawn =>
    if s.spawning = 0 then none
    else some { s with spawning := s.spawning - 1, checking := s.checking + 1 }
  | .check =>
    if s.checking = 0 then none
    else if s.procStatus = .stopped then
      some { s with checking := s.checking - 1, finishing := s.finishing + 1 }
    else some { s with checking := s.checking - 1, popping := s.popping + 1 }
  | .pop =>
    if s.popping = 0 then none
    else if s.rb.length = 0 then some { s with popping := s.popping - 1, finishing := s.finishing + 1 }
    else
      some { s with
        rb := s.rb.drop messageBatchSize, popping := s.popping - 1, invoking := s.invoking + 1 }
  | .invoke =>
    if s.invoking = 0 then none
    else some { s with invoking := s.invoking - 1, checking := s.checking + 1 }
  | .finish =>
    if s.finishing = 0 then none
    else if s.procStatus = .running then
      some { s with
        procStatus := .idle, finishing := s.finishing - 1, lenChecking := s.lenChecking + 1 }
    else some { s with finishing := s.finishing - 1 }
  | .lenCheck =>
    if s.lenChecking = 0 then none
    else if s.rb.length = 0 then some { s with lenChecking := s.lenChecking - 1 }
    else
      some { s with
        lenChecking := s.lenChecking - 1, drainScheduling := s.drainScheduling + 1 }
  | .start =>
    if s.procStatus = .stopped then
      some { s with procStatus := .starting, swapping := s.swapping + 1 }
    else some s
  | .startIdle =>
    if s.swapping = 0 then none
    else
      some { s with
        procStatus := .idle, swapping := s.swapping - 1, startScheduling := s.startScheduling + 1 }
  | .stop => some { s with procStatus := .stopped, stops := s.stops + 1 }

/-- An interleaving of operations from `s`; `none` if one of them cannot run. -/
def execute (s : Inbox α) : List (Action α) → Option (Inbox α)
  | [] => some s
  | a :: as => (step s a).bind fun s' => execute s' as

/-- No `Start` is issued after a `Stop`. -/
def StartsBeforeStop : List (Action α) → Prop
  | [] => True
  | .stop :: as => Action.start ∉ as
  | _ :: as => StartsBeforeStop as

/-- Drain tasks that are inside `run()`. -/
def inRun (s : Inbox α) : Nat := s.checking + s.popping + s.invoking

/-- Goroutines that own the `running` status: a won CAS not yet handed to the
scheduler, or a drain task before its CAS `running → idle`. -/
def owners (s : Inbox α) : Nat := s.spawning + s.checking + s.popping + s.invoking + s.finishing

/-- Calls that will still run the CAS of `schedule()` or test `rb.Len()`. -/
def pending (s : Inbox α) : Nat :=
  s.sendScheduling + s.drainScheduling + s.startScheduling + s.lenChecking

section
variable (s : Inbox α) (c : Caller)

@[simp] theorem leaveSchedule_procStatus : (s.leaveSchedule c).procStatus = s.procStatus := by
  cases c <;> rfl
@[simp] theorem leaveSchedule_rb : (s.leaveSchedule c).rb = s.rb := by cases c <;> rfl
@[simp] theorem leaveSchedule_swapping : (s.leaveSchedule c).swapping = s.swapping := by
  cases c <;> rfl
@[simp] theorem leaveSchedule_stops : (s.leaveSchedule c).stops = s.stops := by cases c <;> rfl
@[simp] theorem owners_leaveSchedule : (s.leaveSchedule c).owners = s.owners := by cases c <;> rfl

theorem pending_leaveSchedule (h : s.scheduling c ≠ 0) :
    (s.leaveSchedule c).pending + 1 = s.pending := by
  cases c <;> simp only [scheduling, leaveSchedule, pending] at h ⊢ <;> omega

end

/-! ## The invariant of every reachable state -/

variable {s s' : Inbox α} {a : Action α}

/-- Who owns the mailbox. At most one goroutine owns `running`; one does while
the status is `running`, none while it is `idle` or `starting` or before the
first `Stop`; a `Start` between its CAS and its swap runs while nobody owns it. -/
structure Owned (s : Inbox α) : Prop where
  owners_le : s.owners ≤ 1
  swapping_le : s.swapping ≤ 1
  swap_free : s.swapping = 1 → s.owners = 0
  running : s.procStatus = .running → s.owners = 1
  idle : s.procStatus = .idle → s.owners = 0 ∧ s.swapping = 0
  starting : s.procStatus = .starting → s.owners = 0
  fresh : s.procStatus = .stopped → s.stops = 0 → s.owners = 0 ∧ s.swapping = 0

/-- `Owned` carries over to a state with the same status, owners, `Start`
calls and `Stop` count. -/
theorem Owned.frame (hs : Owned s) (hst : s'.procStatus = s.procStatus) (ho : s'.owners = s.owners)
    (hsw : s'.swapping = s.swapping) (hstop : s'.stops = s.stops) : Owned s' := by
  obtain ⟨h1, h2, h3, h4, h5, h6, h7⟩ := hs
  rw [← hst, ← ho, ← hsw, ← hstop] at *
  exact ⟨h1, h2, h3, h4, h5, h6, h7⟩

/-- A call leaving `schedule()` changes no owner. -/
theorem Owned.leaveSchedule (hs : Owned s) (c : Caller) : Owned (s.leaveSchedule c) :=
  hs.frame (leaveSchedule_procStatus s c) (owners_leaveSchedule s c) (leaveSchedule_swapping s c)
    (leaveSchedule_stops s c)

/-- One operation keeps `Owned`, provided a `Start` runs before any `Stop`. -/
theorem owned_step (hs : Owned s) (h : step s a = some s') (hstart : a = .start → s.stops = 0) :
    Owned s' := by
  cases a with
  | send m => cases h; exact hs.frame rfl rfl rfl rfl
  | spawn | check | pop | invoke | lenCheck =>
    simp only [step] at h
    split_ifs at h <;> cases h <;> exact hs.frame rfl (by simp only [owners] <;> omega) rfl rfl
  | schedule c =>
    simp only [step] at h
    split_ifs at h with h0 hi <;> cases h <;> refine Owned.leaveSchedule ?_ c
    · obtain ⟨ho, hsw⟩ := hs.idle hi
      simp only [owners] at ho
      constructor <;> simp only [owners, reduceCtorEq, false_implies, true_implies,
        forall_const] <;> omega
    · exact hs
  | finish =>
    simp only [step] at h
    split_ifs at h with h0 hr <;> cases h
    · have h1 := hs.running hr; have h2 := hs.swap_free; have := hs.swapping_le
      simp only [owners] at h1 h2
      constructor <;> simp only [owners, reduceCtorEq, false_implies, true_implies,
        forall_const] <;> omega
    · -- the owner finishes after a `Stop`: nobody owns the mailbox any more
      have := hs.owners_le; have := hs.swap_free; have := hs.swapping_le
      simp only [owners] at *
      refine ⟨?_, ?_, fun _ => ?_, fun h => absurd h hr, fun _ => ⟨?_, ?_⟩, fun _ => ?_,
        fun _ _ => ⟨?_, ?_⟩⟩ <;> (try simp only [owners]) <;> omega
  | start =>
    simp only [step] at h
    split_ifs at h with hst <;> cases h
    · have := hs.fresh hst (hstart rfl)
      simp only [owners] at this
      constructor <;> simp only [owners, reduceCtorEq, false_implies, true_implies,
        forall_const] <;> omega
    · exact hs.frame rfl rfl rfl rfl
  | startIdle =>
    simp only [step] at h
    split_ifs at h with h0
    cases h
    have h1 := hs.swap_free; have := hs.swapping_le; have h3 := hs.owners_le
    simp only [owners] at h1 h3
    constructor <;> simp only [owners, reduceCtorEq, false_implies, true_implies,
      forall_const] <;> omega
  | stop => cases h; exact ⟨hs.owners_le, hs.swapping_le, hs.swap_free, nofun, nofun, nofun, by simp⟩

/-- An idle mailbox that holds messages has a call on its way to the CAS of
`schedule()` or to the test `rb.Len() > 0`. -/
def Covered (s : Inbox α) : Prop := s.procStatus = .idle → s.rb ≠ [] → 0 < s.pending

/-- One operation keeps `Covered`: the CAS `running → idle` is followed by the
test of `rb.Len()`, and a `pop` cannot run while the mailbox is idle. -/
theorem covered_step (ho : Owned s) (hc : Covered s) (h : step s a = some s') : Covered s' := by
  intro hi hne
  cases a with
  | send m => cases h; simp only [pending]; omega
  | schedule c => simp only [step] at h; split_ifs at h <;> cases h <;> simp_all
  | spawn | check | invoke => simp only [step] at h; split_ifs at h <;> cases h <;> exact hc hi hne
  | pop =>
    simp only [step] at h
    split_ifs at h with h0 <;> cases h
    · exact hc hi hne
    · have := (ho.idle hi).1; simp only [owners] at this; omega
  | finish =>
    simp only [step] at h
    split_ifs at h <;> cases h
    · simp only [pending]; omega
    · exact hc hi hne
  | lenCheck =>
    simp only [step] at h
    split_ifs at h with h0 hl <;> cases h
    · exact absurd (List.length_eq_zero.mp hl) hne
    · have := hc hi hne; simp only [pending] at *; omega
  | start =>
    simp only [step] at h
    split_ifs at h <;> cases h
    · simp at hi
    · exact hc hi hne
  | startIdle => simp only [step] at h; split_ifs at h; cases h; simp only [pending]; omega
  | stop => cases h; cases hi

/-- The invariant of the states reachable from `NewInbox` when no `Start` is
issued after a `Stop`. -/
structure Inv (s : Inbox α) : Prop where
  owned : Owned s
  covered : Covered s

theorem inv_newInbox : Inv (newInbox : Inbox α) :=
  ⟨⟨Nat.zero_le _, Nat.zero_le _, nofun, nofun, nofun, nofun, fun _ _ => ⟨rfl, rfl⟩⟩, nofun⟩

theorem inv_step (hs : Inv s) (h : step s a = some s') (hstart : a = .start → s.stops = 0) :
    Inv s' :=
  ⟨owned_step hs.owned h hstart, covered_step hs.owned hs.covered h⟩

/-- Only `Stop` changes the count of `Stop` calls. -/
theorem stops_step (h : step s a = some s') : s'.stops = s.stops ∨ a = .stop := by
  cases a <;> simp only [step] at h <;> (try split_ifs at h) <;> cases h <;> simp

/-! ## Every interleaving -/

theorem StartsBeforeStop.of_start_not_mem :
    ∀ {as : List (Action α)}, Action.start ∉ as → StartsBeforeStop as
  | [], _ => trivial
  | a :: as, h => by
    rw [List.mem_cons, not_or] at h
    cases a
    case stop => exact h.2
    all_goals exact (of_start_not_mem h.2 : StartsBeforeStop as)

theorem StartsBeforeStop.tail {as : List (Action α)} (h : StartsBeforeStop (a :: as)) :
    StartsBeforeStop as := by
  cases a
  case stop => exact of_start_not_mem h
  all_goals exact h

/-- `execute` splits into its first step and the rest. -/
theorem execute_cons {as : List (Action α)} (h : execute s (a :: as) = some s') :
    ∃ s₁, step s a = some s₁ ∧ execute s₁ as = some s' :=
  Option.bind_eq_some.mp h

/-- The run lemma: every interleaving keeps `Inv`, provided no `Start` is
issued after a `Stop`, counting the `Stop` calls made before `s`. -/
theorem inv_execute {as : List (Action α)} (hs : Inv s) (hacts : StartsBeforeStop as)
    (hfresh : 0 < s.stops → Action.start ∉ as) (h : execute s as = some s') : Inv s' := by
  induction as generalizing s with
  | nil => cases h; exact hs
  | cons a as ih =>
    obtain ⟨s₁, h₁, hrest⟩ := execute_cons h
    have hstart : a = .start → s.stops = 0 := by
      rintro rfl
      exact Nat.eq_zero_of_not_pos fun hp => hfresh hp (List.mem_cons_self _ _)
    refine ih (inv_step hs h₁ hstart) hacts.tail (fun hp => ?_) hrest
    rcases stops_step h₁ with heq | rfl
    · exact fun hm => hfresh (heq ▸ hp) (List.mem_cons_of_mem _ hm)
    · exact hacts

/-- `Inv` holds in every state an interleaving reaches from `NewInbox`. -/
theorem inv_of_execute {as : List (Action α)} (hacts : StartsBeforeStop as)
    (h : execute newInbox as = some s) : Inv s :=
  inv_execute inv_newInbox hacts nofun h

/-! ## Mutual exclusion and no lost wakeup -/

/-- `Start`, one drain task that finds the buffer empty, a `Send` racing with its
CAS `running → idle`, and the re-scheduled drain task. -/
def race : List (Action Nat) :=
  [.start, .startIdle, .schedule .start, .spawn, .check, .pop, .send 5, .schedule .send, .finish,
    .lenCheck, .schedule .drain, .spawn]

/-- At most one drain task is inside `run()`, in every state reached from
`NewInbox` by an interleaving in which no `Start` follows a `Stop`. -/
theorem mutual_exclusion {as : List (Action α)} (hacts : StartsBeforeStop as)
    (h : execute newInbox as = some s) : s.inRun ≤ 1 := by
  have := (inv_of_execute hacts h).owned.owners_le
  simp only [inRun, owners] at *
  omega

/-- The lost-wakeup window: a `Send` pushes after the drain task's last empty
`PopN`, its CAS fails, and the drain task's `rb.Len()` test re-schedules. -/
theorem mutual_exclusion_send_race :
    StartsBeforeStop race ∧ ∃ s : Inbox Nat, execute newInbox race = some s ∧ s.inRun ≤ 1 := by
  obtain ⟨s, hs⟩ : ∃ s, execute newInbox race = some s := ⟨_, rfl⟩
  have hacts : StartsBeforeStop race := by simp [race, StartsBeforeStop]
  exact ⟨hacts, s, hs, mutual_exclusion hacts hs⟩

/-- No goroutine is inside `schedule()` before its CAS, none stands between the
CAS `running → idle` and the test `rb.Len() > 0`, and no drain task exists. -/
def Quiescent (s : Inbox α) : Prop :=
  s.pending = 0 ∧ s.owners = 0

/-- A `Start` between its swap to `idle` and its `schedule()` leaves an idle
mailbox holding a message while no `Send` stands before its CAS and no drain
task is scheduled, running or finishing. -/
theorem stranded_during_start :
    StartsBeforeStop [.send 0, .schedule .send, .start, .startIdle] ∧ ∃ s : Inbox Nat,
      execute newInbox [.send 0, .schedule .send, .start, .startIdle] = some s ∧
      s.sendScheduling = 0 ∧ s.drainScheduling = 0 ∧ s.owners = 0 ∧ s.lenChecking = 0 ∧
      s.procStatus = .idle ∧ s.rb = [0] :=
  ⟨by simp [StartsBeforeStop], _, rfl, rfl, rfl, rfl, rfl, rfl, rfl⟩

/-- No lost wakeup: in every quiescent state reached from `NewInbox` by an
interleaving in which no `Start` follows a `Stop`, a mailbox that is neither
`stopped` nor `starting` is `idle` with an empty ring buffer. -/
theorem no_stranded_message {as : List (Action α)} (hacts : StartsBeforeStop as)
    (h : execute newInbox as = some s) (hq : s.Quiescent)
    (hst : s.procStatus ≠ .stopped ∧ s.procStatus ≠ .starting) :
    s.procStatus = .idle ∧ s.rb = [] := by
  have hinv := inv_of_execute hacts h
  obtain ⟨hp, ho⟩ := hq
  have hidle : s.procStatus = .idle := by
    cases hs : s.procStatus
    · exact absurd hs hst.1
    · exact absurd hs hst.2
    · rfl
    · have := hinv.owned.running hs; omega
  refine ⟨hidle, ?_⟩
  by_contra hne
  have := hinv.covered hidle hne
  omega

/-- `race`, with the re-scheduled drain task emptying the buffer and returning. -/
def drained : List (Action Nat) :=
  race ++ [.check, .pop, .invoke, .check, .pop, .finish, .lenCheck]

theorem no_stranded_message_after_race :
    StartsBeforeStop drained ∧ ∃ s : Inbox Nat, execute newInbox drained = some s ∧ s.Quiescent ∧
      (s.procStatus ≠ .stopped ∧ s.procStatus ≠ .starting) ∧ s.procStatus = .idle ∧ s.rb = [] := by
  have hs : execute newInbox drained = some { newInbox with procStatus := .idle } := rfl
  have hacts : StartsBeforeStop drained := by simp [drained, race, StartsBeforeStop]
  have hq : Quiescent ({ newInbox with procStatus := .idle } : Inbox Nat) := ⟨rfl, rfl⟩
  have hst : Status.idle ≠ .stopped ∧ Status.idle ≠ .starting := by decide
  exact ⟨hacts, _, hs, hq, hst, no_stranded_message hacts hs hq hst⟩

end Inbox
end Actor
