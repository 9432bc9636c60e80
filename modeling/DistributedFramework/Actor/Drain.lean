import DistributedFramework.Actor.Process

/-! A process stopped by a graceful poison pill, with its senders, the ring
buffer of its inbox and the drain task run against each other.

`SendLocal` (and `Poison`, which reaches the process the same way) looks the
pid up in the registry and pushes into the inbox, or broadcasts a
`DeadLetterEvent` when the registry has no entry; the lookup and the push are
one step here. The drain task loops in `run`: while the inbox is not stopped it
takes a batch with `PopN(messageBatchSize)` and hands it to `Invoke`, which for
a graceful pill hands the rest of the batch to the receiver and then runs
`cleanup`: `inbox.Stop()` and `Registry.Remove`.

Proved here, for a receiver that never panics and pills that are graceful and
carry a `cancel`:

* `invoke_graceful`: `Invoke` hands every user message of its batch to the
  receiver, those after the pill included;
* `run_inv`: along every run, each message pushed into the inbox has been
  handed to the receiver, is in the batch the drain task holds, or is still in
  the ring buffer;
* `run_of_unregistered`: once the drain task has ended and the registry entry
  is gone, no step hands a message to the receiver or empties the ring buffer;
* `pushed_during_drain_is_stranded`: a message sent after the batch with the
  pill was taken and before `Registry.Remove` stays in the ring buffer, never
  handed to the receiver and never reported as a dead letter. -/

namespace Actor
open Go

/-- The user messages of some envelopes, with their senders. -/
def users (es : List Envelope) : List (Nat × Option Nat) :=
  es.filterMap fun e => match e.msg with
    | .user m => some (m, e.sender)
    | .poisonPill _ _ => none

@[simp] theorem users_nil : users [] = [] := rfl

theorem users_cons (e : Envelope) (es : List Envelope) : users (e :: es) = users [e] ++ users es := by
  simp only [users, List.filterMap_cons, List.filterMap_nil]; split <;> rfl

/-- The user messages the receivers of a process were handed. -/
def handled (p : Process) : List (Nat × Option Nat) :=
  p.log.filterMap fun d => match d.input with
    | .user m s => some (m, s)
    | _ => none

/-- A user message, or a pill that is graceful and carries a `cancel`, as
`Poison` and `PoisonCtx` send. -/
def Graceful (e : Envelope) : Prop := e.msg = .poisonPill true true ∨ ∃ m, e.msg = .user m

namespace Process

section
variable (o : Opts) (hr : ∀ l d, o.receive l d = none)
include hr

theorem invokeMsg_handled (e : Envelope) (p : Process) :
    ∃ p', invokeMsg o e p = .ok () p' ∧ handled p' = handled p ++ users [e] ∧
      p'.inbox = p.inbox ∧ p'.registered = p.registered := by
  unfold invokeMsg
  cases he : e.msg with
  | poisonPill g c => exact ⟨p, rfl, by simp [users, he], rfl, rfl⟩
  | user m => exact ⟨_, deliver_of_none o (hr _ _), by simp [handled, users, he], rfl, rfl⟩

theorem forM_invokeMsg_handled (es : List Envelope) (p : Process) :
    ∃ p', es.forM (invokeMsg o) p = .ok () p' ∧ handled p' = handled p ++ users es := by
  induction es generalizing p with
  | nil => exact ⟨p, rfl, by simp [users]⟩
  | cons e es ih =>
    obtain ⟨p₁, h₁, hh₁, -⟩ := invokeMsg_handled o hr e p
    obtain ⟨p₂, h₂, hh₂⟩ := ih p₁
    refine ⟨p₂, ?_, ?_⟩
    · rw [List.forM_cons', bind_apply_of_ok h₁, h₂]
    · rw [hh₂, hh₁, List.append_assoc, ← users_cons]

theorem cleanup_handled (p : Process) :
    ∃ p', cleanup o true p = .ok () p' ∧ handled p' = handled p ∧ p'.inbox = .stopped ∧
      p'.registered = false := by
  let q : Process := { p with inbox := .stopped, registered := false }
  let d : Delivery := ⟨q.incarnation, .stopped, .middleware⟩
  have hb : cleanupBody o p = .ok () { q with log := q.log ++ [d], events := q.events ++ [.actorStopped] } := by
    simp only [cleanupBody, modify_bind_apply]
    rw [bind_apply_of_ok (deliver_of_none o (hr _ _))]; rfl
  refine ⟨{ q with log := q.log ++ [d], events := q.events ++ [.actorStopped] }, ?_,
    by simp [handled, q, d], rfl, rfl⟩
  rw [cleanup, bind_apply_of_ok (recoverPanic_of_ok hb)]; rfl

/-- The loop of `Invoke` hands the receiver every user message from the current
one on, those after a graceful pill included, and never panics. -/
theorem invokeLoop_handled (msgs : List Envelope) :
    ∀ (rest : List Envelope) (nproc processed : Nat) (p : Process), msgs.drop processed = rest →
      (∀ e ∈ rest, Graceful e) →
      ∃ p', invokeLoop o msgs nproc processed rest p = .ok none p' ∧
        handled p' = handled p ++ users rest ∧ (p'.inbox = p.inbox ∨ p'.inbox = .stopped) := by
  intro rest
  induction rest with
  | nil => exact fun _ _ p _ _ => ⟨p, rfl, by simp [users], .inl rfl⟩
  | cons e rest ih =>
    intro nproc processed p hd hg
    rcases hg e (List.mem_cons_self _ _) with he | ⟨m, he⟩
    · obtain ⟨p₁, h₁, hh₁⟩ := forM_invokeMsg_handled o hr (e :: rest) p
      obtain ⟨p₂, h₂, hh₂, hs₂, -⟩ := cleanup_handled o hr p₁
      refine ⟨p₂, ?_, by rw [hh₂, hh₁], .inr hs₂⟩
      simp only [invokeLoop, he, if_true]
      rw [bind_apply_of_ok (@recoverPanic_of_ok _ p p₂ ?_)]
      · rfl
      · rw [hd, bind_apply_of_ok h₁, h₂]
    · obtain ⟨p₁, h₁, hh₁, hs₁, -⟩ := invokeMsg_handled o hr e p
      have htail : msgs.drop (processed + 1) = rest := by rw [← List.tail_drop, hd]; rfl
      obtain ⟨p₂, h₂, hh₂, hs₂⟩ := ih (nproc + 1) (processed + 1) p₁ htail
        fun e' he' => hg e' (List.mem_cons_of_mem _ he')
      refine ⟨p₂, ?_, by rw [hh₂, hh₁, List.append_assoc, ← users_cons], hs₁ ▸ hs₂⟩
      simp only [invokeLoop, he]
      rw [bind_apply_of_ok (recoverPanic_of_ok h₁)]
      exact h₂

/-- `Invoke` hands the receiver every user message of its batch. -/
theorem invoke_graceful (fuel : Nat) {msgs : List Envelope} (hg : ∀ e ∈ msgs, Graceful e)
    (p : Process) : ∃ p', invoke o fuel msgs p = .ok () p' ∧ handled p' = handled p ++ users msgs ∧
      (p'.inbox = p.inbox ∨ p'.inbox = .stopped) := by
  obtain ⟨p', h, hh, hs⟩ := invokeLoop_handled o hr msgs msgs 0 0 p rfl hg
  exact ⟨p', by rw [invoke, invokeWith, bind_apply_of_ok h]; rfl, hh, hs⟩

end

end Process

/-- The drain task of the inbox: none scheduled, in the loop of `run`, or
holding the batch `PopN` returned. -/
inductive Task where
  | none
  | loop
  | batch (msgs : List Envelope)
  deriving DecidableEq, Repr

/-- The batch a drain task holds. -/
def Task.held : Task → List Envelope
  | .batch msgs => msgs
  | _ => []

@[simp] theorem Task.held_batch (msgs : List Envelope) : (Task.batch msgs).held = msgs := rfl
@[simp] theorem Task.held_loop : Task.loop.held = [] := rfl

/-- A process with the ring buffer of its inbox, its drain task, every envelope
pushed into the ring buffer, and the envelopes of the `DeadLetterEvent`s that
sends to it broadcast. -/
structure Mailbox where
  proc : Process
  rb : List Envelope
  task : Task
  pushed : List Envelope
  deadLetters : List Envelope

inductive Step where
  /-- `SendLocal(pid, msg, sender)`, or the pill of `Poison` -/
  | send (e : Envelope)
  /-- the drain task takes its next step -/
  | drain

namespace Mailbox

variable (o : Opts) (fuel : Nat)

/-- One step: a send pushes and calls `schedule()`, whose CAS `idle → running`
schedules a drain task; the drain task checks the status, pops a batch, or
invokes the batch it holds. At the end of `run`, the CAS `running → idle` of
`process()` fails on a stopped inbox. -/
def step (s : Mailbox) : Step → Option Mailbox
  | .send e =>
    if s.proc.registered then
      if s.proc.inbox = .idle then
        some { s with
          rb := s.rb ++ [e]
          pushed := s.pushed ++ [e]
          proc := { s.proc with inbox := .running }
          task := .loop }
      else some { s with rb := s.rb ++ [e], pushed := s.pushed ++ [e] }
    else some { s with deadLetters := s.deadLetters ++ [e] }
  | .drain =>
    match s.task with
    | .none => none
    | .loop =>
      if s.proc.inbox = .stopped then some { s with task := .none }
      else if s.rb.isEmpty then some { s with proc := { s.proc with inbox := .idle }, task := .none }
      else some { s with rb := s.rb.drop messageBatchSize, task := .batch (s.rb.take messageBatchSize) }
    | .batch msgs =>
      match Process.invoke o fuel msgs s.proc with
      | .ok _ p => some { s with proc := p, task := .loop }
      | .error _ _ => none

def run (s : Mailbox) : List Step → Option Mailbox
  | [] => some s
  | st :: sts => (s.step o fuel st).bind (·.run sts)

theorem run_append (s : Mailbox) (a b : List Step) :
    s.run o fuel (a ++ b) = (s.run o fuel a).bind (·.run o fuel b) := by
  induction a generalizing s with
  | nil => rfl
  | cons st sts ih => simp only [List.cons_append, run, List.append_eq, ih, Option.bind_assoc]

theorem users_append (a b : List Envelope) : users (a ++ b) = users a ++ users b :=
  List.filterMap_append _ _ _

/-- Every envelope pushed into the ring buffer has been handed to the receiver,
is in the batch the drain task holds, or is still in the ring buffer, in the
order it was pushed (`base` is what the receiver had been handed before); and
an idle inbox has no drain task. -/
structure Inv (base : List (Nat × Option Nat)) (s : Mailbox) : Prop where
  conserved : handled s.proc ++ users s.task.held ++ users s.rb = base ++ users s.pushed
  idle : s.proc.inbox = .idle → s.task = .none
  graceful : ∀ e ∈ s.task.held ++ s.rb, Graceful e

section
variable {o} (hr : ∀ l d, o.receive l d = none) {base : List (Nat × Option Nat)}
include hr

theorem step_inv {s s' : Mailbox} {st : Step} (hg : ∀ e, st = .send e → Graceful e)
    (hi : Inv base s) (hs : s.step o fuel st = some s') : Inv base s' := by
  obtain ⟨hc, hidle, hgr⟩ := hi
  cases st with
  | send e =>
    have hc' : handled s.proc ++ users s.task.held ++ users (s.rb ++ [e]) =
        base ++ users (s.pushed ++ [e]) := by
      simp only [users_append, ← List.append_assoc, hc]
    have hge : ∀ e' ∈ s.task.held ++ (s.rb ++ [e]), Graceful e' := by
      intro e' he'
      rw [← List.append_assoc, List.mem_append, List.mem_singleton] at he'
      rcases he' with h | rfl
      exacts [hgr e' h, hg e' rfl]
    simp only [step] at hs
    split_ifs at hs with h₁ h₂ <;> cases hs
    · rw [hidle h₂] at hc' hge
      exact ⟨hc', fun h => (by cases h), hge⟩
    · exact ⟨hc', hidle, hge⟩
    · exact ⟨hc, hidle, hgr⟩
  | drain =>
    simp only [step] at hs
    split at hs
    · cases hs
    · rename_i ht
      rw [ht] at hc hgr
      split_ifs at hs <;> cases hs
      · exact ⟨hc, fun _ => rfl, hgr⟩
      · exact ⟨hc, fun _ => rfl, hgr⟩
      · -- `PopN` moves the head of the ring buffer into the batch
        refine ⟨?_, fun h => absurd (hidle h) (by rw [ht]; nofun), ?_⟩
        · rw [Task.held_batch, List.append_assoc, ← users_append, List.take_append_drop, ← hc]
          simp only [Task.held_loop, users_nil, List.append_nil]
        · simpa only [Task.held_batch, List.take_append_drop] using hgr
    · rename_i msgs ht
      rw [ht] at hc hgr
      split at hs
      · rename_i p hp
        cases hs
        obtain ⟨p', hp', hh, hst⟩ :=
          Process.invoke_graceful o hr fuel (fun e (he : e ∈ msgs) => hgr e (List.mem_append_left _ he))
            s.proc
        rw [hp] at hp'
        cases hp'
        refine ⟨by rw [hh, Task.held_loop, users_nil, List.append_nil]; exact hc, fun h => ?_,
          fun e he => hgr e (List.mem_append_right _ he)⟩
        rcases hst with hst | hst <;> rw [hst] at h
        · exact absurd (hidle h) (by rw [ht]; nofun)
        · cases h
      · cases hs

/-- Along every run whose sends push user messages and graceful pills, every
envelope pushed into the ring buffer has been handed to the receiver, is in
the batch the drain task holds, or is still in the ring buffer. -/
theorem run_inv {s s' : Mailbox} {steps : List Step} (hg : ∀ e, .send e ∈ steps → Graceful e)
    (hi : Inv base s) (hs : s.run o fuel steps = some s') : Inv base s' := by
  induction steps generalizing s with
  | nil => cases hs; exact hi
  | cons st sts ih =>
    simp only [run, Option.bind_eq_some] at hs
    obtain ⟨t, ht, hs⟩ := hs
    exact ih (fun e he => hg e (List.mem_cons_of_mem _ he))
      (step_inv fuel hr (fun e he => hg e (he ▸ List.mem_cons_self _ _)) hi ht) hs

end

/-- Once the drain task has ended and the process has left the registry, a step
changes neither the process nor the ring buffer: a send becomes a dead letter,
and no drain task is left to run. -/
theorem step_of_unregistered {s s' : Mailbox} {st : Step} (hs : s.proc.registered = false)
    (ht : s.task = .none) (h : s.step o fuel st = some s') :
    s'.proc = s.proc ∧ s'.rb = s.rb ∧ s'.task = .none := by
  cases st with
  | send e => simp only [step, hs] at h; cases h; exact ⟨rfl, rfl, ht⟩
  | drain => simp only [step, ht] at h; cases h

theorem run_of_unregistered {s s' : Mailbox} {steps : List Step} (hs : s.proc.registered = false)
    (ht : s.task = .none) (h : s.run o fuel steps = some s') : s'.proc = s.proc ∧ s'.rb = s.rb := by
  induction steps generalizing s with
  | nil => cases h; exact ⟨rfl, rfl⟩
  | cons st sts ih =>
    simp only [run, Option.bind_eq_some] at h
    obtain ⟨t, hst, h⟩ := h
    obtain ⟨hp, hrb, htn⟩ := step_of_unregistered o fuel hs ht hst
    obtain ⟨hp', hrb'⟩ := ih (hp ▸ hs) htn h
    exact ⟨hp'.trans hp, hrb'.trans hrb⟩

/-- Receivers that never panic, with default options. -/
def quiet : Opts := ⟨defaultMaxRestarts, 0, fun _ _ => none⟩

/-- A process right after `Start`, whose drain task is about to run. -/
def started : Mailbox :=
  ⟨finalState (Process.start quiet 1 Process.newProcess), [], .loop, [], []⟩

/-- Two user messages, then a graceful pill, each taken by the drain task. -/
def usersThenPill : List Step :=
  [.drain, .send ⟨.user 1, none⟩, .send ⟨.user 2, some 7⟩, .drain, .drain,
    .send ⟨.poisonPill true true, none⟩, .drain, .drain, .drain]

/-- `usersThenPill` after its first seven steps: both users handled in one
batch, and the pill taken as the next. Evaluating the run through this state
spares re-evaluating the first batch at every field the pill's cleanup reads. -/
def usersHandled : Mailbox :=
  ⟨⟨0, [], 1, .running, true, [⟨1, .initialized, .middleware⟩, ⟨1, .started, .middleware⟩,
      ⟨1, .user 1 none, .receiver⟩, ⟨1, .user 2 (some 7), .receiver⟩], [.actorInitialized, .actorStarted]⟩,
    [], .batch [⟨.poisonPill true true, none⟩],
    [⟨.user 1, none⟩, ⟨.user 2, some 7⟩, ⟨.poisonPill true true, none⟩], []⟩

theorem run_inv_usersThenPill :
    (∀ e, .send e ∈ usersThenPill → Graceful e) ∧ Inv (handled started.proc) started ∧
      ∃ s, started.run quiet 0 usersThenPill = some s ∧ Inv (handled started.proc) s :=
  have hg : ∀ e, .send e ∈ usersThenPill → Graceful e := by simp [usersThenPill, Graceful]
  have hi : Inv (handled started.proc) started :=
    ⟨by simp [started], fun h => absurd h (by decide), nofun⟩
  have hr : started.run quiet 0 usersThenPill = usersHandled.run quiet 0 [.drain, .drain] :=
    (run_append quiet 0 started (usersThenPill.take 7) [.drain, .drain]).trans
      (by rw [show started.run quiet 0 (usersThenPill.take 7) = some usersHandled from rfl]; rfl)
  ⟨hg, hi, _, hr.trans rfl, run_inv 0 (fun _ _ => rfl : ∀ l d, quiet.receive l d = none) hg hi (hr.trans rfl)⟩

/-- `m1` and the graceful pill are sent; the drain task takes both in one batch;
`m2` is sent, finds the process still registered and is pushed; the batch runs,
stopping the inbox and leaving the registry; the drain task ends. `m2` is left
in the ring buffer, handed to no receiver and reported by no `DeadLetterEvent`. -/
theorem pushed_during_drain_is_stranded :
    ∃ s, started.run quiet 0 [.drain, .send ⟨.user 1, none⟩, .send ⟨.poisonPill true true, none⟩,
        .drain, .send ⟨.user 2, none⟩, .drain, .drain] = some s ∧
      s.pushed = [⟨.user 1, none⟩, ⟨.poisonPill true true, none⟩, ⟨.user 2, none⟩] ∧
      s.rb = [⟨.user 2, none⟩] ∧ handled s.proc = [(1, none)] ∧ s.deadLetters = [] ∧
      s.proc.registered = false ∧ s.task = .none :=
  ⟨_, rfl, rfl, rfl, rfl, rfl, rfl, rfl⟩

end Mailbox

end Actor
