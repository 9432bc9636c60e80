import DistributedFramework.Actor.Process

/-! Invariants of a process over its whole life (`actor/types.go`).

Each step of the process code does one of three things to what an invariant
reads: it appends a delivery to the log, it counts a restart below
`MaxRestarts` (`tryRestart`), or it writes only fields other than the log and
the counter. A predicate that survives the three (`Invariant`) holds on every
way out of `Start`, `Invoke` and a whole `life`, whatever the receivers do and
however the inbox cuts the messages into batches (`Invariant.keeps_life`).
`Restarts.lean` instantiates it. -/

namespace Actor.Process
open Go

/-- The three kinds of step a predicate must survive. The code calls
`receiver.Receive` itself, past the middleware, only with `Stopped` or when
there is no middleware, so a delivery is only required to keep the predicate
then. -/
structure Invariant (o : Opts) (I : Process → Prop) : Prop where
  frame : ∀ {p p' : Process}, p'.log = p.log → p'.restarts = p.restarts → I p → I p'
  deliver : ∀ {p : Process} {route : Route} {input : Input},
    (route = .receiver → input = .stopped ∨ o.middleware = 0) → I p →
      I { p with log := p.log ++ [⟨p.incarnation, input, route⟩] }
  restart : ∀ {p : Process}, p.restarts ≠ o.maxRestarts → I p →
    I { p with restarts := p.restarts + 1 }

theorem keeps_recoverPanic {I : Process → Prop} {x : ProcM Unit} (hx : Keeps I x) :
    Keeps I (recoverPanic x) :=
  Keeps.tryCatch (hx.bind fun _ => keeps_pure _) fun
    | .panic _ => keeps_pure _
    | .outOfFuel => keeps_throw _

namespace Invariant
variable {o : Opts} {I : Process → Prop} (hI : Invariant o I)
include hI

theorem keeps_modify {f : Process → Process}
    (hf : ∀ p, (f p).log = p.log ∧ (f p).restarts = p.restarts) : Keeps I (modify f : ProcM PUnit) :=
  Go.keeps_modify fun p h => hI.frame (hf p).1 (hf p).2 h

theorem keeps_deliver {route : Route} {input : Input}
    (hr : route = .receiver → input = .stopped ∨ o.middleware = 0) :
    Keeps I (Process.deliver o route input) := by
  refine keeps_get_bind fun p hp => Keeps.bind (keeps_set (hI.deliver hr hp)) fun _ => ?_
  split
  · exact keeps_throw _
  · exact keeps_pure _

/-- A call through the middleware chain. -/
theorem keeps_deliver_middleware (input : Input) : Keeps I (Process.deliver o .middleware input) :=
  hI.keeps_deliver nofun

/-- `Stopped`, on either route. -/
theorem keeps_deliver_stopped (route : Route) : Keeps I (Process.deliver o route .stopped) :=
  hI.keeps_deliver fun _ => .inl rfl

theorem keeps_broadcastEvent (ev : Event) : Keeps I (broadcastEvent ev) :=
  hI.keeps_modify fun _ => ⟨rfl, rfl⟩

theorem keeps_invokeMsg (e : Envelope) : Keeps I (invokeMsg o e) := by
  unfold invokeMsg
  split
  · exact keeps_pure _
  · exact hI.keeps_deliver fun h => .inr (by split at h <;> first | omega | cases h)

theorem keeps_cleanup (cancel : Bool) : Keeps I (cleanup o cancel) := by
  have hbody : Keeps I (cleanupBody o) := by
    refine (hI.keeps_modify ?_).bind fun _ => (hI.keeps_modify ?_).bind fun _ =>
      (hI.keeps_deliver_middleware _).bind fun _ => hI.keeps_broadcastEvent _
    all_goals exact fun _ => ⟨rfl, rfl⟩
  refine Keeps.bind (keeps_recoverPanic hbody) fun r => ?_
  dsimp only
  split
  · exact Keeps.bind (keeps_throw _) fun _ => by split <;> first | exact keeps_throw _ | exact keeps_pure _
  · exact Keeps.bind (keeps_pure _) fun _ => by split <;> first | exact keeps_throw _ | exact keeps_pure _

theorem keeps_invokeLoop (msgs : List Envelope) :
    ∀ (nproc processed : Nat) (rest : List Envelope), Keeps I (invokeLoop o msgs nproc processed rest)
  | _, _, [] => keeps_pure _
  | nproc, processed, msg :: rest => by
    unfold invokeLoop
    split
    · refine Keeps.bind (keeps_recoverPanic ?_) fun _ => keeps_pure _
      dsimp only
      split
      · exact Keeps.bind (Keeps.forM hI.keeps_invokeMsg _) fun _ => hI.keeps_cleanup _
      · exact Keeps.bind (keeps_pure _) fun _ => hI.keeps_cleanup _
    · refine Keeps.bind (keeps_recoverPanic (hI.keeps_invokeMsg msg)) fun r => ?_
      split
      · exact keeps_pure _
      · exact keeps_invokeLoop msgs _ _ rest

section
variable {restart : Panic → ProcM Unit} (hr : ∀ v, Keeps I (restart v))
include hr

theorem keeps_invokeWith (msgs : List Envelope) : Keeps I (invokeWith o restart msgs) := by
  refine Keeps.bind (hI.keeps_invokeLoop msgs 0 0 msgs) fun r => ?_
  split
  · exact keeps_pure _
  · refine (hI.keeps_deliver_stopped _).bind fun _ => (hI.keeps_modify ?_).bind fun _ => hr _
    exact fun _ => ⟨rfl, rfl⟩

theorem keeps_startWith : Keeps I (startWith o restart) := by
  have hbody : Keeps I (startBody o restart) := by
    refine (hI.keeps_deliver_middleware _).bind fun _ => (hI.keeps_broadcastEvent _).bind fun _ =>
      (hI.keeps_deliver_middleware _).bind fun _ => (hI.keeps_broadcastEvent _).bind fun _ =>
        keeps_get_bind fun p _ => ?_
    dsimp only
    have hstart : Keeps I (modify inboxStart : ProcM PUnit) :=
      hI.keeps_modify fun p => by unfold inboxStart; split <;> exact ⟨rfl, rfl⟩
    split
    · refine (hI.keeps_invokeWith hr _).bind fun _ => (hI.keeps_modify ?_).bind fun _ => hstart
      exact fun _ => ⟨rfl, rfl⟩
    · exact Keeps.bind (keeps_pure _) fun _ => hstart
  refine (hI.keeps_modify ?_).bind fun _ => Keeps.bind (keeps_recoverPanic hbody) fun r => ?_
  · exact fun _ => ⟨rfl, rfl⟩
  · split
    · exact keeps_pure _
    · exact (hI.keeps_deliver_stopped _).bind fun _ => hr _

end

theorem keeps_tryRestartWith {start : ProcM Unit} (hs : Keeps I start) (v : Panic) :
    Keeps I (tryRestartWith o start v) := by
  unfold tryRestartWith
  split
  · exact hs
  · refine keeps_get_bind fun p hp => ?_
    split
    · exact (hI.keeps_broadcastEvent _).bind fun _ => hI.keeps_cleanup _
    · exact (keeps_set (hI.restart ‹_› hp)).bind fun _ => (hI.keeps_broadcastEvent _).bind fun _ => hs

/-- `Start`, through any number of restarts, keeps the invariant on every way out. -/
theorem keeps_start : ∀ fuel, Keeps I (start o fuel)
  | 0 => keeps_throw _
  | fuel + 1 => hI.keeps_startWith (hI.keeps_tryRestartWith (keeps_start fuel))

theorem keeps_invoke (fuel : Nat) (msgs : List Envelope) : Keeps I (invoke o fuel msgs) :=
  hI.keeps_invokeWith (hI.keeps_tryRestartWith (hI.keeps_start fuel)) msgs

/-- A whole life keeps the invariant, however the inbox cuts it into batches. -/
theorem keeps_life (fuel : Nat) (batches : List (List Envelope)) : Keeps I (life o fuel batches) := by
  refine Keeps.bind (hI.keeps_start fuel) fun _ => ?_
  induction batches with
  | nil => exact keeps_pure _
  | cons b bs ih =>
    refine keeps_get_bind fun _ _ => ?_
    split
    · exact keeps_pure _
    · exact Keeps.bind (hI.keeps_invoke fuel b) fun _ => ih

end Invariant

end Actor.Process
