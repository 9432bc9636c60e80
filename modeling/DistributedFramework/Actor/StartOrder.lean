import DistributedFramework.Actor.Process

/-! The start sequence of a process over its whole life (`actor/types.go`,
`Start`, `Invoke`, `tryRestart`, `cleanup`).

`Start` hands each new receiver `Initialized`, then `Started`, and only then
replays `mbuffer` and starts the inbox. Receivers may panic anywhere, `Invoke`
and `Start` then restart the process, and the restarts nest (a replayed
message that panics restarts from inside `Start`). The calls of the receivers
still keep the order: every receiver's first call is `Initialized` through the
middleware, and a user message reaches a receiver only after that receiver was
handed `Started` (`StartOrdered`).

The proof follows the three states a process passes through: `Good` (the log
is start ordered), `Begun` (and the current receiver has had a call) and
`Ready` (and the current receiver has had `Started`). Code that keeps the
current receiver keeps `Ready` and `Begun` on every way out; `startWith`
replaces it and ends `Ready` when it returns (`hoare_startWith`).

Proved here: `start_ordered_life`, for every `Opts` (every receiver
behaviour, `MaxRestarts` and middleware), every fuel and every cut of the
inbox into batches. -/

namespace Actor
open Go

/-- Whether a receiver input is a user message. -/
def Input.isUser : Input → Bool
  | .user _ _ => true
  | _ => false

/-- Every delivery that is the first of its receiver is `Initialized` through
the middleware, and every user message comes after a `Started` to the same
receiver. -/
def StartOrdered (l : List Delivery) : Prop :=
  ∀ pre d, pre ++ [d] <+: l →
    ((∀ e ∈ pre, e.incarnation ≠ d.incarnation) → d.input = .initialized ∧ d.route = .middleware) ∧
      (d.input.isUser → ⟨d.incarnation, .started, .middleware⟩ ∈ pre)

theorem startOrdered_nil : StartOrdered [] := fun pre d h => by
  simpa using h.length_le

theorem StartOrdered.append {l : List Delivery} {d : Delivery} (h : StartOrdered l)
    (hfirst : (∀ e ∈ l, e.incarnation ≠ d.incarnation) → d.input = .initialized ∧ d.route = .middleware)
    (huser : d.input.isUser → ⟨d.incarnation, .started, .middleware⟩ ∈ l) :
    StartOrdered (l ++ [d]) := fun pre d' hp => by
  rcases List.prefix_concat_iff.mp hp with heq | hp
  · obtain ⟨rfl, hd⟩ := List.append_inj' heq rfl
    obtain rfl := List.singleton_inj.mp hd
    exact ⟨hfirst, huser⟩
  · exact h pre d' hp

namespace Process

/-- The log is start ordered and names no receiver past the current one. -/
structure Good (p : Process) : Prop where
  ordered : StartOrdered p.log
  bounded : ∀ d ∈ p.log, d.incarnation ≤ p.incarnation

/-- The current receiver has had a call. -/
def Begun (p : Process) : Prop := p.Good ∧ ∃ d ∈ p.log, d.incarnation = p.incarnation

/-- The current receiver has had `Started`. -/
def Ready (p : Process) : Prop :=
  p.Good ∧ (⟨p.incarnation, .started, .middleware⟩ : Delivery) ∈ p.log

theorem Ready.begun {p : Process} (h : p.Ready) : p.Begun := ⟨h.1, _, h.2, rfl⟩

theorem good_newProcess : newProcess.Good := ⟨startOrdered_nil, nofun⟩

/-- One more call to the current receiver keeps the log good when it is not
the receiver's first call or is `Initialized` through the middleware, and is
not a user message before `Started`. -/
theorem Good.deliver {p : Process} {route : Route} {input : Input} (h : p.Good)
    (hfirst : (∀ e ∈ p.log, e.incarnation ≠ p.incarnation) →
      input = .initialized ∧ route = .middleware)
    (huser : input.isUser → ⟨p.incarnation, .started, .middleware⟩ ∈ p.log) :
    Good { p with log := p.log ++ [⟨p.incarnation, input, route⟩] } where
  ordered := h.ordered.append hfirst huser
  bounded d hd := by
    rcases List.mem_append.mp hd with hd | hd
    · exact h.bounded d hd
    · rw [List.mem_singleton.mp hd]

section
variable (o : Opts)

/-- A call ends, whether the receiver panics or not, in the state with the
delivery logged. -/
theorem hoare_deliver {P Q : Process → Prop} {route : Route} {input : Input}
    (h : ∀ p, P p → Q { p with log := p.log ++ [⟨p.incarnation, input, route⟩] }) :
    Hoare P (Process.deliver o route input) (fun _ => Q) Q := fun p hp => by
  cases hr : o.receive p.log ⟨p.incarnation, input, route⟩ with
  | none => rw [deliver_of_none o hr]; exact h p hp
  | some v => rw [deliver_of_some o hr]; exact h p hp

theorem Begun.deliver {p : Process} {route : Route} {input : Input} (h : p.Begun)
    (hu : input.isUser = false) : Begun { p with log := p.log ++ [⟨p.incarnation, input, route⟩] } := by
  obtain ⟨hg, e, he, hinc⟩ := h
  refine ⟨hg.deliver (fun hall => absurd hinc (hall e he)) (by simp [hu]), e, by simp [he], hinc⟩

theorem Ready.deliver {p : Process} {route : Route} {input : Input} (h : p.Ready) :
    Ready { p with log := p.log ++ [⟨p.incarnation, input, route⟩] } :=
  ⟨h.1.deliver (fun hall => absurd rfl (hall _ h.2)) fun _ => h.2, by simp [h.2]⟩

/-- The first call of a receiver, `Initialized` through the middleware, begins it. -/
theorem Good.initialize {p : Process} (h : p.Good) :
    Begun { p with log := p.log ++ [⟨p.incarnation, .initialized, .middleware⟩] } :=
  ⟨h.deliver (fun _ => ⟨rfl, rfl⟩) nofun, _, List.mem_append_right _ (List.mem_singleton_self _), rfl⟩

/-- `Started` through the middleware makes a begun receiver ready. -/
theorem Begun.start {p : Process} (h : p.Begun) :
    Ready { p with log := p.log ++ [⟨p.incarnation, .started, .middleware⟩] } :=
  ⟨(h.deliver (rfl : Input.started.isUser = false)).1, by simp⟩

/-! ### What reads only the log and the current receiver -/

theorem Good.frame {p p' : Process} (h : p.Good) (hl : p'.log = p.log)
    (hi : p'.incarnation = p.incarnation) : p'.Good :=
  ⟨hl ▸ h.ordered, fun d hd => hi ▸ h.bounded d (hl ▸ hd)⟩

theorem Begun.frame {p p' : Process} (h : p.Begun) (hl : p'.log = p.log)
    (hi : p'.incarnation = p.incarnation) : p'.Begun :=
  ⟨h.1.frame hl hi, by rw [hl, hi]; exact h.2⟩

theorem Ready.frame {p p' : Process} (h : p.Ready) (hl : p'.log = p.log)
    (hi : p'.incarnation = p.incarnation) : p'.Ready :=
  ⟨h.1.frame hl hi, by rw [hl, hi]; exact h.2⟩

theorem inboxStart_frame (p : Process) :
    (inboxStart p).log = p.log ∧ (inboxStart p).incarnation = p.incarnation := by
  unfold inboxStart; split <;> exact ⟨rfl, rfl⟩

theorem hoare_broadcastEvent {I E : Process → Prop}
    (hI : ∀ {p p' : Process}, I p → p'.log = p.log → p'.incarnation = p.incarnation → I p')
    (ev : Event) : Hoare I (broadcastEvent ev) (fun _ => I) E :=
  hoare_modify fun _ hp => hI hp rfl rfl

/-- `recover()`: the guarded code's normal end when it found no panic, its
panicking end when it did. -/
theorem hoare_recoverPanic {P Q E : Process → Prop} {x : ProcM Unit}
    (h : Hoare P x (fun _ => Q) E) :
    Hoare P (recoverPanic x) (fun r p => match r with | none => Q p | some _ => E p) E :=
  fun p hp => by
    have h := h p hp
    cases hx : x p with
    | ok a p' => rw [hx] at h; rw [recoverPanic_of_ok hx]; exact h
    | error e p' =>
      rw [hx] at h
      cases e with
      | panic v => rw [recoverPanic_of_panic hx]; exact h
      | outOfFuel =>
        rw [recoverPanic, tryCatch_apply, seqRight_apply, bind_apply_of_error hx]; exact h

theorem hoare_recoverPanic_keeps {I : Process → Prop} {x : ProcM Unit}
    (h : Hoare I x (fun _ => I) I) : Hoare I (recoverPanic x) (fun _ => I) I :=
  (hoare_recoverPanic h).mono (fun _ h => h) (fun r _ h => by cases r <;> exact h) fun _ h => h

/-! ### Code that keeps the current receiver -/

section
variable {I : Process → Prop}
  (hframe : ∀ {p p' : Process}, I p → p'.log = p.log → p'.incarnation = p.incarnation → I p')
  (hstop : ∀ {p : Process} (route : Route), I p →
    I { p with log := p.log ++ [⟨p.incarnation, .stopped, route⟩] })
include hframe hstop

theorem hoare_cleanupBody : Hoare I (cleanupBody o) (fun _ => I) I :=
  (hoare_modify (Q := fun _ => I) fun _ hp => by exact hframe hp rfl rfl).bind fun _ =>
    (hoare_modify (Q := fun _ => I) fun _ hp => by exact hframe hp rfl rfl).bind fun _ =>
      (hoare_deliver o fun _ hp => hstop _ hp).bind fun _ => hoare_broadcastEvent hframe _

/-- `cleanup` keeps `I` on every way out, and returns only with a non-nil `cancel`. -/
theorem hoare_cleanup (cancel : Bool) :
    Hoare I (cleanup o cancel) (fun _ p => cancel = true ∧ I p) I := by
  refine (hoare_recoverPanic_keeps (hoare_cleanupBody o hframe hstop)).bind fun r => ?_
  dsimp only
  split
  next => exact (hoare_throw (Q := fun _ _ => False) _ fun _ h => h).bind fun _ _ h => h.elim
  next hc =>
    refine (hoare_pure (Q := fun _ => I) _ fun _ h => h).bind fun _ => ?_
    cases r with
    | none => exact hoare_pure _ fun _ h => ⟨by simpa using hc, h⟩
    | some v => exact hoare_throw _ fun _ h => h

end

theorem hoare_invokeMsg (e : Envelope) : Hoare Ready (invokeMsg o e) (fun _ => Ready) Ready := by
  unfold invokeMsg
  split
  · exact hoare_pure _ fun _ h => h
  · exact hoare_deliver o fun _ hp => hp.deliver

theorem hoare_invokeLoop (msgs : List Envelope) :
    ∀ (nproc processed : Nat) (rest : List Envelope),
      Hoare Ready (invokeLoop o msgs nproc processed rest) (fun _ => Ready) Ready
  | _, _, [] => hoare_pure _ fun _ h => h
  | nproc, processed, msg :: rest => by
    have hclean (c : Bool) : Hoare Ready (cleanup o c) (fun _ => Ready) Ready :=
      (hoare_cleanup o (fun h hl hi => h.frame hl hi) (fun _ hp => hp.deliver) c).mono
        (fun _ h => h) (fun _ _ h => h.2) fun _ h => h
    unfold invokeLoop
    split
    · refine (hoare_recoverPanic_keeps ?_).bind fun r => hoare_pure _ fun _ h => h
      dsimp only
      split
      · exact (hoare_forM (hoare_invokeMsg o) _).bind fun _ => hclean _
      · exact (hoare_pure _ fun _ h => h).bind fun _ => hclean _
    · refine (hoare_recoverPanic_keeps (hoare_invokeMsg o msg)).bind fun r => ?_
      split
      · exact hoare_pure _ fun _ h => h
      · exact hoare_invokeLoop msgs _ _ rest

/-! ### Code that starts a receiver -/

section
variable {restart : Panic → ProcM Unit} (hr : ∀ v, Hoare Begun (restart v) (fun _ => Ready) Begun)
include hr

theorem hoare_invokeWith (msgs : List Envelope) :
    Hoare Ready (invokeWith o restart msgs) (fun _ => Ready) Begun := by
  refine ((hoare_invokeLoop o msgs 0 0 msgs).mono_error fun _ h => h.begun).bind fun r => ?_
  split
  · exact hoare_pure _ fun _ h => h
  · exact ((hoare_deliver o fun _ hp => hp.deliver).mono_error fun _ h => h.begun).bind fun _ =>
      (hoare_modify fun _ hp => hp.begun.frame rfl rfl).bind fun _ => hr _

theorem hoare_startBody : Hoare Good (startBody o restart) (fun _ => Ready) Begun := by
  refine (hoare_deliver o fun _ hp => hp.initialize).bind fun _ =>
    (hoare_broadcastEvent (fun h hl hi => h.frame hl hi) _).bind fun _ =>
      ((hoare_deliver o fun _ hp => hp.start).mono_error fun _ h => h.begun).bind fun _ =>
        (hoare_broadcastEvent (fun h hl hi => h.frame hl hi) _).bind fun _ =>
          hoare_get_bind fun p hp => Hoare.mono (P := Ready) ?_ (fun _ hq => hq ▸ hp)
            (fun _ _ h => h) fun _ h => h
  have hstart : Hoare Ready (modify inboxStart : ProcM PUnit) (fun _ => Ready) Begun :=
    hoare_modify fun q hq => hq.frame (inboxStart_frame q).1 (inboxStart_frame q).2
  dsimp only
  split
  · exact (hoare_invokeWith o hr _).bind fun _ =>
      (hoare_modify fun _ hq => hq.frame rfl rfl).bind fun _ => hstart
  · exact (hoare_pure _ fun _ h => h).bind fun _ => hstart

/-- `Start` replaces the receiver and, when it returns, has handed the new one
`Started`; a panic it recovers from is handled with the new receiver begun. -/
theorem hoare_startWith : Hoare Good (startWith o restart) (fun _ => Ready) Begun := by
  refine (hoare_modify (Q := fun _ => Good) fun p hp =>
    ⟨hp.ordered, fun d hd => Nat.le_succ_of_le (hp.bounded d hd)⟩).bind fun _ =>
      (hoare_recoverPanic (hoare_startBody o hr)).bind fun r => ?_
  cases r with
  | none => exact hoare_pure _ fun _ h => h
  | some v => exact (hoare_deliver o fun _ hp => hp.deliver rfl).bind fun _ => hr v

end

theorem hoare_tryRestartWith {start : ProcM Unit} (hs : Hoare Begun start (fun _ => Ready) Begun)
    (v : Panic) : Hoare Begun (tryRestartWith o start v) (fun _ => Ready) Begun := by
  unfold tryRestartWith
  split
  · exact hs
  · refine hoare_get_bind fun p hp => Hoare.mono (P := Begun) ?_ (fun _ hq => hq ▸ hp)
      (fun _ _ h => h) fun _ h => h
    split
    · exact (hoare_broadcastEvent (fun h hl hi => h.frame hl hi) _).bind fun _ =>
        (hoare_cleanup o (fun h hl hi => h.frame hl hi) (fun _ hp => hp.deliver rfl) false).mono
          (fun _ h => h) (fun _ _ h => absurd h.1 Bool.false_ne_true) fun _ h => h
    · exact (hoare_set (by exact hp.frame rfl rfl)).bind fun _ =>
        (hoare_broadcastEvent (fun h hl hi => h.frame hl hi) _).bind fun _ => hs

/-- A restart, through any number of nested restarts, ends with a ready receiver
when it returns. -/
theorem hoare_start : ∀ fuel, Hoare Begun (start o fuel) (fun _ => Ready) Begun
  | 0 => hoare_throw _ fun _ h => h
  | fuel + 1 => (hoare_startWith o (hoare_tryRestartWith o (hoare_start fuel))).mono
      (fun _ h => h.1) (fun _ _ h => h) fun _ h => h

theorem hoare_start_good (fuel : Nat) : Hoare Good (start o fuel) (fun _ => Ready) Good := by
  cases fuel with
  | zero => exact hoare_throw _ fun _ h => h
  | succ fuel =>
    exact (hoare_startWith o (hoare_tryRestartWith o (hoare_start o fuel))).mono_error fun _ h => h.1

theorem hoare_run (fuel : Nat) : ∀ bs, Hoare Ready (run o fuel bs) (fun _ => Ready) Begun
  | [] => hoare_pure _ fun _ h => h
  | b :: bs => hoare_get_bind fun p hp => by
    refine Hoare.mono (P := Ready) ?_ (fun _ hq => hq ▸ hp) (fun _ _ h => h) fun _ h => h
    split
    · exact hoare_pure _ fun _ h => h
    · exact (hoare_invokeWith o (hoare_tryRestartWith o (hoare_start o fuel)) b).bind fun _ =>
        hoare_run fuel bs

theorem hoare_life (fuel : Nat) (bs : List (List Envelope)) :
    Hoare Good (life o fuel bs) (fun _ => Good) Good :=
  (hoare_start_good o fuel).bind fun _ => (hoare_run o fuel bs).mono (fun _ h => h)
    (fun _ _ h => h.1) fun _ h => h.1

end

/-- Over a whole life, whatever the receivers do, however often they panic and
however the inbox cuts the messages into batches, every receiver's first call
is `Initialized` through the middleware, and no user message reaches a
receiver before it was handed `Started`. -/
theorem start_ordered_life (o : Opts) (fuel : Nat) (batches : List (List Envelope)) :
    StartOrdered (finalState (life o fuel batches newProcess)).log := by
  have h := hoare_life o fuel batches newProcess good_newProcess
  cases hr : life o fuel batches newProcess <;> rw [hr] at h <;> exact h.ordered

end Process

end Actor
