import DistributedFramework.Actor.Supervision

/-! `applyMiddleware` and the route of every call of a receiver
(`actor/types.go` lines 79-173).

`applyMiddleware(rcv, m1, ..., mn)` wraps the receive function from the last
middleware to the first, so the chain is `m1(m2(...mn(rcv)))`. A call of a
receiver goes through that chain (`Route.middleware`) or calls
`receiver.Receive` itself (`Route.receiver`).

Proved here:

* `applyMiddleware_eq_foldr`: the chain has the first-registered middleware
  outermost, for every middleware list;
* `recover_stopped_bypasses_middleware`: with one middleware, the `Stopped`
  that the recover handlers of `Invoke` and `Start` hand the receiver both go
  past it. -/

namespace Actor
open Go

/-- `applyMiddleware(rcv, middleware...)`: for `i` from `len(middleware) - 1`
down to `0`, `rcv = middleware[i](rcv)`. -/
def applyMiddleware {R : Type} (rcv : R) (middleware : List (R → R)) : R :=
  (List.range middleware.length).reverse.foldl (fun rcv i => (middleware.getD i id) rcv) rcv

private theorem foldl_range_reverse {R : Type} (ms : List (R → R)) :
    ∀ (k : Nat) (rcv : R), k ≤ ms.length →
      (List.range k).reverse.foldl (fun rcv i => (ms.getD i id) rcv) rcv =
        (ms.take k).foldr (fun m r => m r) rcv
  | 0, _, _ => rfl
  | k + 1, rcv, hk => by
    rw [List.range_succ, List.reverse_append, List.reverse_singleton, List.singleton_append,
      List.foldl_cons, foldl_range_reverse ms k _ (by omega), List.take_succ, List.foldr_append,
      List.getElem?_eq_getElem (by omega : k < ms.length)]
    simp [List.getD_eq_getElem?_getD, List.getElem?_eq_getElem (by omega : k < ms.length)]

/-- The chain is `m1(m2(...mn(rcv)))`: the first-registered middleware is outermost. -/
theorem applyMiddleware_eq_foldr {R : Type} (rcv : R) (middleware : List (R → R)) :
    applyMiddleware rcv middleware = middleware.foldr (fun m r => m r) rcv := by
  rw [applyMiddleware, foldl_range_reverse middleware _ rcv le_rfl, List.take_length]

namespace Process

/-- One middleware; the first receiver panics on user message 1 and the
second on `Started`, each with a plain value. -/
def faultyBehindMiddleware : Opts :=
  ⟨defaultMaxRestarts, 1, fun _ d => match d.incarnation, d.input with
    | 1, .user 1 _ => some .value
    | 2, .started => some .value
    | _, _ => none⟩

/-- The first receiver has been handed user message 1, through the middleware. -/
def handedUser1 : Process :=
  { firstStarted with log := firstStarted.log ++ [⟨1, .user 1 none, .middleware⟩] }

/-- `Invoke`'s handler has handed the first receiver `Stopped` and `tryRestart`
has counted the restart. -/
def restartedOnce : Process :=
  { handedUser1 with
    restarts := 1
    log := handedUser1.log ++ [⟨1, .stopped, .receiver⟩]
    events := handedUser1.events ++ [.actorRestarted 1 .value] }

/-- The second receiver has panicked on `Started`. -/
def faultedOnStarted : Process :=
  { restartedOnce with
    incarnation := 2
    log := restartedOnce.log ++ [⟨2, .initialized, .middleware⟩, ⟨2, .started, .middleware⟩]
    events := restartedOnce.events ++ [.actorInitialized] }

/-- `Start`'s handler has handed the second receiver `Stopped` and `tryRestart`
has counted the restart. -/
def restartedTwice : Process :=
  { faultedOnStarted with
    restarts := 2
    log := faultedOnStarted.log ++ [⟨2, .stopped, .receiver⟩]
    events := faultedOnStarted.events ++ [.actorRestarted 2 .value] }

/-- The third receiver has started. -/
def thirdStarted : Process :=
  { restartedTwice with
    incarnation := 3
    log := restartedTwice.log ++ [⟨3, .initialized, .middleware⟩, ⟨3, .started, .middleware⟩]
    events := restartedTwice.events ++ [.actorInitialized, .actorStarted] }

theorem invoke_faultyBehindMiddleware :
    invoke faultyBehindMiddleware 2 [⟨.user 1, none⟩] firstStarted = .ok () thirdStarted := by
  have hloop : invokeLoop faultyBehindMiddleware [⟨.user 1, none⟩] 0 0 [⟨.user 1, none⟩] firstStarted =
      .ok (some (.value, 1)) handedUser1 := rfl
  have hbody : startBody faultyBehindMiddleware (tryRestart faultyBehindMiddleware 1)
      { restartedOnce with incarnation := 2 } = .error (.panic .value) faultedOnStarted := rfl
  have hlast : start faultyBehindMiddleware 1 restartedTwice = .ok () thirdStarted := rfl
  rw [invoke, invokeWith_of_panic _ hloop, bind_apply_of_ok (deliver_of_none _ rfl), modify_bind_apply,
    tryRestart, tryRestartWith_of_ne _ _ .value nofun (by decide)]
  change startWith faultyBehindMiddleware (tryRestart faultyBehindMiddleware 1) restartedOnce = _
  rw [startWith_of_panic _ hbody, bind_apply_of_ok (deliver_of_none _ rfl), tryRestart,
    tryRestartWith_of_ne _ _ .value nofun (by decide)]
  exact hlast

/-- With one middleware, the process handed user message 1: `Invoke`'s recover
handler hands the first receiver `Stopped` past the middleware, and so does
`Start`'s handler for the second; every other call goes through the chain. -/
theorem recover_stopped_bypasses_middleware :
    faultyBehindMiddleware.middleware = 1 ∧
      ∃ p, life faultyBehindMiddleware 2 [[⟨.user 1, none⟩]] newProcess = .ok () p ∧
        p.log = [⟨1, .initialized, .middleware⟩, ⟨1, .started, .middleware⟩,
          ⟨1, .user 1 none, .middleware⟩, ⟨1, .stopped, .receiver⟩,
          ⟨2, .initialized, .middleware⟩, ⟨2, .started, .middleware⟩, ⟨2, .stopped, .receiver⟩,
          ⟨3, .initialized, .middleware⟩, ⟨3, .started, .middleware⟩] := by
  have hstart : start faultyBehindMiddleware 2 newProcess = .ok () firstStarted := rfl
  refine ⟨rfl, thirdStarted, ?_, rfl⟩
  rw [life_of_start _ hstart, run_cons _ (by decide) invoke_faultyBehindMiddleware]
  rfl

end Process

end Actor
