import DistributedFramework.Trading.Strategy
import DistributedFramework.Go
import DistributedFramework.Actor.Engine
import DistributedFramework.Go.Map

/-! `OrderManagerActor` (`part_006`) and `ExecutorActor` (`executor.go`), run
against each other.

The order manager stores an order for each signal the risk manager approves
and sends a copy to the executor registered for the order's exchange. The
executor, in test mode, starts a goroutine that reports the order `open` and
then `filled` with its quantity, and answers a `CancelOrder` with a `canceled`
update at once; in live mode `placeOrderAPI` and `cancelOrderAPI` return nil
and nothing is reported. The order manager writes each update into the order
it names and forwards it to the strategy registered for the order's symbol.

A `Desk` is the two actors with their inboxes, the executor's goroutines and
what is sent to other processes. A step is one actor handling its oldest
message, one goroutine sending its next update, or a message arriving from
the trading engine, the risk manager or a user. `generateOrderID` reads the
clock and `rand.Intn`; the ID it returns is an argument of the order manager's
step. A panic is handled as `Invoke` handles it: the message is dropped and,
while the process has restarts left before `MaxRestarts`, a new receiver from
the producer takes its place, an order manager with empty maps or an executor
with the same configuration, whose goroutines keep running. Past
`MaxRestarts` the next panic ends the program (`cleanup(nil)` panics), and
with it the run.

Proved here:

* `step_eq_some`, `run_invariant`: what one step can do, and the induction
  over runs whose draws are distinct that every invariant of the desk uses;
* `Consistent.step`, `Consistent.run`: every update in flight reports no fill,
  or a fill of the whole quantity of any order stored under the ID it names,
  and every order in flight to the executor has the quantity of any order
  stored under its ID;
* `fills_whole`: so along every run in which `generateOrderID` draws distinct
  IDs, restarts of either actor included, every order the order manager holds
  shows no fill, or status `filled` with its whole quantity. -/

namespace Trading
open Go

/-- `Order`, without its `Type` (always `"limit"`), `Strategy` and times. -/
structure Order where
  id : String
  symbol : String
  side : Side
  price : ℚ
  quantity : ℚ
  filledQty : ℚ
  status : String
  exchange : String
  deriving DecidableEq, Repr

/-- `OrderUpdate`, without its timestamp. -/
structure OrderUpdate where
  orderID : String
  status : String
  filledQty : ℚ
  avgPrice : ℚ
  deriving DecidableEq, Repr

/-- A field of type `interface{}` holding a `*actor.PID`, or a value of
another type. -/
inductive AnyPID where
  | pid (p : Actor.PID)
  | other
  deriving DecidableEq, Repr

/-- `x.(*actor.PID)`, which panics on a value of another type. -/
def AnyPID.assert : AnyPID → Except GoPanic Actor.PID
  | .pid p => pure p
  | .other => throw .typeAssertion

/-- The messages of the order manager and the executor. -/
inductive Msg where
  | started
  | stopped
  | registerExecutor (exchange : String) (pid : AnyPID)
  | registerStrategy (strategyPID : AnyPID) (symbols : List String)
  | signal (s : Signal)
  | order (o : Order)
  | orderUpdate (u : OrderUpdate)
  | cancelOrder (orderID : String)
  deriving DecidableEq, Repr

/-- `id[:8]` in a `Printf` argument: a string shorter than 8 bytes panics. -/
def idPrefix (id : String) : Except GoPanic Unit :=
  if id.utf8ByteSize < 8 then throw .indexOutOfRange else pure ()

/-- `OrderManagerActor`: its three `sync.Map`s. -/
structure OrderManager where
  executors : Map String Actor.PID
  orders : Map String Order
  strategies : Map String Actor.PID

/-- `NewOrderManagerActor()`'s receiver. -/
def OrderManager.new : OrderManager := ⟨Map.empty, Map.empty, Map.empty⟩

/-- `createOrder(signal)`, with the ID `generateOrderID()` returned. -/
def createOrder (signal : Signal) (id : String) : Order :=
  ⟨id, signal.symbol, signal.side, signal.price, signal.quantity, 0, "pending", "binance"⟩

namespace OrderManager

/-- `sendToExecutor(ctx, order)`: a copy of the order to the executor of its
exchange, if one is registered. -/
def sendToExecutor (om : OrderManager) (order : Order) : List (Actor.PID × Msg) :=
  match om.executors.get? order.exchange with
  | some pid => [(pid, .order order)]
  | none => []

/-- `OrderManagerActor.Receive`, with the ID `generateOrderID` returns if it
creates an order; what it sends with `ctx.Send`. -/
def receive (om : OrderManager) (id : String) : Msg → Except GoPanic (OrderManager × List (Actor.PID × Msg))
  | .registerExecutor exchange pid => do
    let pid ← pid.assert
    pure ({ om with executors := om.executors.insert exchange pid }, [])
  | .registerStrategy strategyPID symbols => do
    let pid ← strategyPID.assert
    pure ({ om with strategies := symbols.foldl (fun m symbol => m.insert symbol pid) om.strategies }, [])
  | .signal s => do
    let order := createOrder s id
    let om := { om with orders := om.orders.insert order.id order }
    idPrefix order.id
    pure (om, om.sendToExecutor order)
  | .orderUpdate u =>
    match om.orders.get? u.orderID with
    | some order => do
      let order := { order with status := u.status, filledQty := u.filledQty }
      let om := { om with orders := om.orders.insert u.orderID order }
      idPrefix u.orderID
      match om.strategies.get? order.symbol with
      | some pid => pure (om, [(pid, .orderUpdate u)])
      | none => pure (om, [])
    | none => pure (om, [])
  | .cancelOrder orderID =>
    match om.orders.get? orderID with
    | some order =>
      match om.executors.get? order.exchange with
      | some pid => pure (om, [(pid, .cancelOrder orderID)])
      | none => pure (om, [])
    | none => pure (om, [])
  | .started | .stopped | .order _ => pure (om, [])

end OrderManager

/-- `ExecutorActor`, without its API key and secret. -/
structure Executor where
  exchange : String
  orderManager : Actor.PID
  testMode : Bool

namespace Executor

/-- The updates the test-mode goroutine of `executeOrder` sends: `open`, then
`filled` with the order's quantity at its price. -/
def fillUpdates (order : Order) : List OrderUpdate :=
  [⟨order.id, "open", 0, 0⟩, ⟨order.id, "filled", order.quantity, order.price⟩]

/-- `executeOrder(ctx, order)`: in test mode a goroutine that will send
`fillUpdates order`; in live mode a goroutine whose `placeOrderAPI` returns
nil and which sends nothing. -/
def executeOrder (e : Executor) (order : Order) :
    Except GoPanic (List (Actor.PID × Msg) × List (List OrderUpdate)) := do
  idPrefix order.id
  if e.testMode then pure ([], [fillUpdates order]) else pure ([], [])

/-- `cancelOrder(ctx, cancel)`: in test mode a `canceled` update at once; in
live mode a goroutine whose `cancelOrderAPI` returns nil. -/
def cancelOrder (e : Executor) (orderID : String) :
    Except GoPanic (List (Actor.PID × Msg) × List (List OrderUpdate)) := do
  idPrefix orderID
  if e.testMode then pure ([(e.orderManager, .orderUpdate ⟨orderID, "canceled", 0, 0⟩)], [])
  else pure ([], [])

/-- `ExecutorActor.Receive`: what it sends at once, and the updates of each
goroutine it starts. -/
def receive (e : Executor) : Msg → Except GoPanic (List (Actor.PID × Msg) × List (List OrderUpdate))
  | .order o => e.executeOrder o
  | .cancelOrder orderID => e.cancelOrder orderID
  | _ => pure ([], [])

end Executor

/-- The order manager and an executor, with their PIDs and inboxes, the
updates each goroutine of the executor has still to send, the messages sent
to other processes, and the restarts each actor's process has left before
`MaxRestarts`. -/
structure Desk where
  managerPID : Actor.PID
  manager : OrderManager
  managerInbox : List Msg
  executorPID : Actor.PID
  executor : Executor
  executorInbox : List Msg
  fills : List (List OrderUpdate)
  elsewhere : List (Actor.PID × Msg)
  managerRestartsLeft : Nat
  executorRestartsLeft : Nat

/-- What the trading engine, the risk manager and a user send the order
manager: registrations, approved signals and cancels. -/
inductive Outside where
  | registerExecutor (exchange : String) (pid : AnyPID)
  | registerStrategy (strategyPID : AnyPID) (symbols : List String)
  | signal (s : Signal)
  | cancelOrder (orderID : String)
  deriving DecidableEq, Repr

def Outside.msg : Outside → Msg
  | .registerExecutor exchange pid => .registerExecutor exchange pid
  | .registerStrategy strategyPID symbols => .registerStrategy strategyPID symbols
  | .signal s => .signal s
  | .cancelOrder orderID => .cancelOrder orderID

inductive Step where
  /-- a message from outside reaches the order manager's inbox -/
  | arrive (m : Outside)
  /-- the order manager handles its oldest message; `id` is what
  `generateOrderID` returns if it creates an order -/
  | manager (id : String)
  /-- the executor handles its oldest message -/
  | executor
  /-- goroutine `i` of the executor sends its next update -/
  | fill (i : Nat)
  deriving DecidableEq, Repr

/-- The ID a step draws. -/
def Step.drawn : Step → Option String
  | .manager id => some id
  | _ => none

namespace Desk

/-- A desk as `TradingEngine` builds it: a new order manager and an executor,
spawned with the `MaxRestarts` of `DefaultOpts`, nothing sent yet. -/
def new (managerPID executorPID : Actor.PID) (e : Executor) : Desk :=
  ⟨managerPID, OrderManager.new, [], executorPID, e, [], [], [], 3, 3⟩

/-- `ctx.Send(pid, msg)`: into the inbox of the order manager or of the
executor when `pid` is theirs, to another process otherwise. -/
def deliver (d : Desk) (s : Actor.PID × Msg) : Desk :=
  if s.1 = d.managerPID then { d with managerInbox := d.managerInbox ++ [s.2] }
  else if s.1 = d.executorPID then { d with executorInbox := d.executorInbox ++ [s.2] }
  else { d with elsewhere := d.elsewhere ++ [s] }

def step (d : Desk) : Step → Option Desk
  | .arrive m => some { d with managerInbox := d.managerInbox ++ [m.msg] }
  | .manager id =>
    match d.managerInbox with
    | [] => none
    | m :: rest =>
      match d.manager.receive id m with
      | .ok (om, sends) => some (sends.foldl deliver { d with manager := om, managerInbox := rest })
      | .error _ =>
        match d.managerRestartsLeft with
        | 0 => none
        | k + 1 => some { d with manager := OrderManager.new, managerInbox := rest, managerRestartsLeft := k }
  | .executor =>
    match d.executorInbox with
    | [] => none
    | m :: rest =>
      match d.executor.receive m with
      | .ok (sends, gs) =>
        some (sends.foldl deliver { d with executorInbox := rest, fills := d.fills ++ gs })
      | .error _ =>
        match d.executorRestartsLeft with
        | 0 => none
        | k + 1 => some { d with executorInbox := rest, executorRestartsLeft := k }
  | .fill i =>
    match d.fills[i]? with
    | some (u :: us) =>
      some ({ d with fills := d.fills.set i us }.deliver (d.executor.orderManager, .orderUpdate u))
    | _ => none

def run (d : Desk) : List Step → Option Desk
  | [] => some d
  | st :: sts => (d.step st).bind (·.run sts)

end Desk

/-! ## What one step can do -/

namespace OrderManager
variable {om om' : OrderManager} {id : String} {sends : List (Actor.PID × Msg)}

/-- On a signal the order manager stores the new order under the drawn ID and
sends a copy to the executor of its exchange. -/
theorem receive_signal {s : Signal} (h : om.receive id (.signal s) = .ok (om', sends)) :
    om' = { om with orders := om.orders.insert id (createOrder s id) } ∧
      sends = om.sendToExecutor (createOrder s id) := by
  simp only [receive, idPrefix] at h
  split_ifs at h
  · simp [except_throw_eq_error, error_bind] at h
  simp only [except_pure_eq_ok, ok_bind] at h
  cases h
  exact ⟨rfl, rfl⟩

/-- On an update the order manager writes its status and fill into the order
it names, if it holds one, and forwards the update to the strategy registered
for the order's symbol. -/
theorem receive_orderUpdate {u : OrderUpdate} (h : om.receive id (.orderUpdate u) = .ok (om', sends)) :
    om.orders.get? u.orderID = none ∧ om' = om ∧ sends = [] ∨
      ∃ o, om.orders.get? u.orderID = some o ∧
        om' = { om with
          orders := om.orders.insert u.orderID { o with status := u.status, filledQty := u.filledQty } } ∧
        ∀ s ∈ sends, om.strategies.get? o.symbol = some s.1 ∧ s.2 = .orderUpdate u := by
  simp only [receive] at h
  split at h
  · rename_i o ho
    simp only [idPrefix] at h
    split_ifs at h
    · simp [except_throw_eq_error, error_bind] at h
    simp only [except_pure_eq_ok, ok_bind] at h
    refine .inr ⟨o, ho, ?_⟩
    split at h
    next pid hp => cases h; exact ⟨rfl, by simpa using hp⟩
    next => cases h; exact ⟨rfl, List.forall_mem_nil _⟩
  · cases h
    exact .inl ⟨‹_›, rfl, rfl⟩

/-- The order manager panics only on a registration of a value that is no
PID, or on `id[:8]` for a signal's new ID or for the ID of an update naming an
order it holds, when that ID is shorter than 8 bytes. -/
theorem receive_eq_error {m : Msg} {e : GoPanic} (h : om.receive id m = .error e) :
    (∃ exchange, m = .registerExecutor exchange .other) ∨ (∃ symbols, m = .registerStrategy .other symbols) ∨
      (∃ s, m = .signal s) ∧ id.utf8ByteSize < 8 ∨
      ∃ u o, m = .orderUpdate u ∧ om.orders.get? u.orderID = some o ∧ u.orderID.utf8ByteSize < 8 := by
  cases m with
  | registerExecutor exchange pid => cases pid <;> cases h; exact .inl ⟨exchange, rfl⟩
  | registerStrategy pid symbols => cases pid <;> cases h; exact .inr (.inl ⟨symbols, rfl⟩)
  | signal s =>
    simp only [receive, idPrefix] at h
    split_ifs at h with hl
    · exact .inr (.inr (.inl ⟨⟨s, rfl⟩, hl⟩))
    · cases h
  | orderUpdate u =>
    simp only [receive] at h
    split at h
    · simp only [idPrefix] at h
      split_ifs at h with hl
      · exact .inr (.inr (.inr ⟨u, _, rfl, ‹_›, hl⟩))
      · split at h <;> cases h
    · cases h
  | cancelOrder orderID =>
    simp only [receive] at h
    split at h
    · split at h <;> cases h
    · cases h
  | started | stopped | order _ => cases h

/-- Only a signal adds an order, under the ID drawn. -/
theorem receive_keys {m : Msg} (h : om.receive id m = .ok (om', sends)) (k : String)
    (hk : (om'.orders.get? k).isSome) : (om.orders.get? k).isSome ∨ k = id := by
  cases m with
  | signal s =>
    obtain ⟨rfl, -⟩ := receive_signal h
    rw [Map.get?_insert] at hk
    split_ifs at hk with hki
    · exact .inr hki
    · exact .inl hk
  | orderUpdate u =>
    rcases receive_orderUpdate h with ⟨-, rfl, -⟩ | ⟨o, ho, rfl, -⟩
    · exact .inl hk
    · rw [Map.get?_insert] at hk
      split_ifs at hk with hki
      · subst hki; rw [ho]; exact .inl rfl
      · exact .inl hk
  | registerExecutor _ pid | registerStrategy pid _ => cases pid <;> cases h; exact .inl hk
  | cancelOrder orderID =>
    simp only [receive] at h
    split at h
    · split at h <;> cases h <;> exact .inl hk
    · cases h; exact .inl hk
  | started | stopped | order _ => cases h; exact .inl hk

end OrderManager

namespace Executor
variable {e : Executor} {sends : List (Actor.PID × Msg)} {gs : List (List OrderUpdate)}

/-- On an order the executor sends nothing at once, and in test mode starts
one goroutine with the order's fill. -/
theorem receive_order {o : Order} (h : e.receive (.order o) = .ok (sends, gs)) :
    sends = [] ∧ gs = if e.testMode then [fillUpdates o] else [] := by
  simp only [receive, executeOrder, idPrefix] at h
  by_cases hl : o.id.utf8ByteSize < 8
  · simp [hl, except_throw_eq_error, error_bind] at h
  cases ht : e.testMode <;> simp [hl, ht, except_pure_eq_ok, ok_bind] at h ⊢ <;>
    obtain ⟨h1, h2⟩ := h <;> subst h1 h2 <;> exact ⟨rfl, rfl⟩

/-- On a cancel the executor starts no goroutine, and in test mode reports the
order `canceled` to the order manager at once. -/
theorem receive_cancelOrder {orderID : String} (h : e.receive (.cancelOrder orderID) = .ok (sends, gs)) :
    gs = [] ∧ sends = if e.testMode then [(e.orderManager, .orderUpdate ⟨orderID, "canceled", 0, 0⟩)] else [] := by
  simp only [receive, cancelOrder, idPrefix] at h
  by_cases hl : orderID.utf8ByteSize < 8
  · simp [hl, except_throw_eq_error, error_bind] at h
  cases ht : e.testMode <;> simp [hl, ht, except_pure_eq_ok, ok_bind] at h ⊢ <;>
    obtain ⟨h1, h2⟩ := h <;> subst h1 h2 <;> exact ⟨rfl, rfl⟩

/-- The executor panics only on `id[:8]` of an order's or a cancel's ID
shorter than 8 bytes. -/
theorem receive_eq_error {m : Msg} {err : GoPanic} (h : e.receive m = .error err) :
    (∃ o, m = .order o ∧ o.id.utf8ByteSize < 8) ∨
      ∃ orderID, m = .cancelOrder orderID ∧ orderID.utf8ByteSize < 8 := by
  cases m with
  | order o =>
    by_cases hl : o.id.utf8ByteSize < 8
    · exact .inl ⟨o, rfl, hl⟩
    · simp only [receive, executeOrder, idPrefix, if_neg hl] at h
      split at h <;> cases h
  | cancelOrder orderID =>
    by_cases hl : orderID.utf8ByteSize < 8
    · exact .inr ⟨orderID, rfl, hl⟩
    · simp only [receive, cancelOrder, idPrefix, if_neg hl] at h
      split at h <;> cases h
  | _ => cases h

end Executor

namespace Desk
variable {d d' : Desk}

/-- What no delivery changes, no sequence of deliveries changes. -/
theorem foldl_deliver_eq {α : Type} (f : Desk → α) (hf : ∀ d s, f (d.deliver s) = f d)
    (sends : List (Actor.PID × Msg)) (d : Desk) : f (sends.foldl deliver d) = f d := by
  induction sends generalizing d with
  | nil => rfl
  | cons s sends ih => rw [List.foldl_cons, ih, hf]

@[simp] theorem deliver_manager (s : Actor.PID × Msg) : (d.deliver s).manager = d.manager := by
  unfold deliver; split_ifs <;> rfl

@[simp] theorem deliver_managerPID (s : Actor.PID × Msg) : (d.deliver s).managerPID = d.managerPID := by
  unfold deliver; split_ifs <;> rfl

@[simp] theorem deliver_executorPID (s : Actor.PID × Msg) : (d.deliver s).executorPID = d.executorPID := by
  unfold deliver; split_ifs <;> rfl

@[simp] theorem foldl_deliver_manager (sends : List (Actor.PID × Msg)) (d : Desk) :
    (sends.foldl deliver d).manager = d.manager :=
  foldl_deliver_eq manager (fun _ => deliver_manager) sends d

theorem foldl_deliver_pids (sends : List (Actor.PID × Msg)) (d : Desk) :
    (sends.foldl deliver d).managerPID = d.managerPID ∧ (sends.foldl deliver d).executorPID = d.executorPID :=
  ⟨foldl_deliver_eq managerPID (fun _ => deliver_managerPID) sends d,
    foldl_deliver_eq executorPID (fun _ => deliver_executorPID) sends d⟩

/-- The six kinds of step, each with what it reads: an arrival, either actor
handling a message or restarting after a panic on it, and a goroutine's
update. -/
theorem step_eq_some {st : Step} (hs : d.step st = some d') :
    (∃ m, st = .arrive m ∧ d' = { d with managerInbox := d.managerInbox ++ [m.msg] }) ∨
    (∃ id m rest om sends, st = .manager id ∧ d.managerInbox = m :: rest ∧
      d.manager.receive id m = .ok (om, sends) ∧
      d' = sends.foldl deliver { d with manager := om, managerInbox := rest }) ∨
    (∃ id m rest e k, st = .manager id ∧ d.managerInbox = m :: rest ∧
      d.manager.receive id m = .error e ∧ d.managerRestartsLeft = k + 1 ∧
      d' = { d with manager := OrderManager.new, managerInbox := rest, managerRestartsLeft := k }) ∨
    (∃ m rest sends gs, st = .executor ∧ d.executorInbox = m :: rest ∧
      d.executor.receive m = .ok (sends, gs) ∧
      d' = sends.foldl deliver { d with executorInbox := rest, fills := d.fills ++ gs }) ∨
    (∃ m rest e k, st = .executor ∧ d.executorInbox = m :: rest ∧ d.executor.receive m = .error e ∧
      d.executorRestartsLeft = k + 1 ∧ d' = { d with executorInbox := rest, executorRestartsLeft := k }) ∨
    (∃ i u us, st = .fill i ∧ d.fills[i]? = some (u :: us) ∧
      d' = { d with fills := d.fills.set i us }.deliver (d.executor.orderManager, .orderUpdate u)) := by
  cases st with
  | arrive m => cases hs; exact .inl ⟨m, rfl, rfl⟩
  | manager id =>
    simp only [Desk.step] at hs
    split at hs
    · cases hs
    · split at hs
      · cases hs; exact .inr <| .inl ⟨id, _, _, _, _, rfl, ‹_›, ‹_›, rfl⟩
      · split at hs
        · cases hs
        · cases hs; exact .inr <| .inr <| .inl ⟨id, _, _, _, _, rfl, ‹_›, ‹_›, ‹_›, rfl⟩
  | executor =>
    simp only [Desk.step] at hs
    split at hs
    · cases hs
    · split at hs
      · cases hs; exact .inr <| .inr <| .inr <| .inl ⟨_, _, _, _, rfl, ‹_›, ‹_›, rfl⟩
      · split at hs
        · cases hs
        · cases hs; exact .inr <| .inr <| .inr <| .inr <| .inl ⟨_, _, _, _, rfl, ‹_›, ‹_›, ‹_›, rfl⟩
  | fill i =>
    simp only [Desk.step] at hs
    split at hs
    · cases hs; exact .inr <| .inr <| .inr <| .inr <| .inr ⟨i, _, _, rfl, ‹_›, rfl⟩
    · cases hs

/-- Only the order manager handling a signal adds an order, under the ID the
step draws; a restart empties its map. -/
theorem step_keys {st : Step} (hs : d.step st = some d') (k : String)
    (hk : (d'.manager.orders.get? k).isSome) : (d.manager.orders.get? k).isSome ∨ st.drawn = some k := by
  rcases step_eq_some hs with ⟨m, rfl, rfl⟩ | ⟨id, m, rest, om, sends, rfl, -, hr, rfl⟩ |
    ⟨id, m, rest, e, j, rfl, -, -, -, rfl⟩ | ⟨m, rest, sends, gs, rfl, -, -, rfl⟩ |
    ⟨m, rest, e, j, rfl, -, -, -, rfl⟩ | ⟨i, u, us, rfl, -, rfl⟩
  · exact .inl hk
  · rw [foldl_deliver_manager] at hk
    exact (OrderManager.receive_keys hr k hk).imp_right (congrArg some ·.symm)
  · exact absurd hk (by simp [OrderManager.new])
  · rw [foldl_deliver_manager] at hk
    exact .inl hk
  · exact .inl hk
  · rw [deliver_manager] at hk
    exact .inl hk

/-- No step changes the two actors' PIDs. -/
theorem step_pids {st : Step} (hs : d.step st = some d') :
    d'.managerPID = d.managerPID ∧ d'.executorPID = d.executorPID := by
  rcases step_eq_some hs with ⟨m, rfl, rfl⟩ | ⟨id, m, rest, om, sends, rfl, -, -, rfl⟩ |
    ⟨id, m, rest, e, j, rfl, -, -, -, rfl⟩ | ⟨m, rest, sends, gs, rfl, -, -, rfl⟩ |
    ⟨m, rest, e, j, rfl, -, -, -, rfl⟩ | ⟨i, u, us, rfl, -, rfl⟩
  · exact ⟨rfl, rfl⟩
  · exact foldl_deliver_pids _ _
  · exact ⟨rfl, rfl⟩
  · exact foldl_deliver_pids _ _
  · exact ⟨rfl, rfl⟩
  · exact ⟨deliver_managerPID _, deliver_executorPID _⟩

/-- An invariant of the desk and the IDs drawn so far that every allowed step
keeps, when the ID it draws is not among them, holds along every run of
allowed steps whose draws are distinct and not among the IDs at its start. -/
theorem run_invariant (P : List String → Desk → Prop) (Q : Step → Prop)
    (hstep : ∀ {ids d st d'}, P ids d → Q st → (∀ k, st.drawn = some k → k ∉ ids) →
      d.step st = some d' → P (ids ++ st.drawn.toList) d')
    {ids : List String} {steps : List Step} (hq : ∀ st ∈ steps, Q st)
    (hd : (ids ++ steps.filterMap Step.drawn).Nodup) (h : P ids d) (hr : d.run steps = some d') :
    P (ids ++ steps.filterMap Step.drawn) d' := by
  induction steps generalizing ids d with
  | nil => cases hr; simpa using h
  | cons st sts ih =>
    simp only [Desk.run, Option.bind_eq_some] at hr
    obtain ⟨t, hs, hr⟩ := hr
    have hcons : ids ++ (st :: sts).filterMap Step.drawn =
        ids ++ st.drawn.toList ++ sts.filterMap Step.drawn := by
      cases h' : st.drawn <;> simp [List.filterMap_cons, h']
    rw [hcons] at hd ⊢
    have hfresh : ∀ k, st.drawn = some k → k ∉ ids := fun k hk hki => by
      rw [hk] at hd
      exact List.disjoint_of_nodup_append (List.nodup_append.mp hd).1 hki (List.mem_singleton_self k)
    exact ih (fun st' h' => hq st' (List.mem_cons_of_mem _ h')) hd
      (hstep h (hq st (List.mem_cons_self _ _)) hfresh hs) hr

/-- Every ID the order manager stores an order under is in `ids`. -/
def Keys (ids : List String) (d : Desk) : Prop :=
  ∀ k, (d.manager.orders.get? k).isSome → k ∈ ids

theorem Keys.step {ids : List String} {st : Step} (h : Keys ids d) (hs : d.step st = some d') :
    Keys (ids ++ st.drawn.toList) d' := fun k hk =>
  (step_keys hs k hk).elim (fun h' => List.mem_append_left _ (h k h'))
    fun h' => List.mem_append_right _ (by simp [h'])

theorem Keys.get?_eq_none {ids : List String} (h : Keys ids d) {k : String} (hk : k ∉ ids) :
    d.manager.orders.get? k = none :=
  Option.not_isSome_iff_eq_none.mp fun h' => hk (h k h')

end Desk

/-! ## Fills are all or nothing -/

/-- An order shows no fill, or status `filled` with its whole quantity. -/
def Order.Whole (o : Order) : Prop :=
  o.filledQty = 0 ∨ o.status = "filled" ∧ o.filledQty = o.quantity

/-- An update reports no fill, or a fill with status `filled` of an order
whose ID is in `ids`, of the whole quantity of the order stored under that
ID if one is. -/
def Fits (ids : List String) (orders : Map String Order) (u : OrderUpdate) : Prop :=
  u.filledQty = 0 ∨ u.status = "filled" ∧ u.orderID ∈ ids ∧
    ∀ o, orders.get? u.orderID = some o → u.filledQty = o.quantity

/-- A message in flight fits: an update that fits, or an order whose ID is in
`ids`, with the quantity of the order stored under its ID if one is. -/
def MsgFits (ids : List String) (orders : Map String Order) : Msg → Prop
  | .orderUpdate u => Fits ids orders u
  | .order o => o.id ∈ ids ∧ ∀ o', orders.get? o.id = some o' → o'.quantity = o.quantity
  | _ => True

/-- Every order `orders'` stores under an ID in `ids`, `orders` stored with
the same quantity. -/
def Narrows (ids : List String) (orders orders' : Map String Order) : Prop :=
  ∀ k ∈ ids, ∀ o', orders'.get? k = some o' → ∃ o, orders.get? k = some o ∧ o.quantity = o'.quantity

section
variable {ids ids' : List String} {orders orders' : Map String Order}

theorem narrows_refl (ids : List String) (orders : Map String Order) : Narrows ids orders orders :=
  fun _ _ o h => ⟨o, h, rfl⟩

/-- A restarted order manager stores nothing. -/
theorem narrows_new (ids : List String) (orders : Map String Order) :
    Narrows ids orders OrderManager.new.orders :=
  fun _ _ _ h => nomatch h

/-- A new order under an ID not in `ids`. -/
theorem narrows_insert_fresh {k : String} (hk : k ∉ ids) (o : Order) :
    Narrows ids orders (orders.insert k o) := fun k' hk' o' h' => by
  rw [Map.get?_insert_ne _ _ _ (ne_of_mem_of_not_mem hk' hk)] at h'
  exact ⟨o', h', rfl⟩

/-- An order rewritten with its quantity. -/
theorem narrows_insert_same {k : String} {o o' : Order} (h : orders.get? k = some o)
    (hq : o'.quantity = o.quantity) : Narrows ids orders (orders.insert k o') := fun k' _ o'' h' => by
  rw [Map.get?_insert] at h'
  split_ifs at h' with hk
  · cases h'
    subst hk
    exact ⟨o, h, hq.symm⟩
  · exact ⟨o'', h', rfl⟩

theorem Fits.mono {u : OrderUpdate} (h : Fits ids orders u) (hn : Narrows ids orders orders')
    (hs : ids ⊆ ids') : Fits ids' orders' u := by
  rcases h with h | ⟨hst, hid, hq⟩
  · exact .inl h
  · refine .inr ⟨hst, hs hid, fun o' ho' => ?_⟩
    obtain ⟨o, ho, hoq⟩ := hn _ hid o' ho'
    exact (hq o ho).trans hoq

theorem MsgFits.mono {m : Msg} (h : MsgFits ids orders m) (hn : Narrows ids orders orders')
    (hs : ids ⊆ ids') : MsgFits ids' orders' m := by
  cases m with
  | orderUpdate u => exact Fits.mono h hn hs
  | order o =>
    obtain ⟨hid, hq⟩ := h
    refine ⟨hs hid, fun o' ho' => ?_⟩
    obtain ⟨o₀, ho₀, hq₀⟩ := hn _ hid o' ho'
    exact hq₀.symm.trans (hq o₀ ho₀)
  | _ => trivial

end

/-- What one message does to the order manager, which has drawn `id`: every
order it keeps under an earlier ID was there with its quantity, every order is
whole, and every message it sends fits. -/
structure Handled (ids : List String) (id : String) (om om' : OrderManager)
    (sends : List (Actor.PID × Msg)) : Prop where
  narrows : Narrows ids om.orders om'.orders
  whole : ∀ k o, om'.orders.get? k = some o → o.Whole
  sends : ∀ s ∈ sends, MsgFits (ids ++ [id]) om'.orders s.2

theorem handled_of_orders {ids : List String} {id : String} {om om' : OrderManager}
    (ho : om'.orders = om.orders) (hw : ∀ k o, om.orders.get? k = some o → o.Whole) :
    Handled ids id om om' [] :=
  ⟨ho ▸ narrows_refl _ _, ho ▸ hw, List.forall_mem_nil _⟩

/-- An update written into the order it names: the order keeps its quantity
and stays whole, and the update the order manager forwards still fits. -/
theorem handled_update {ids : List String} {id : String} {om : OrderManager} {u : OrderUpdate}
    {o : Order} {sends : List (Actor.PID × Msg)} (hm : Fits ids om.orders u)
    (ho : om.orders.get? u.orderID = some o) (hw : ∀ k o, om.orders.get? k = some o → o.Whole)
    (hs : ∀ s ∈ sends, s.2 = .orderUpdate u) :
    Handled ids id om { om with
      orders := (om.orders.insert u.orderID { o with status := u.status, filledQty := u.filledQty }) }
      sends := by
  have hn : Narrows ids om.orders (om.orders.insert u.orderID
      { o with status := u.status, filledQty := u.filledQty }) := narrows_insert_same ho rfl
  refine ⟨hn, fun k o' ho' => ?_, fun s hsm => ?_⟩
  · rw [Map.get?_insert] at ho'
    split_ifs at ho' with hk
    · cases ho'
      rcases hm with h0 | ⟨hst, -, hq⟩
      · exact .inl h0
      · exact .inr ⟨hst, hq o ho⟩
    · exact hw k o' ho'
  · rw [hs s hsm]
    exact Fits.mono hm hn (List.subset_append_left _ _)

/-- The order manager, on a message that fits its orders and with an ID not
in `ids`, keeps its orders whole. -/
theorem OrderManager.receive_handled {ids : List String} {om om' : OrderManager} {id : String}
    {m : Msg} {sends : List (Actor.PID × Msg)} (h : om.receive id m = .ok (om', sends))
    (hm : MsgFits ids om.orders m) (hid : id ∉ ids)
    (hw : ∀ k o, om.orders.get? k = some o → o.Whole) : Handled ids id om om' sends := by
  cases m with
  | registerExecutor _ pid | registerStrategy pid _ =>
    cases pid <;> cases h; exact handled_of_orders rfl hw
  | signal s =>
    obtain ⟨rfl, rfl⟩ := receive_signal h
    refine ⟨narrows_insert_fresh hid _, fun k o ho => ?_, fun snd hs => ?_⟩
    · rw [Map.get?_insert] at ho
      split_ifs at ho
      · cases ho; exact .inl rfl
      · exact hw k o ho
    · simp only [sendToExecutor] at hs
      split at hs
      · rw [List.mem_singleton.mp hs]
        exact ⟨List.mem_append_right _ (List.mem_singleton_self _), fun o' ho' => by
          cases (Map.get?_insert_self _ _ _).symm.trans ho'
          rfl⟩
      · cases hs
  | orderUpdate u =>
    rcases receive_orderUpdate h with ⟨-, rfl, rfl⟩ | ⟨o, ho, rfl, hs⟩
    · exact handled_of_orders rfl hw
    · exact handled_update hm ho hw fun s h => (hs s h).2
  | cancelOrder orderID =>
    simp only [receive] at h
    split at h
    · split at h <;> cases h <;> exact ⟨narrows_refl _ _, hw, by simp [MsgFits]⟩
    · cases h; exact handled_of_orders rfl hw
  | started | stopped | order _ => cases h; exact handled_of_orders rfl hw

/-- The executor, on a message that fits, sends and starts only updates that
fit: the `filled` update of a goroutine carries the quantity of the order it
was handed. -/
theorem Executor.receive_fits {e : Executor} {ids : List String} {orders : Map String Order} {m : Msg}
    {sends : List (Actor.PID × Msg)} {gs : List (List OrderUpdate)}
    (h : e.receive m = .ok (sends, gs)) (hm : MsgFits ids orders m) :
    (∀ s ∈ sends, MsgFits ids orders s.2) ∧ ∀ g ∈ gs, ∀ u ∈ g, Fits ids orders u := by
  cases m with
  | order o =>
    obtain ⟨rfl, rfl⟩ := receive_order h
    obtain ⟨hid, hq⟩ := hm
    refine ⟨List.forall_mem_nil _, fun g hg u hu => ?_⟩
    split_ifs at hg
    · rw [List.mem_singleton.mp hg, fillUpdates, List.mem_cons, List.mem_singleton] at hu
      rcases hu with rfl | rfl
      · exact .inl rfl
      · exact .inr ⟨rfl, hid, fun o' ho' => (hq o' ho').symm⟩
    · cases hg
  | cancelOrder orderID =>
    obtain ⟨rfl, rfl⟩ := receive_cancelOrder h
    refine ⟨fun s hs => ?_, List.forall_mem_nil _⟩
    split_ifs at hs
    · rw [List.mem_singleton.mp hs]
      exact .inl rfl
    · cases hs
  | _ => cases h; exact ⟨List.forall_mem_nil _, List.forall_mem_nil _⟩

namespace Desk
variable {d d' : Desk} {ids : List String}

/-- The orders the order manager holds are whole, and every message and
update in flight fits them, for the IDs `ids` drawn so far. -/
structure Consistent (ids : List String) (d : Desk) : Prop where
  orders : ∀ k o, d.manager.orders.get? k = some o → o.Whole
  managerInbox : ∀ m ∈ d.managerInbox, MsgFits ids d.manager.orders m
  executorInbox : ∀ m ∈ d.executorInbox, MsgFits ids d.manager.orders m
  fills : ∀ g ∈ d.fills, ∀ u ∈ g, Fits ids d.manager.orders u

theorem Consistent.deliver (h : d.Consistent ids) {s : Actor.PID × Msg}
    (hs : MsgFits ids d.manager.orders s.2) : (d.deliver s).Consistent ids := by
  unfold Desk.deliver
  split_ifs
  · exact ⟨h.orders, List.forall_mem_append.mpr ⟨h.managerInbox, List.forall_mem_singleton.mpr hs⟩,
      h.executorInbox, h.fills⟩
  · exact ⟨h.orders, h.managerInbox,
      List.forall_mem_append.mpr ⟨h.executorInbox, List.forall_mem_singleton.mpr hs⟩, h.fills⟩
  · exact ⟨h.orders, h.managerInbox, h.executorInbox, h.fills⟩

theorem Consistent.deliverAll (sends : List (Actor.PID × Msg)) :
    ∀ d : Desk, d.Consistent ids → (∀ s ∈ sends, MsgFits ids d.manager.orders s.2) →
      (sends.foldl Desk.deliver d).Consistent ids := by
  induction sends with
  | nil => exact fun _ h _ => h
  | cons s sends ih =>
    intro d h hs
    refine ih _ (h.deliver (hs s (List.mem_cons_self _ _))) fun s' hs' => ?_
    rw [deliver_manager]
    exact hs s' (List.mem_cons_of_mem _ hs')

/-- The desk with the order manager's orders replaced, where every order
kept under an ID of `ids` was there with its quantity and every order is
whole, and the order manager's inbox cut to `rest`, is consistent for `ids'`. -/
theorem Consistent.narrow (h : d.Consistent ids) {ids' : List String} (hs : ids ⊆ ids')
    {om : OrderManager} (hn : Narrows ids d.manager.orders om.orders)
    (hw : ∀ k o, om.orders.get? k = some o → o.Whole) {m : Msg} {rest : List Msg}
    (hin : d.managerInbox = m :: rest) :
    ({ d with manager := om, managerInbox := rest } : Desk).Consistent ids' :=
  ⟨hw, fun m' hm' => (h.managerInbox m' (hin ▸ List.mem_cons_of_mem _ hm')).mono hn hs,
    fun m' hm' => (h.executorInbox m' hm').mono hn hs,
    fun g hg u hu => (h.fills g hg u hu).mono hn hs⟩

/-- Every step keeps the desk consistent for the IDs drawn so far, when the
ID it draws is new. -/
theorem Consistent.step (h : d.Consistent ids) {st : Step} (hf : ∀ k, st.drawn = some k → k ∉ ids)
    (hs : d.step st = some d') : d'.Consistent (ids ++ st.drawn.toList) := by
  rcases step_eq_some hs with ⟨m, rfl, rfl⟩ | ⟨id, m, rest, om, sends, rfl, hin, hr, rfl⟩ |
    ⟨id, m, rest, e, k, rfl, hin, -, -, rfl⟩ | ⟨m, rest, sends, gs, rfl, hin, hr, rfl⟩ |
    ⟨m, rest, e, k, rfl, hin, -, -, rfl⟩ | ⟨i, u, us, rfl, hg, rfl⟩
  all_goals simp only [Step.drawn, Option.toList, List.append_nil]
  · refine ⟨h.orders, List.forall_mem_append.mpr ⟨h.managerInbox, List.forall_mem_singleton.mpr ?_⟩,
      h.executorInbox, h.fills⟩
    cases m <;> trivial
  · have hd := OrderManager.receive_handled hr (h.managerInbox m (hin ▸ List.mem_cons_self _ _))
      (hf id rfl) h.orders
    exact (h.narrow (List.subset_append_left _ _) hd.narrows hd.whole hin).deliverAll sends _ hd.sends
  · have hc : ({ d with manager := OrderManager.new, managerInbox := rest } : Desk).Consistent (ids ++ [id]) :=
      h.narrow (List.subset_append_left _ _) (narrows_new _ _) (fun _ _ h => nomatch h) hin
    exact { hc with }
  · obtain ⟨hsend, hgs⟩ := Executor.receive_fits hr (h.executorInbox m (hin ▸ List.mem_cons_self _ _))
    have hc : ({ d with executorInbox := rest, fills := d.fills ++ gs } : Desk).Consistent ids :=
      ⟨h.orders, h.managerInbox, fun m' hm' => h.executorInbox m' (hin ▸ List.mem_cons_of_mem _ hm'),
        List.forall_mem_append.mpr ⟨h.fills, hgs⟩⟩
    exact hc.deliverAll sends _ hsend
  · exact ⟨h.orders, h.managerInbox,
      fun m' hm' => h.executorInbox m' (hin ▸ List.mem_cons_of_mem _ hm'), h.fills⟩
  · have hmem := List.getElem?_mem hg
    have hc : ({ d with fills := d.fills.set i us } : Desk).Consistent ids :=
      ⟨h.orders, h.managerInbox, h.executorInbox, fun g hg' => by
        rcases List.mem_or_eq_of_mem_set hg' with hg' | rfl
        · exact h.fills g hg'
        · exact fun u' hu' => h.fills _ hmem u' (List.mem_cons_of_mem _ hu')⟩
    exact hc.deliver (h.fills _ hmem u (List.mem_cons_self _ _))

/-- Along every run whose draws are distinct and not in `ids`, the desk stays
consistent. -/
theorem Consistent.run (h : d.Consistent ids) {steps : List Step}
    (hd : (ids ++ steps.filterMap Step.drawn).Nodup) (hr : d.run steps = some d') :
    d'.Consistent (ids ++ steps.filterMap Step.drawn) :=
  run_invariant Consistent (fun _ => True) (fun h _ hf hs => h.step hf hs) (fun _ _ => trivial) hd h hr

end Desk

theorem consistent_new (managerPID executorPID : Actor.PID) (e : Executor) :
    (Desk.new managerPID executorPID e).Consistent [] :=
  ⟨fun _ _ h => (nomatch h), List.forall_mem_nil _, List.forall_mem_nil _, List.forall_mem_nil _⟩

/-- Along every run of a new desk in which the IDs `generateOrderID` draws are
distinct, every order the order manager holds shows no fill, or status
`filled` with its whole quantity. -/
theorem fills_whole (managerPID executorPID : Actor.PID) (e : Executor) {steps : List Step}
    (hd : (steps.filterMap Step.drawn).Nodup) {d : Desk}
    (hr : (Desk.new managerPID executorPID e).run steps = some d) :
    ∀ k o, d.manager.orders.get? k = some o → o.Whole :=
  ((consistent_new managerPID executorPID e).run (by simpa using hd) hr).orders

/-- The order manager and a test-mode executor for `binance`, as
`TradingEngine.AddExecutor` configures it. -/
def testManager : Actor.PID := ⟨"local", "order-manager/1"⟩
def testExecutor : Actor.PID := ⟨"local", "executor-binance/1"⟩

/-- The executor is registered, a buy is approved, the executor starts its
goroutine, the goroutine reports `open` and `filled`, and the order manager
writes both into the order. -/
def buyFilled : List Step :=
  [.arrive (.registerExecutor "binance" (.pid testExecutor)), .arrive (.signal ⟨"BTC/USDT", .buy, 50000, 1⟩),
    .manager "order-0001", .manager "order-0002", .executor, .fill 0, .fill 0,
    .manager "order-0003", .manager "order-0004"]

theorem fills_whole_buyFilled :
    (buyFilled.filterMap Step.drawn).Nodup ∧
      ∃ d, (Desk.new testManager testExecutor ⟨"binance", testManager, true⟩).run buyFilled = some d ∧
        ∀ k o, d.manager.orders.get? k = some o → o.Whole :=
  have hd : (buyFilled.filterMap Step.drawn).Nodup := by decide
  ⟨hd, _, rfl, fills_whole testManager testExecutor ⟨"binance", testManager, true⟩ hd rfl⟩

end Trading
